import SentryPeer.Source.Conf

/-!
# How the environment and the command line compose

The documented layering is command line over environment over default, and a mode is on when either
layer asks for it. The `getopt` build follows it up to values that do not fit their buffers and up
to `SENTRYPEER_WEBHOOK`, which is documented and never read; the clap build also assigns six modes
instead of raising them.
-/

namespace SentryPeer.Proof
open Lib

inductive Mode
  | api
  | debug
  | verbose
  | syslog
  | jsonLog
  | p2p
  | sipResponsive
  | webhook
  | oauth2
deriving DecidableEq

inductive StringOption
  | dbFile
  | jsonLogFile
  | bootstrapNode
  | webhookUrl
  | clientId
  | clientSecret
deriving DecidableEq

def Mode.isOn (config : Config) : Mode → Bool
  | .api => config.apiMode
  | .debug => config.debugMode
  | .verbose => config.verboseMode
  | .syslog => config.syslogMode
  | .jsonLog => config.jsonLogMode
  | .p2p => config.p2pDhtMode
  | .sipResponsive => config.sipResponsiveMode
  | .webhook => config.webhookMode
  | .oauth2 => config.oauth2Mode

def Mode.variables : Mode → List EnvVar
  | .api => [.sentrypeerApi]
  | .debug => [.sentrypeerDebug]
  | .verbose => [.sentrypeerVerbose]
  | .syslog => [.sentrypeerSyslog]
  | .jsonLog => [.sentrypeerJsonLog, .sentrypeerJsonLogFile]
  | .p2p => [.sentrypeerPeerToPeer]
  | .sipResponsive => [.sentrypeerSipResponsive]
  | .webhook => [.sentrypeerWebhook, .sentrypeerWebhookUrl]
  | .oauth2 => [.sentrypeerOauth2ClientId, .sentrypeerOauth2ClientSecret]

def Mode.inEnv (env : Env) (mode : Mode) : Bool := mode.variables.any fun var => (env var).isSome

namespace StringOption

def get (config : Config) : StringOption → CStr
  | .dbFile => config.dbFile
  | .jsonLogFile => config.jsonLogFile
  | .bootstrapNode => config.p2pBootstrapNode
  | .webhookUrl => config.webhookUrl
  | .clientId => config.oauth2ClientId
  | .clientSecret => config.oauth2ClientSecret

def envVar : StringOption → EnvVar
  | .dbFile => .sentrypeerDbFile
  | .jsonLogFile => .sentrypeerJsonLogFile
  | .bootstrapNode => .sentrypeerBootstrapNode
  | .webhookUrl => .sentrypeerWebhookUrl
  | .clientId => .sentrypeerOauth2ClientId
  | .clientSecret => .sentrypeerOauth2ClientSecret

def limit : StringOption → Nat
  | .dbFile | .jsonLogFile => sentrypeerPathMax
  | _ => dnsMaxLength

def default (option : StringOption) : CStr :=
  option.get (sentrypeerConfigNew ⟨false, false⟩ (.lit ""))

end StringOption

structure CliRequest where
  mode : Mode → Bool
  sipDisable : Bool
  value : StringOption → Option CStr

def optionRequests : CliOption → Mode → Bool
  | .api, .api | .debug, .debug | .verbose, .verbose | .syslog, .syslog | .json, .jsonLog
  | .jsonLogFile _, .jsonLog | .p2p, .p2p | .responsive, .sipResponsive | .webhookUrl _, .webhook
  | .clientId _, .oauth2 | .clientSecret _, .oauth2 => true
  | _, _ => false

def optionValue : StringOption → CliOption → Option CStr
  | .dbFile, .dbFile optarg | .jsonLogFile, .jsonLogFile optarg
  | .bootstrapNode, .bootstrap optarg | .webhookUrl, .webhookUrl optarg
  | .clientId, .clientId optarg | .clientSecret, .clientSecret optarg => some optarg
  | _, _ => none

/-- A repeated option counts with its last value. -/
def requestOfOptions (options : List CliOption) : CliRequest where
  mode mode := options.any fun option => optionRequests option mode
  sipDisable := options.contains .unresponsive
  value option := (options.filterMap (optionValue option)).getLast?

def requestOfArgs (args : Args) : CliRequest where
  mode
    | .api => args.api
    | .debug => args.debug
    | .verbose => args.verbose
    | .syslog => args.syslog
    | .jsonLog => args.json
    | .p2p => args.p2p
    | .sipResponsive => args.responsive
    | .webhook => args.webhookUrl.isSome
    | .oauth2 => args.clientId.isSome || args.clientSecret.isSome
  sipDisable := args.unresponsive
  value
    | .dbFile => args.dbFile
    | .jsonLogFile => args.jsonLogFile
    | .bootstrapNode => args.bootstrap
    | .webhookUrl => args.webhookUrl
    | .clientId => args.clientId
    | .clientSecret => args.clientSecret

/-- The request an argument list makes; `none` when the Rust side does not read the list. -/
def cliRequest (build : Build) (library : CliLibrary) (argv : List CStr) : Option CliRequest :=
  if build.rust then
    if argv.all fun arg => validUtf8 arg.bytes then
      (library.clap argv).toOption.map requestOfArgs
    else none
  else some (requestOfOptions (getopt library.permutes none argv.tail))

/-- The documented layering of a configuration over an environment and a command line. -/
structure Layered (env : Env) (request : CliRequest) (config : Config) : Prop where
  modes : ∀ mode : Mode, mode.isOn config = (mode.inEnv env || request.mode mode)
  sip : config.sipMode = false ↔ (env .sentrypeerSipDisable).isSome ∨ request.sipDisable = true
  strings : ∀ option : StringOption, option.get config =
    (request.value option).getD ((env option.envVar).getD option.default)

/-! ## The environment pass -/

def Mode.variablesRead : Mode → List EnvVar
  | .webhook => [.sentrypeerWebhookUrl]
  | mode => mode.variables

theorem isOn_processEnvVars (env : Env) (config : Config) (mode : Mode) :
    mode.isOn (processEnvVars env config) =
      ((mode.variablesRead.any fun var => (env var).isSome) || mode.isOn config) := by
  cases mode <;> simp [Mode.isOn, Mode.variablesRead, Mode.variables, processEnvVars, Bool.or_assoc]
  exact Bool.or_left_comm _ _ _

theorem get_processEnvVars (env : Env) (config : Config) (option : StringOption) :
    option.get (processEnvVars env config) =
      envString (option.get config) (env option.envVar) option.limit := by
  cases option <;> rfl

theorem sipMode_processEnvVars (env : Env) (config : Config) :
    (processEnvVars env config).sipMode = (!(env .sentrypeerSipDisable).isSome && config.sipMode) :=
  rfl

theorem default_fits (option : StringOption) : option.default.length ≤ option.limit := by
  cases option <;> decide

theorem get_configNew (build : Build) (nodeId : CStr) (option : StringOption) :
    option.get (sentrypeerConfigNew build nodeId) = option.default := by
  cases option <;> rfl

theorem utilCopyString_fits {dest : CStr} {limit : Nat} (fits : dest.length ≤ limit) (src : CStr) :
    (utilCopyString dest src limit).length ≤ limit := by
  unfold utilCopyString
  split_ifs with long
  · exact fits
  · exact Nat.le_of_not_lt long

theorem utilCopyString_eq_src {dest src : CStr} {limit : Nat} (fits : dest.length ≤ limit) :
    utilCopyString dest src limit = src ↔ src.length ≤ limit := by
  constructor
  · intro equal
    exact equal ▸ utilCopyString_fits fits src
  · intro short
    exact if_neg (Nat.not_lt.mpr short)

theorem envString_fits {dest : CStr} {limit : Nat} (fits : dest.length ≤ limit)
    (value : Option CStr) : (envString dest value limit).length ≤ limit := by
  cases value with
  | none => exact fits
  | some src => exact utilCopyString_fits fits src

theorem envString_eq_getD {dest : CStr} {limit : Nat} (fits : dest.length ≤ limit)
    (value : Option CStr) :
    envString dest value limit = value.getD dest ↔ ∀ src, value = some src → src.length ≤ limit := by
  cases value with
  | none => simp [envString]
  | some src => simpa [envString] using utilCopyString_eq_src fits

/-! ## The `getopt` loop -/

structure OptionEffect (config next : Config) (cliOption : CliOption) : Prop where
  modes : ∀ mode : Mode, mode.isOn next = (mode.isOn config || optionRequests cliOption mode)
  sip : next.sipMode = (config.sipMode && !(CliOption.unresponsive == cliOption))
  strings : ∀ option : StringOption, option.get next = match optionValue option cliOption with
    | some optarg => utilCopyString (option.get config) optarg option.limit
    | none => option.get config

theorem applyOption_effect {build : Build} {config next : Config} {cliOption : CliOption}
    (applied : applyOption build config cliOption = .ok next) :
    OptionEffect config next cliOption := by
  cases cliOption with
  | help | version | unknown => cases applied
  | dbFile optarg =>
      simp only [applyOption, setDbFileLocation, setFileLocation] at applied
      split_ifs at applied <;> cases applied
      exact ⟨fun mode => by cases mode <;> simp [Mode.isOn, optionRequests], by simp,
        fun option => by cases option <;> rfl⟩
  | jsonLogFile optarg =>
      simp only [applyOption, setJsonLogFileLocation, setFileLocation] at applied
      split_ifs at applied <;> cases applied
      exact ⟨fun mode => by cases mode <;> simp [Mode.isOn, optionRequests], by simp,
        fun option => by cases option <;> rfl⟩
  | p2p =>
      simp only [applyOption] at applied
      split_ifs at applied
      cases applied
      exact ⟨fun mode => by cases mode <;> simp [Mode.isOn, optionRequests], by simp,
        fun option => by cases option <;> rfl⟩
  | _ =>
      cases applied
      exact ⟨fun mode => by cases mode <;> simp [Mode.isOn, optionRequests], by simp,
        fun option => by cases option <;> rfl⟩

theorem applyOption_error {build : Build} {config : Config} {cliOption : CliOption}
    {result : CliResult} (stopped : applyOption build config cliOption = .error result)
    (last : Config) : result ≠ .returned last .success := by
  cases cliOption with
  | dbFile optarg =>
      simp only [applyOption, setDbFileLocation, setFileLocation] at stopped
      split_ifs at stopped <;> cases stopped
      exact fun equal => by cases equal
  | jsonLogFile optarg =>
      simp only [applyOption, setJsonLogFileLocation, setFileLocation] at stopped
      split_ifs at stopped <;> cases stopped
      exact fun equal => by cases equal
  | p2p =>
      simp only [applyOption] at stopped
      split_ifs at stopped
      cases stopped
      exact fun equal => by cases equal
  | _ => cases stopped <;> exact fun equal => by cases equal

theorem applyOptions_error {build : Build} {config : Config} {options : List CliOption}
    {result : CliResult} (stopped : applyOptions build config options = .error result)
    (last : Config) : result ≠ .returned last .success := by
  induction options generalizing config with
  | nil => cases stopped
  | cons cliOption rest ih =>
      cases first : applyOption build config cliOption with
      | error early =>
          simp only [applyOptions, first, bind, Except.bind, Except.error.injEq] at stopped
          exact stopped ▸ applyOption_error first last
      | ok next =>
          simp only [applyOptions, first, bind, Except.bind] at stopped
          exact ih stopped

theorem isOn_applyOptions {build : Build} {config last : Config} {options : List CliOption}
    (applied : applyOptions build config options = .ok last) (mode : Mode) :
    mode.isOn last = (mode.isOn config || (requestOfOptions options).mode mode) := by
  induction options generalizing config with
  | nil => cases applied; simp [requestOfOptions]
  | cons option rest ih =>
      obtain ⟨next, first, applied⟩ := bind_eq_ok.mp applied
      rw [ih applied, (applyOption_effect first).modes]
      simp [requestOfOptions, Bool.or_assoc]

theorem sipMode_applyOptions {build : Build} {config last : Config} {options : List CliOption}
    (applied : applyOptions build config options = .ok last) :
    last.sipMode = (config.sipMode && !(requestOfOptions options).sipDisable) := by
  induction options generalizing config with
  | nil => cases applied; simp [requestOfOptions]
  | cons option rest ih =>
      obtain ⟨next, first, applied⟩ := bind_eq_ok.mp applied
      rw [ih applied, (applyOption_effect first).sip]
      simp only [requestOfOptions, List.contains_cons, Bool.not_or, Bool.and_assoc]

theorem get_applyOptions {build : Build} {config last : Config} {options : List CliOption}
    (applied : applyOptions build config options = .ok last) (option : StringOption) :
    option.get last = (options.filterMap (optionValue option)).foldl
      (fun dest optarg => utilCopyString dest optarg option.limit) (option.get config) := by
  induction options generalizing config with
  | nil => cases applied; rfl
  | cons cliOption rest ih =>
      obtain ⟨next, first, applied⟩ := bind_eq_ok.mp applied
      rw [ih applied, (applyOption_effect first).strings]
      cases given : optionValue option cliOption <;> simp [given]

theorem foldl_copy_fits (values : List CStr) {dest : CStr} {limit : Nat}
    (fits : dest.length ≤ limit) :
    (values.foldl (fun dest src => utilCopyString dest src limit) dest).length ≤ limit := by
  induction values generalizing dest with
  | nil => exact fits
  | cons src rest ih => exact ih (utilCopyString_fits fits src)

theorem foldl_copy_eq_last {values : List CStr} {dest last : CStr} {limit : Nat}
    (fits : dest.length ≤ limit) (given : values.getLast? = some last) :
    values.foldl (fun dest src => utilCopyString dest src limit) dest = last ↔
      last.length ≤ limit := by
  obtain ⟨before, rfl⟩ := List.getLast?_eq_some_iff.mp given
  rw [List.foldl_append]
  exact utilCopyString_eq_src (foldl_copy_fits before fits)

/-! ## Exactly when the layers compose -/

/-- The modes that `parse_args` assigns from the command line alone. -/
def Mode.assignedByArgs : Mode → Bool
  | .api | .debug | .verbose | .syslog | .p2p | .sipResponsive => true
  | .jsonLog | .webhook | .oauth2 => false

structure Composes (build : Build) (env : Env) (request : CliRequest) : Prop where
  modes : build.rust = true → ∀ mode : Mode, mode.assignedByArgs = true → mode.inEnv env = true →
    request.mode mode = true
  webhook : (env .sentrypeerWebhook).isSome →
    (env .sentrypeerWebhookUrl).isSome ∨ request.mode .webhook = true
  cliFits : build.rust = false → ∀ (option : StringOption) value,
    request.value option = some value → value.length ≤ option.limit
  envFits : ∀ (option : StringOption) value, request.value option = none →
    env option.envVar = some value → value.length ≤ option.limit

theorem envLayer_eq_iff (env : Env) (build : Build) (nodeId : CStr) (option : StringOption) :
    option.get (processEnvVars env (sentrypeerConfigNew build nodeId)) =
      (env option.envVar).getD option.default ↔
      ∀ value, env option.envVar = some value → value.length ≤ option.limit := by
  rw [get_processEnvVars, get_configNew]
  exact envString_eq_getD (default_fits option) _

theorem envLayer_fits (env : Env) (build : Build) (nodeId : CStr) (option : StringOption) :
    (option.get (processEnvVars env (sentrypeerConfigNew build nodeId))).length ≤ option.limit := by
  rw [get_processEnvVars, get_configNew]
  exact envString_fits (default_fits option) _

theorem isOn_configNew (build : Build) (nodeId : CStr) (mode : Mode) :
    mode.isOn (sentrypeerConfigNew build nodeId) = false := by
  cases mode <;> rfl

theorem inEnv_eq_of_ne {mode : Mode} (other : mode ≠ .webhook) (env : Env) :
    mode.inEnv env = mode.variablesRead.any fun var => (env var).isSome := by
  cases mode <;> first | rfl | exact absurd rfl other

theorem webhook_mode_iff (env : Env) (asked : Bool) :
    ((Mode.webhook.variablesRead.any fun var => (env var).isSome) || asked) =
      (Mode.webhook.inEnv env || asked) ↔
      ((env .sentrypeerWebhook).isSome → (env .sentrypeerWebhookUrl).isSome ∨ asked = true) := by
  simp only [Mode.variablesRead, Mode.inEnv, Mode.variables, List.any_cons, List.any_nil,
    Bool.or_false]
  cases (env .sentrypeerWebhook).isSome <;> cases (env .sentrypeerWebhookUrl).isSome <;>
    cases asked <;> simp

theorem getopt_layered_iff {build : Build} (noRust : build.rust = false) (env : Env) (nodeId : CStr)
    {options : List CliOption} {config : Config}
    (applied : applyOptions build (processEnvVars env (sentrypeerConfigNew build nodeId)) options =
      .ok config) :
    Layered env (requestOfOptions options) config ↔
      Composes build env (requestOfOptions options) := by
  have on (mode : Mode) : mode.isOn config =
      ((mode.variablesRead.any fun var => (env var).isSome) ||
        (requestOfOptions options).mode mode) := by
    rw [isOn_applyOptions applied, isOn_processEnvVars, isOn_configNew, Bool.or_false]
  have value (option : StringOption) : option.get config =
      ((requestOfOptions options).value option).getD
        ((env option.envVar).getD option.default) ↔
      (∀ given, (requestOfOptions options).value option = some given →
        given.length ≤ option.limit) ∧
      ((requestOfOptions options).value option = none → ∀ given,
        env option.envVar = some given → given.length ≤ option.limit) := by
    rw [get_applyOptions applied]
    cases last : (requestOfOptions options).value option with
    | none =>
        have empty : options.filterMap (optionValue option) = [] := List.getLast?_eq_none_iff.mp last
        simpa [empty] using envLayer_eq_iff env build nodeId option
    | some given =>
        simpa using foldl_copy_eq_last (envLayer_fits env build nodeId option) last
  constructor
  · intro layered
    refine ⟨fun rust => ?_, ?_, fun _ option => ?_, fun option given absent => ?_⟩
    · rw [noRust] at rust
      cases rust
    · exact (webhook_mode_iff env _).mp ((on .webhook).symm.trans (layered.modes .webhook))
    · exact ((value option).mp (layered.strings option)).1
    · exact ((value option).mp (layered.strings option)).2 absent given
  · intro composes
    refine ⟨fun mode => ?_, ?_, fun option => ?_⟩
    · rw [on mode]
      by_cases webhook : mode = .webhook
      · rw [webhook]
        exact (webhook_mode_iff env _).mpr composes.webhook
      · rw [inEnv_eq_of_ne webhook]
    · rw [sipMode_applyOptions applied, sipMode_processEnvVars]
      simp [sentrypeerConfigNew]
      cases (env .sentrypeerSipDisable) <;> simp
    · exact (value option).mpr ⟨composes.cliFits noRust option,
        fun absent given => composes.envFits option given absent⟩

/-! ## The clap pass -/

theorem processCliRs_fst (library : CliLibrary) (config : Config) (args : Args) :
    (∀ mode : Mode, mode.isOn (processCliRs library config args).1 =
      mode.isOn (applyArgs args config)) ∧
    (processCliRs library config args).1.sipMode = (applyArgs args config).sipMode ∧
    ∀ option : StringOption, option.get (processCliRs library config args).1 =
      option.get (applyArgs args config) := by
  unfold processCliRs applyTlsArgs
  split_ifs
  all_goals exact ⟨fun mode => by cases mode <;> rfl, rfl, fun option => by cases option <;> rfl⟩

theorem isOn_applyArgs (args : Args) (config : Config) (mode : Mode) :
    mode.isOn (applyArgs args config) =
      ((!mode.assignedByArgs && mode.isOn config) || (requestOfArgs args).mode mode) := by
  unfold applyArgs
  cases json : args.json <;> cases mode <;>
    simp [Mode.isOn, Mode.assignedByArgs, requestOfArgs, json, Bool.or_comm, Bool.or_assoc]

theorem get_applyArgs (args : Args) (config : Config) (option : StringOption) :
    option.get (applyArgs args config) =
      ((requestOfArgs args).value option).getD (option.get config) := by
  unfold applyArgs
  cases json : args.json with
  | true => cases option <;> rfl
  | false =>
      have absent : args.jsonLogFile = none := by
        by_contra given
        have asked := args.jsonLogFileRequires (Option.isSome_iff_ne_none.mpr given)
        simp [json] at asked
      cases option <;> simp [StringOption.get, requestOfArgs, absent]

theorem args_layered_iff {build : Build} (rust : build.rust = true) (library : CliLibrary)
    (env : Env) (nodeId : CStr) (args : Args) :
    Layered env (requestOfArgs args)
      (processCliRs library (processEnvVars env (sentrypeerConfigNew build nodeId)) args).1 ↔
      Composes build env (requestOfArgs args) := by
  obtain ⟨sameModes, sameSip, sameStrings⟩ :=
    processCliRs_fst library (processEnvVars env (sentrypeerConfigNew build nodeId)) args
  generalize hc : (processCliRs library (processEnvVars env (sentrypeerConfigNew build nodeId))
    args).1 = config at sameModes sameSip sameStrings ⊢
  have on (mode : Mode) : mode.isOn config =
      ((!mode.assignedByArgs && mode.variablesRead.any fun var => (env var).isSome) ||
        (requestOfArgs args).mode mode) := by
    rw [sameModes, isOn_applyArgs, isOn_processEnvVars, isOn_configNew, Bool.or_false]
  have value (option : StringOption) : option.get config =
      ((requestOfArgs args).value option).getD ((env option.envVar).getD option.default) ↔
      ((requestOfArgs args).value option = none → ∀ given,
        env option.envVar = some given → given.length ≤ option.limit) := by
    rw [sameStrings, get_applyArgs]
    cases (requestOfArgs args).value option with
    | none => simpa using envLayer_eq_iff env build nodeId option
    | some given => simp
  constructor
  · intro layered
    refine ⟨fun _ mode assigned asked => ?_, ?_, fun noRust => ?_, fun option given absent => ?_⟩
    · have equal := (on mode).symm.trans (layered.modes mode)
      simpa [assigned, asked] using equal
    · exact (webhook_mode_iff env _).mp ((on .webhook).symm.trans (layered.modes .webhook))
    · rw [rust] at noRust
      cases noRust
    · exact (value option).mp (layered.strings option) absent given
  · intro composes
    refine ⟨fun mode => ?_, ?_, fun option => ?_⟩
    · rw [on mode]
      by_cases webhook : mode = .webhook
      · rw [webhook]
        exact (webhook_mode_iff env _).mpr composes.webhook
      · cases assigned : mode.assignedByArgs with
        | true =>
            have asked := composes.modes rust mode assigned
            cases inEnv : mode.inEnv env <;> simp_all
        | false =>
            rw [inEnv_eq_of_ne webhook]
            simp
    · rw [sameSip]
      cases h : args.unresponsive <;> cases hj : args.json <;> cases hs : env .sentrypeerSipDisable <;>
        simp [applyArgs, requestOfArgs, sipMode_processEnvVars, sentrypeerConfigNew, h, hj, hs]
    · exact (value option).mpr fun absent given => composes.envFits option given absent

def noArgs : Args where
  dbFile := none
  json := false
  p2p := false
  bootstrap := none
  clientId := none
  clientSecret := none
  api := false
  webhookUrl := none
  responsive := false
  unresponsive := false
  jsonLogFile := none
  newMode := false
  tlsCertFile := none
  tlsKeyFile := none
  tlsListenAddress := none
  configFile := none
  syslog := false
  verbose := false
  debug := false
  bootstrapRequires := by simp
  clientIdRequires := rfl
  jsonLogFileRequires := by simp
  tlsRequires := ⟨rfl, rfl⟩

def plainLibrary : CliLibrary where
  permutes := true
  clap _ := .ok noArgs
  files := ⟨true, true, true⟩

def onlyApiSet : Env
  | .sentrypeerApi => some (.lit "1")
  | _ => none

end SentryPeer.Proof
