import SentryPeer.Source.Types

/-!
# The configuration

`conf.c` (constructor, environment pass, `getopt` loop) and `cli.rs` (the clap pass of the Rust
build). `getenv` is a function of the variable; clap and the file system are parameters.
-/

namespace SentryPeer
open Lib

def sentrypeerPathMax : Nat := 4096
def dnsMaxLength : Nat := 256

def sentrypeerConfigNew (build : Build) (nodeId : CStr) : Config where
  apiMode := false
  debugMode := false
  newMode := build.rust
  jsonLogMode := false
  p2pDhtMode := false
  sipMode := true
  sipResponsiveMode := false
  syslogMode := false
  verboseMode := false
  webhookMode := false
  webhookUrl := .lit "http://localhost:4000/api/events"
  oauth2Mode := false
  oauth2ClientId := .lit "YOUR_CLIENT_ID"
  oauth2ClientSecret := .lit "YOUR_CLIENT_SECRET"
  oauth2AccessToken := none
  dbFile := .lit "sentrypeer.db"
  jsonLogFile := .lit "sentrypeer_json.log"
  nodeId := nodeId
  p2pBootstrapNode := .lit "bootstrap.sentrypeer.org"
  tlsCertFile := none
  tlsKeyFile := none
  tlsListenAddress := none
  configFile := none

-- `util_copy_string` returns null, and leaves the destination alone, when the source is too long;
-- none of its callers in `conf.c` look at the result.
def utilCopyString (dest src : CStr) (destLen : Nat) : CStr :=
  if src.length > destLen then dest else src

inductive EnvVar
  | sentrypeerDbFile
  | sentrypeerJsonLogFile
  | sentrypeerBootstrapNode
  | sentrypeerApi
  | sentrypeerOauth2ClientId
  | sentrypeerOauth2ClientSecret
  | sentrypeerWebhook
  | sentrypeerWebhookUrl
  | sentrypeerSipResponsive
  | sentrypeerSipDisable
  | sentrypeerSyslog
  | sentrypeerJsonLog
  | sentrypeerPeerToPeer
  | sentrypeerVerbose
  | sentrypeerDebug
deriving DecidableEq

abbrev Env := EnvVar → Option CStr

def envString (dest : CStr) (value : Option CStr) (destLen : Nat) : CStr :=
  match value with
  | some src => utilCopyString dest src destLen
  | none => dest

def processEnvVars (env : Env) (config : Config) : Config :=
  let config := { config with
    dbFile := envString config.dbFile (env .sentrypeerDbFile) sentrypeerPathMax }
  let config := { config with
    jsonLogFile := envString config.jsonLogFile (env .sentrypeerJsonLogFile) sentrypeerPathMax
    jsonLogMode := (env .sentrypeerJsonLogFile).isSome || config.jsonLogMode }
  let config := { config with
    p2pBootstrapNode :=
      envString config.p2pBootstrapNode (env .sentrypeerBootstrapNode) dnsMaxLength }
  let config := { config with apiMode := (env .sentrypeerApi).isSome || config.apiMode }
  let config := { config with
    oauth2ClientId := envString config.oauth2ClientId (env .sentrypeerOauth2ClientId) dnsMaxLength
    oauth2Mode := (env .sentrypeerOauth2ClientId).isSome || config.oauth2Mode }
  let config := { config with
    oauth2ClientSecret :=
      envString config.oauth2ClientSecret (env .sentrypeerOauth2ClientSecret) dnsMaxLength
    oauth2Mode := (env .sentrypeerOauth2ClientSecret).isSome || config.oauth2Mode }
  let config := { config with
    webhookUrl := envString config.webhookUrl (env .sentrypeerWebhookUrl) dnsMaxLength
    webhookMode := (env .sentrypeerWebhookUrl).isSome || config.webhookMode }
  let config := { config with
    sipResponsiveMode := (env .sentrypeerSipResponsive).isSome || config.sipResponsiveMode }
  let config := { config with
    sipMode := !(env .sentrypeerSipDisable).isSome && config.sipMode }
  let config := { config with syslogMode := (env .sentrypeerSyslog).isSome || config.syslogMode }
  let config := { config with jsonLogMode := (env .sentrypeerJsonLog).isSome || config.jsonLogMode }
  let config := { config with p2pDhtMode := (env .sentrypeerPeerToPeer).isSome || config.p2pDhtMode }
  let config := { config with verboseMode := (env .sentrypeerVerbose).isSome || config.verboseMode }
  { config with debugMode := (env .sentrypeerDebug).isSome || config.debugMode }

/-! ## `getopt` -/

/-- The options of `"hVvf:l:b:c:i:w:jpdrRas"`; `unknown` is `getopt`'s question mark. -/
inductive CliOption
  | help
  | version
  | bootstrap (optarg : CStr)
  | dbFile (optarg : CStr)
  | jsonLogFile (optarg : CStr)
  | api
  | clientSecret (optarg : CStr)
  | debug
  | responsive
  | unresponsive
  | clientId (optarg : CStr)
  | json
  | p2p
  | syslog
  | verbose
  | webhookUrl (optarg : CStr)
  | unknown
deriving DecidableEq

def optionOf (c : UInt8) : CliOption ⊕ (CStr → CliOption) :=
  if c = 0x68 then .inl .help
  else if c = 0x56 then .inl .version
  else if c = 0x76 then .inl .verbose
  else if c = 0x66 then .inr .dbFile
  else if c = 0x6C then .inr .jsonLogFile
  else if c = 0x62 then .inr .bootstrap
  else if c = 0x63 then .inr .clientSecret
  else if c = 0x69 then .inr .clientId
  else if c = 0x77 then .inr .webhookUrl
  else if c = 0x6A then .inl .json
  else if c = 0x70 then .inl .p2p
  else if c = 0x64 then .inl .debug
  else if c = 0x72 then .inl .responsive
  else if c = 0x52 then .inl .unresponsive
  else if c = 0x61 then .inl .api
  else if c = 0x73 then .inl .syslog
  else .inl .unknown

/-- One `-` element: its options, and the option whose argument is the next element. -/
def getoptElement : (cs : List UInt8) → 0 ∉ cs → List CliOption × Option (CStr → CliOption)
  | [], _ => ([], none)
  | c :: cs, noNul =>
      have rest : 0 ∉ cs := fun member => noNul (List.mem_cons_of_mem c member)
      match optionOf c with
      | .inl flag =>
          let (more, pending) := getoptElement cs rest
          (flag :: more, pending)
      | .inr withArgument =>
          if cs = [] then ([], some withArgument) else ([withArgument ⟨cs, rest⟩], none)

/-- The options `getopt` returns, in order. glibc skips the elements that are not options, other
libraries stop at the first one. -/
def getopt (permutes : Bool) : Option (CStr → CliOption) → List CStr → List CliOption
  | none, [] => []
  | some _, [] => [.unknown]
  | some withArgument, element :: rest => withArgument element :: getopt permutes none rest
  | none, ⟨bytes, noNul⟩ :: rest =>
      if bytes = [0x2D, 0x2D] then []
      else match bytes, noNul with
        | 0x2D :: c :: cs, noNul =>
            let (options, pending) :=
              getoptElement (c :: cs) fun member => noNul (List.mem_cons_of_mem _ member)
            options ++ getopt permutes pending rest
        | _, _ => if permutes then getopt permutes none rest else []

def setFileLocation (dest location : CStr) : Option CStr :=
  if location.bytes.head? = some 0x2F then some (utilCopyString dest location sentrypeerPathMax)
  else none

def setDbFileLocation (config : Config) (cliDbFileLocation : CStr) : Option Config :=
  (setFileLocation config.dbFile cliDbFileLocation).map fun dbFile => { config with dbFile }

def setJsonLogFileLocation (config : Config) (cliJsonLogFileLocation : CStr) : Option Config :=
  (setFileLocation config.jsonLogFile cliJsonLogFileLocation).map fun jsonLogFile =>
    { config with jsonLogFile }

def strncat (dest src : CStr) (n : Nat) : CStr := .ofMemory (dest.bytes ++ src.bytes.take n)

/-- The same for any call: without a path, the location comes from the environment or else is in
the working directory. A `getcwd` that fails leaves the buffer unspecified. -/
def setLocation (getcwd : Except CStr CStr) (envValue : Option CStr) (fileName dest : CStr) :
    Option CStr → CStr × Exit
  | none =>
      match envValue, getcwd with
      | some value, _ => (utilCopyString dest value sentrypeerPathMax, .success)
      | none, .error buffer => (buffer, .failure)
      | none, .ok directory =>
          let path := strncat directory (.lit "/") (sentrypeerPathMax - directory.length)
          (strncat path fileName (sentrypeerPathMax - path.length), .success)
  | some location =>
      if location.bytes.head? = some 0x2F then
        (utilCopyString dest location sentrypeerPathMax, .success)
      else (dest, .failure)

def setDbFileLocationCall (getcwd : Except CStr CStr) (env : Env) (config : Config)
    (cliDbFileLocation : Option CStr) : Config × Exit :=
  let (dbFile, exit) := setLocation getcwd (env .sentrypeerDbFile) (.lit "sentrypeer.db")
    config.dbFile cliDbFileLocation
  ({ config with dbFile }, exit)

def setJsonLogFileLocationCall (getcwd : Except CStr CStr) (env : Env) (config : Config)
    (cliJsonLogFileLocation : Option CStr) : Config × Exit :=
  let (jsonLogFile, exit) := setLocation getcwd (env .sentrypeerJsonLogFile)
    (.lit "sentrypeer_json.log") config.jsonLogFile cliJsonLogFileLocation
  ({ config with jsonLogFile }, exit)

inductive CliResult
  | exited (code : Exit)
  | returned (config : Config) (exit : Exit)
deriving DecidableEq

/-- One round of the `getopt` loop; the error is how the loop ends the call or the process. -/
def applyOption (build : Build) (config : Config) : CliOption → Except CliResult Config
  | .help | .version => .error (.exited .success)
  | .bootstrap optarg => .ok { config with
      p2pBootstrapNode := utilCopyString config.p2pBootstrapNode optarg dnsMaxLength }
  | .dbFile optarg =>
      match setDbFileLocation config optarg with
      | none => .error (.exited .failure)
      | some config => .ok config
  | .jsonLogFile optarg =>
      match setJsonLogFileLocation config optarg with
      | none => .error (.exited .failure)
      | some config => .ok { config with jsonLogMode := true }
  | .api => .ok { config with apiMode := true }
  | .clientSecret optarg => .ok { config with
      oauth2Mode := true
      oauth2ClientSecret := utilCopyString config.oauth2ClientSecret optarg dnsMaxLength }
  | .debug => .ok { config with debugMode := true }
  | .responsive => .ok { config with sipResponsiveMode := true }
  | .unresponsive => .ok { config with sipMode := false }
  | .clientId optarg => .ok { config with
      oauth2Mode := true
      oauth2ClientId := utilCopyString config.oauth2ClientId optarg dnsMaxLength }
  | .json => .ok { config with jsonLogMode := true }
  | .p2p =>
      if build.openDht then .ok { config with p2pDhtMode := true } else .error (.exited .failure)
  | .syslog => .ok { config with syslogMode := true }
  | .verbose => .ok { config with verboseMode := true }
  | .webhookUrl optarg => .ok { config with
      webhookMode := true
      webhookUrl := utilCopyString config.webhookUrl optarg dnsMaxLength }
  | .unknown => .error (.returned config .failure)

def applyOptions (build : Build) : Config → List CliOption → Except CliResult Config
  | config, [] => .ok config
  | config, cliOption :: rest => do applyOptions build (← applyOption build config cliOption) rest

/-! ## clap -/

/-- What `Args::parse_from` gives for an argument list it accepts. The last fields are the
`requires` attributes. -/
structure Args where
  dbFile : Option CStr
  json : Bool
  p2p : Bool
  bootstrap : Option CStr
  clientId : Option CStr
  clientSecret : Option CStr
  api : Bool
  webhookUrl : Option CStr
  responsive : Bool
  unresponsive : Bool
  jsonLogFile : Option CStr
  newMode : Bool
  tlsCertFile : Option CStr
  tlsKeyFile : Option CStr
  tlsListenAddress : Option CStr
  configFile : Option CStr
  syslog : Bool
  verbose : Bool
  debug : Bool
  bootstrapRequires : bootstrap.isSome → p2p
  clientIdRequires : clientId.isSome = clientSecret.isSome
  jsonLogFileRequires : jsonLogFile.isSome → json
  tlsRequires : tlsCertFile.isSome = tlsKeyFile.isSome ∧ tlsKeyFile.isSome = tlsListenAddress.isSome

/-- The files `parse_args` looks for, and whether asking for a new certificate succeeds. -/
structure TlsFiles where
  certExists : Bool
  keyExists : Bool
  certCreated : Bool

def applyArgs (args : Args) (config : Config) : Config :=
  let config := { config with
    apiMode := args.api
    debugMode := args.debug
    p2pDhtMode := args.p2p
    sipMode := !args.unresponsive && config.sipMode
    newMode := !args.newMode && config.newMode
    sipResponsiveMode := args.responsive
    syslogMode := args.syslog
    verboseMode := args.verbose }
  let config := { config with dbFile := args.dbFile.getD config.dbFile }
  let config :=
    if args.json then { config with
      jsonLogMode := true
      jsonLogFile := args.jsonLogFile.getD config.jsonLogFile }
    else config
  let config := { config with p2pBootstrapNode := args.bootstrap.getD config.p2pBootstrapNode }
  let config := { config with
    oauth2Mode := args.clientId.isSome || config.oauth2Mode
    oauth2ClientId := args.clientId.getD config.oauth2ClientId }
  let config := { config with
    oauth2Mode := args.clientSecret.isSome || config.oauth2Mode
    oauth2ClientSecret := args.clientSecret.getD config.oauth2ClientSecret }
  { config with
    webhookMode := args.webhookUrl.isSome || config.webhookMode
    webhookUrl := args.webhookUrl.getD config.webhookUrl }

/-- The TLS options and the configuration file; a `false` is an error returned half way. -/
def applyTlsArgs (files : TlsFiles) (args : Args) (config : Config) : Config × Bool :=
  if args.tlsCertFile.isSome && !files.certExists && !files.certCreated then (config, false)
  else
    let config := { config with tlsCertFile := args.tlsCertFile.or config.tlsCertFile }
    if args.tlsKeyFile.isSome && !files.keyExists then (config, false)
    else ({ config with
      tlsKeyFile := args.tlsKeyFile.or config.tlsKeyFile
      tlsListenAddress := args.tlsListenAddress.or config.tlsListenAddress
      configFile := args.configFile.or config.configFile }, true)

/-- The libraries under the command line: `getopt`'s order, clap, and the TLS files. clap ends the
process on a list it does not accept, with success for the help and the version. -/
structure CliLibrary where
  permutes : Bool
  clap : List CStr → Except Exit Args
  files : TlsFiles

/-- `process_cli_rs` of an argument list that is UTF-8 and that clap accepts. -/
def processCliRs (library : CliLibrary) (config : Config) (args : Args) : Config × Exit :=
  let (config, done) := applyTlsArgs library.files args (applyArgs args config)
  (config, if done then .success else .failure)

/-- `process_cli`; the result of `process_cli_rs` is not looked at. -/
def processCli (build : Build) (library : CliLibrary) (env : Env) (config : Config)
    (argv : List CStr) : CliResult :=
  let config := processEnvVars env config
  if build.rust then
    if argv.all fun arg => validUtf8 arg.bytes then
      match library.clap argv with
      | .error code => .exited code
      | .ok args => .returned (processCliRs library config args).1 .success
    else .returned config .success
  else
    match applyOptions build config (getopt library.permutes none argv.tail) with
    | .error result => result
    | .ok config => .returned config .success

end SentryPeer
