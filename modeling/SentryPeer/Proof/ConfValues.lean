import Mathlib.Data.List.Induction
import SentryPeer.Proof.Conf

/-!
# What becomes of the values that are given

Every string option is stored by `util_copy_string`, which leaves the buffer alone when the value
is too long. So the last value that fits stays, and a last value that fits is the one in use.
-/

namespace SentryPeer.Proof
open Lib

/-- The values given for an option, oldest first, and what its buffer held before and holds now. A
bootstrap node that is too long is passed over by design. -/
structure Applied (option : StringOption) (values : List CStr) (before after : CStr) : Prop where
  last : ∀ value, values.getLast? = some value → value.length ≤ option.limit → after = value
  bootstrap : option = .bootstrapNode → after =
    ((values.filter fun value => value.length ≤ option.limit).getLast?).getD before
  absent : values = [] → after = before

/-- The options with a value that switch a mode on. -/
def Mode.switches : Mode → List StringOption
  | .webhook => [.webhookUrl]
  | .oauth2 => [.clientId, .clientSecret]
  | _ => []

/-- One of these options was given, and has its last value stored if that fits. -/
def SwitchedOnBy (options : List StringOption) (values : StringOption → List CStr)
    (after : Config) : Prop :=
  ∃ option ∈ options, ∃ value, (values option).getLast? = some value ∧
    (value.length ≤ option.limit → option.get after = value)

structure ValuesApplied (values : StringOption → List CStr) (before after : Config) : Prop where
  strings : ∀ option : StringOption,
    Applied option (values option) (option.get before) (option.get after)
  modes : ∀ mode ∈ [Mode.webhook, .oauth2], mode.isOn after = true → mode.isOn before = true ∨
    SwitchedOnBy mode.switches values after

/-- A call that sets the location of a file, with a path or for the environment's. -/
structure LocationApplied (option : StringOption) (env : Env) (location : Option CStr)
    (before after : Config) (exit : Exit) : Prop where
  applied : exit = .success → ∀ value, location.or (env option.envVar) = some value →
    value.length ≤ option.limit → option.get after = value
  refused : exit = .failure → location.isSome → after = before

def envValues (env : Env) (option : StringOption) : List CStr := (env option.envVar).toList

def cliValues (options : List CliOption) (option : StringOption) : List CStr :=
  options.filterMap (optionValue option)

/-! ## The copies -/

theorem foldl_copy_eq_filter (values : List CStr) (dest : CStr) (limit : Nat) :
    values.foldl (fun dest src => utilCopyString dest src limit) dest =
      ((values.filter fun value => value.length ≤ limit).getLast?).getD dest := by
  induction values using List.reverseRecOn with
  | nil => rfl
  | append_singleton values value ih =>
      rw [List.foldl_append, ih, List.filter_append, List.foldl_cons, List.foldl_nil, utilCopyString]
      by_cases fits : value.length ≤ limit
      · rw [if_neg (Nat.not_lt.mpr fits)]
        simp [fits]
      · rw [if_pos (Nat.lt_of_not_le fits)]
        simp [fits]

section Copies
variable {option : StringOption} {values : List CStr} {before after : CStr}

theorem applied_of_foldl (copied : after =
      values.foldl (fun dest src => utilCopyString dest src option.limit) before) :
    Applied option values before after := by
  refine ⟨fun value isLast fits => ?_, fun _ => ?_, fun none => ?_⟩
  · obtain ⟨earlier, rfl⟩ := List.getLast?_eq_some_iff.mp isLast
    rw [copied, List.foldl_append, List.foldl_cons, List.foldl_nil]
    exact if_neg (Nat.not_lt.mpr fits)
  · rw [copied, foldl_copy_eq_filter]
  · rw [copied, none]
    rfl

theorem foldl_copy_toList (value : Option CStr) (dest : CStr) (limit : Nat) :
    value.toList.foldl (fun dest src => utilCopyString dest src limit) dest =
      envString dest value limit := by
  cases value <;> rfl

end Copies

section Passes
variable {values : StringOption → List CStr} {before after : Config}

/-- What a pass copies, and that it raises the modes by their options, is all that matters. -/
theorem valuesApplied_of_foldl
    (copied : ∀ option : StringOption, option.get after = (values option).foldl
      (fun dest src => utilCopyString dest src option.limit) (option.get before))
    (raised : ∀ mode ∈ [Mode.webhook, .oauth2], mode.isOn after = true →
      mode.isOn before = true ∨ ∃ option ∈ mode.switches, values option ≠ []) :
    ValuesApplied values before after := by
  have strings (option : StringOption) :
      Applied option (values option) (option.get before) (option.get after) :=
    applied_of_foldl (copied option)
  refine ⟨strings, fun mode isMode on => ?_⟩
  refine (raised mode isMode on).imp_right ?_
  rintro ⟨option, member, given⟩
  have isLast := List.getLast?_eq_some_getLast given
  exact ⟨option, member, _, isLast, (strings option).last _ isLast⟩

theorem processEnvVars_copied (env : Env) (config : Config) (option : StringOption) :
    option.get (processEnvVars env config) = (envValues env option).foldl
      (fun dest src => utilCopyString dest src option.limit) (option.get config) := by
  rw [get_processEnvVars, envValues, foldl_copy_toList]

theorem variablesRead_switches {mode : Mode} (isMode : mode ∈ [Mode.webhook, .oauth2]) :
    mode.variablesRead = mode.switches.map StringOption.envVar := by
  cases mode <;> simp at isMode <;> rfl

theorem processEnvVars_raised {env : Env} {config : Config} {mode : Mode}
    (isMode : mode ∈ [Mode.webhook, .oauth2])
    (on : mode.isOn (processEnvVars env config) = true) :
    mode.isOn config = true ∨ ∃ option ∈ mode.switches, envValues env option ≠ [] := by
  rw [isOn_processEnvVars, variablesRead_switches isMode, Bool.or_eq_true, List.any_map,
    List.any_eq_true] at on
  refine on.symm.imp_right ?_
  rintro ⟨option, member, given⟩
  refine ⟨option, member, ?_⟩
  obtain ⟨value, isValue⟩ := Option.isSome_iff_exists.mp given
  rw [envValues, isValue]
  exact List.cons_ne_nil value []

theorem optionRequests_switches {mode : Mode} (isMode : mode ∈ [Mode.webhook, .oauth2])
    {cliOption : CliOption} (requested : optionRequests cliOption mode = true) :
    ∃ option ∈ mode.switches, (optionValue option cliOption).isSome = true := by
  cases mode <;> simp at isMode
  · cases cliOption <;> cases requested
    exact ⟨.webhookUrl, by decide, rfl⟩
  · cases cliOption <;> cases requested
    · exact ⟨.clientSecret, by decide, rfl⟩
    · exact ⟨.clientId, by decide, rfl⟩

theorem applyOptions_raised {build : Build} {config last : Config} {options : List CliOption}
    (applied : applyOptions build config options = .ok last) {mode : Mode}
    (isMode : mode ∈ [Mode.webhook, .oauth2]) (on : mode.isOn last = true) :
    mode.isOn config = true ∨ ∃ option ∈ mode.switches, cliValues options option ≠ [] := by
  rw [isOn_applyOptions applied, Bool.or_eq_true, requestOfOptions, List.any_eq_true] at on
  refine on.imp_right ?_
  rintro ⟨cliOption, inside, requested⟩
  obtain ⟨option, member, given⟩ := optionRequests_switches isMode requested
  obtain ⟨value, isValue⟩ := Option.isSome_iff_exists.mp given
  refine ⟨option, member, List.ne_nil_of_mem (a := value) ?_⟩
  exact List.mem_filterMap.mpr ⟨cliOption, inside, isValue⟩

theorem applyOptions_env_applied {build : Build} {env : Env} {config last : Config}
    {options : List CliOption}
    (applied : applyOptions build (processEnvVars env config) options = .ok last) :
    ValuesApplied (fun option => envValues env option ++ cliValues options option) config last := by
  refine valuesApplied_of_foldl (fun option => ?_) fun mode isMode on => ?_
  · rw [List.foldl_append, ← processEnvVars_copied, get_applyOptions applied]
    rfl
  · rcases applyOptions_raised applied isMode on with already | ⟨option, member, given⟩
    · refine (processEnvVars_raised isMode already).imp_right ?_
      rintro ⟨option, member, given⟩
      exact ⟨option, member, List.append_ne_nil_of_left_ne_nil given _⟩
    · exact .inr ⟨option, member, List.append_ne_nil_of_right_ne_nil _ given⟩

theorem processCli_getopt {build : Build} {library : CliLibrary} {env : Env}
    {argv : List CStr} (noRust : build.rust = false)
    (returned : processCli build library env before argv = .returned after .success) :
    applyOptions build (processEnvVars env before) (getopt library.permutes none argv.tail) =
      .ok after := by
  simp only [processCli, noRust, Bool.false_eq_true, ↓reduceIte] at returned
  cases applied : applyOptions build (processEnvVars env before)
      (getopt library.permutes none argv.tail) with
  | error result =>
      rw [applied] at returned
      exact absurd returned (applyOptions_error applied after)
  | ok last =>
      rw [applied] at returned
      cases returned
      rfl

end Passes

section Locations
variable (getcwd : Except CStr CStr) (env : Env) (config : Config)

theorem setLocation_applied (envValue location : Option CStr) (fileName dest : CStr) :
    ((setLocation getcwd envValue fileName dest location).2 = .success → ∀ value,
      location.or envValue = some value → value.length ≤ sentrypeerPathMax →
        (setLocation getcwd envValue fileName dest location).1 = value) ∧
    ((setLocation getcwd envValue fileName dest location).2 = .failure → location.isSome →
      (setLocation getcwd envValue fileName dest location).1 = dest) := by
  cases location with
  | none =>
      refine ⟨fun _ value given fits => ?_, fun _ isSome => by cases isSome⟩
      rw [show envValue = some value from given]
      exact if_neg (Nat.not_lt.mpr fits)
  | some path =>
      rw [setLocation]
      split_ifs with absolute
      · refine ⟨fun _ value given fits => ?_, fun failed => by cases failed⟩
        cases given
        exact if_neg (Nat.not_lt.mpr fits)
      · exact ⟨fun succeeded => (by cases succeeded), fun _ _ => rfl⟩

theorem setDbFileLocationCall_applied (location : Option CStr) :
    LocationApplied .dbFile env location config
      (setDbFileLocationCall getcwd env config location).1
      (setDbFileLocationCall getcwd env config location).2 := by
  obtain ⟨applied, refused⟩ := setLocation_applied getcwd (env .sentrypeerDbFile) location
    (.lit "sentrypeer.db") config.dbFile
  refine ⟨applied, fun failed given => ?_⟩
  exact congrArg (fun dbFile => { config with dbFile }) (refused failed given)

theorem setJsonLogFileLocationCall_applied (location : Option CStr) :
    LocationApplied .jsonLogFile env location config
      (setJsonLogFileLocationCall getcwd env config location).1
      (setJsonLogFileLocationCall getcwd env config location).2 := by
  obtain ⟨applied, refused⟩ := setLocation_applied getcwd (env .sentrypeerJsonLogFile) location
    (.lit "sentrypeer_json.log") config.jsonLogFile
  refine ⟨applied, fun failed given => ?_⟩
  exact congrArg (fun jsonLogFile => { config with jsonLogFile }) (refused failed given)

theorem setDbFileLocation_eq_call (path : CStr) : setDbFileLocation config path =
    match setDbFileLocationCall getcwd env config (some path) with
    | (after, .success) => some after
    | (_, .failure) => none := by
  simp only [setDbFileLocation, setFileLocation, setDbFileLocationCall, setLocation]
  split_ifs <;> rfl

theorem setJsonLogFileLocation_eq_call (path : CStr) : setJsonLogFileLocation config path =
    match setJsonLogFileLocationCall getcwd env config (some path) with
    | (after, .success) => some after
    | (_, .failure) => none := by
  simp only [setJsonLogFileLocation, setFileLocation, setJsonLogFileLocationCall, setLocation]
  split_ifs <;> rfl

end Locations

theorem configured_values_applied (build : Build) (library : CliLibrary) (env : Env)
    (config : Config) :
    ValuesApplied (envValues env) config (processEnvVars env config) ∧
    (∀ argv after, build.rust = false →
      processCli build library env config argv = .returned after .success →
      ValuesApplied (fun option => envValues env option ++
        cliValues (getopt library.permutes none argv.tail) option) config after) ∧
    (∀ getcwd location, LocationApplied .dbFile env location config
      (setDbFileLocationCall getcwd env config location).1
      (setDbFileLocationCall getcwd env config location).2) ∧
    ∀ getcwd location, LocationApplied .jsonLogFile env location config
      (setJsonLogFileLocationCall getcwd env config location).1
      (setJsonLogFileLocationCall getcwd env config location).2 := by
  refine ⟨?_, fun argv after noRust returned => ?_, fun getcwd => ?_, fun getcwd => ?_⟩
  · exact valuesApplied_of_foldl (processEnvVars_copied env config) fun mode isMode on =>
      processEnvVars_raised isMode on
  · exact applyOptions_env_applied (processCli_getopt noRust returned)
  · exact setDbFileLocationCall_applied getcwd env config
  · exact setJsonLogFileLocationCall_applied getcwd env config

theorem configured_values_applied_webhook : ∃ after,
    processCli ⟨false, false⟩ plainLibrary onlyApiSet
      (sentrypeerConfigNew ⟨false, false⟩ (.lit "node"))
      [.lit "sentrypeer", .lit "-w", .lit "https://example.org/", .lit "-bexample.org"] =
        .returned after .success ∧
    ValuesApplied (fun option => envValues onlyApiSet option ++
      cliValues [.webhookUrl (.lit "https://example.org/"), .bootstrap (.lit "example.org")] option)
      (sentrypeerConfigNew ⟨false, false⟩ (.lit "node")) after := by
  refine ⟨_, rfl, ?_⟩
  exact (configured_values_applied ⟨false, false⟩ plainLibrary onlyApiSet
    (sentrypeerConfigNew ⟨false, false⟩ (.lit "node"))).2.1
    [.lit "sentrypeer", .lit "-w", .lit "https://example.org/", .lit "-bexample.org"] _ rfl rfl

/-- A name of 299 bytes, as in the test that fixes the fallback. -/
def boostrapNodeTooBig : CStr :=
  ⟨List.replicate 299 0x61, fun member => absurd (List.eq_of_mem_replicate member) (by decide)⟩

def onlyBootstrapSet : Env
  | .sentrypeerBootstrapNode => some boostrapNodeTooBig
  | _ => none

theorem configured_bootstrap_node_dropped :
    processCli ⟨false, false⟩ plainLibrary onlyBootstrapSet
      (sentrypeerConfigNew ⟨false, false⟩ (.lit "node")) [.lit "sentrypeer"] =
        .returned (sentrypeerConfigNew ⟨false, false⟩ (.lit "node")) .success ∧
    StringOption.bootstrapNode.get (sentrypeerConfigNew ⟨false, false⟩ (.lit "node")) ≠
      boostrapNodeTooBig := by
  have long : boostrapNodeTooBig.length > dnsMaxLength := by
    rw [CStr.length, boostrapNodeTooBig, List.length_replicate]
    decide
  have dropped : processEnvVars onlyBootstrapSet (sentrypeerConfigNew ⟨false, false⟩ (.lit "node")) =
      sentrypeerConfigNew ⟨false, false⟩ (.lit "node") := by
    simp only [processEnvVars, onlyBootstrapSet, envString, utilCopyString, if_pos long]
    rfl
  constructor
  · rw [processCli, dropped]
    rfl
  · intro equal
    rw [← equal] at long
    exact absurd long (by decide)

end SentryPeer.Proof
