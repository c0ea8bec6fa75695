import SentryPeer.Source.ConfBuffers
import SentryPeer.Proof.Conf

/-!
# The buffers hold the strings

Each operation on the buffers is the operation of the model on strings, and it keeps every buffer
terminated. What is proved of the strings is so true of the buffers.
-/

namespace SentryPeer.Proof
open Lib Lib.Memory ConfBuffers

/-! ## One buffer -/

section Buffer
variable {limit : Nat} {dest : Memory}

/-- A copy that is accepted leaves nothing of what was there before. -/
theorem utilCopyString_accepts (terminated : Terminated limit dest) {src : CStr}
    (fits : src.length ≤ limit) :
    ∃ copy, ConfBuffers.utilCopyString dest src limit = .ok (copy, true) ∧
      Terminated limit copy ∧
      copy.bytes = src.bytes ++ List.replicate (limit + 1 - src.length) 0 := by
  obtain ⟨copy, ran, after, isBytes⟩ := terminated.strncpy fits
  refine ⟨copy, ?_, after, isBytes⟩
  rw [ConfBuffers.utilCopyString, if_neg (Nat.not_lt.mpr fits)]
  show (dest.strncpy src limit >>= _) = _
  rw [ran]
  show (copy.scan >>= _) = _
  rw [after.scan]
  rfl

structure Holding (limit : Nat) (string : CStr) (m : Memory) : Prop where
  terminated : Terminated limit m
  reads : CStr.ofMemory m.bytes = string

variable {string : CStr}

theorem Holding.copied (holding : Holding limit string dest) (src : CStr) :
    ∃ m, ConfBuffers.copied dest src limit = .ok m ∧
      Holding limit (utilCopyString string src limit) m := by
  unfold ConfBuffers.copied SentryPeer.utilCopyString
  by_cases long : src.length > limit
  · refine ⟨dest, ?_, ?_⟩
    · rw [ConfBuffers.utilCopyString, if_pos long]
      rfl
    · rw [if_pos long]
      exact holding
  · obtain ⟨copy, ran, after, isBytes⟩ :=
      utilCopyString_accepts holding.terminated (Nat.not_lt.mp long)
    refine ⟨copy, by rw [ran]; rfl, after, ?_⟩
    rw [if_neg long, isBytes, Nat.succ_sub (Nat.not_lt.mp long), List.replicate_succ]
    exact ofMemory_append src _

theorem holding_newString {default : CStr} (fits : default.length ≤ limit) :
    ∃ m, newString limit default = .ok m ∧ Holding limit default m := by
  have zeros : Holding limit (.ofMemory (Memory.calloc (limit + 1)).bytes)
      (.calloc (limit + 1)) := ⟨terminated_calloc limit, rfl⟩
  obtain ⟨m, ran, holding⟩ := zeros.copied default
  rw [SentryPeer.utilCopyString, if_neg (Nat.not_lt.mpr fits)] at holding
  exact ⟨m, ran, holding⟩

theorem Holding.envString (holding : Holding limit string dest) (value : Option CStr) :
    ∃ m, ConfBuffers.envString dest value limit = .ok m ∧
      Holding limit (envString string value limit) m := by
  cases value with
  | none => exact ⟨dest, rfl, holding⟩
  | some src => exact holding.copied src

theorem pathLeft_eq {length : Nat} (inside : length ≤ sentrypeerPathMax) :
    pathLeft length = sentrypeerPathMax - length := by
  have left : (BitVec.ofNat 64 length).toNat = length := by
    rw [BitVec.toNat_ofNat, Nat.mod_eq_of_lt (lt_of_le_of_lt inside (by decide))]
  have more : BitVec.ofNat 64 length ≤ BitVec.ofNat 64 sentrypeerPathMax := by
    rw [BitVec.le_def, left]
    exact inside
  rw [pathLeft, BitVec.toNat_sub_of_le more, left]
  rfl

/-- What is appended is cut where the buffer ends. -/
theorem Holding.strncat (holding : Holding sentrypeerPathMax string dest) (src : CStr) :
    ∃ m, (do dest.strncat src (pathLeft (← dest.scan))) = .ok m ∧
      Holding sentrypeerPathMax (strncat string src (sentrypeerPathMax - string.length)) m := by
  obtain ⟨terminated, rfl⟩ := holding
  have inside := terminated.length_le
  have room : (CStr.ofMemory dest.bytes).length + (src.bytes.take
      (sentrypeerPathMax - (CStr.ofMemory dest.bytes).length)).length ≤ sentrypeerPathMax := by
    rw [List.length_take]
    omega
  obtain ⟨m, ran, after, isBytes⟩ := terminated.strncat room
  refine ⟨m, ?_, after, ?_⟩
  · rw [terminated.scan]
    show dest.strncat src (pathLeft _) = _
    rw [pathLeft_eq inside, ran]
  · rw [SentryPeer.strncat, ← isBytes, CStr.ofMemory_bytes]

theorem Holding.getcwd (holding : Holding sentrypeerPathMax string dest) (getcwd : Getcwd) :
    ∃ m, dest.storeAll 0 getcwd.written = .ok m ∧
      Holding sentrypeerPathMax (.ofMemory m.bytes) m := by
  have each (k : Nat) (b : UInt8) (there : getcwd.written[k]? = some b) :
      0 + k ≤ sentrypeerPathMax ∧ (0 + k = sentrypeerPathMax → b = 0) := by
    have inside := (List.getElem?_eq_some_iff.mp there).1
    have bounded := getcwd.bounded
    omega
  obtain ⟨m, ran, after, -⟩ := holding.terminated.storeAll each
  exact ⟨m, ran, after, rfl⟩

theorem Holding.setLocation (holding : Holding sentrypeerPathMax string dest) (getcwd : Getcwd)
    (envValue : Option CStr) (fileName : CStr) (location : Option CStr) :
    ∃ result m, ConfBuffers.setLocation getcwd envValue fileName dest location =
        .ok (m, (setLocation result envValue fileName string location).2) ∧
      Holding sentrypeerPathMax (setLocation result envValue fileName string location).1 m := by
  cases location with
  | some location =>
      by_cases absolute : location.bytes.head? = some 0x2F
      · obtain ⟨m, ran, after⟩ := holding.copied location
        refine ⟨.error string, m, ?_, ?_⟩
        · simp only [ConfBuffers.setLocation, SentryPeer.setLocation, if_pos absolute, ran]
          rfl
        · simp only [SentryPeer.setLocation, if_pos absolute]
          exact after
      · refine ⟨.error string, dest, ?_, ?_⟩
        · simp only [ConfBuffers.setLocation, SentryPeer.setLocation, if_neg absolute]
          rfl
        · simp only [SentryPeer.setLocation, if_neg absolute]
          exact holding
  | none =>
      cases envValue with
      | some value =>
          obtain ⟨m, ran, after⟩ := holding.copied value
          refine ⟨.error string, m, ?_, after⟩
          simp only [ConfBuffers.setLocation, ran]
          rfl
      | none =>
          obtain ⟨first, got, directory⟩ := holding.getcwd getcwd
          simp only [ConfBuffers.setLocation, got]
          cases succeeded : getcwd.succeeded with
          | false => exact ⟨.error (.ofMemory first.bytes), first, rfl, directory⟩
          | true =>
              obtain ⟨second, slash, path⟩ := directory.strncat (.lit "/")
              obtain ⟨m, name, whole⟩ := path.strncat fileName
              obtain ⟨length, scanned, slash⟩ := bind_eq_ok.mp slash
              obtain ⟨left, rescanned, name⟩ := bind_eq_ok.mp name
              refine ⟨.ok (.ofMemory first.bytes), m, bind_eq_ok.mpr ⟨first, rfl, ?_⟩, whole⟩
              refine bind_eq_ok.mpr ⟨length, scanned, bind_eq_ok.mpr ⟨second, slash, ?_⟩⟩
              exact bind_eq_ok.mpr ⟨left, rescanned, bind_eq_ok.mpr ⟨m, name, rfl⟩⟩

end Buffer

/-! ## The six buffers -/

def StringOption.buffer (buffers : Buffers) : StringOption → Memory
  | .dbFile => buffers.dbFile
  | .jsonLogFile => buffers.jsonLogFile
  | .bootstrapNode => buffers.p2pBootstrapNode
  | .webhookUrl => buffers.webhookUrl
  | .clientId => buffers.oauth2ClientId
  | .clientSecret => buffers.oauth2ClientSecret

/-- Every buffer is terminated and holds the string of the configuration. -/
def Represents (buffers : Buffers) (config : Config) : Prop :=
  ∀ option : StringOption, Holding option.limit (option.get config) (option.buffer buffers)

/-- An operation on the strings. What `getcwd` leaves in the buffer is not determined. -/
def ConfigMoves (openDht : Bool) (config : Config) (operation : Operation) (next : Config) : Prop :=
  match operation with
  | .processEnvVars env => next = processEnvVars env config
  | .option _ _ cliOption =>
      applyOption ⟨false, openDht⟩ config cliOption = .ok next ∨
        ∃ result, applyOption ⟨false, openDht⟩ config cliOption = .error result ∧ next = config
  | .setDbFileLocation _ env location =>
      ∃ getcwd, next = (setDbFileLocationCall getcwd env config location).1
  | .setJsonLogFileLocation _ env location =>
      ∃ getcwd, next = (setJsonLogFileLocationCall getcwd env config location).1

def buffersOf (memory : StringOption → Memory) : Buffers where
  dbFile := memory .dbFile
  jsonLogFile := memory .jsonLogFile
  p2pBootstrapNode := memory .bootstrapNode
  webhookUrl := memory .webhookUrl
  oauth2ClientId := memory .clientId
  oauth2ClientSecret := memory .clientSecret

theorem represents_buffersOf {memory : StringOption → Memory} {config : Config}
    (holding : ∀ option : StringOption, Holding option.limit (option.get config) (memory option)) :
    Represents (buffersOf memory) config := by
  intro option
  have same : option.buffer (buffersOf memory) = memory option := by cases option <;> rfl
  rw [same]
  exact holding option

theorem represents_configNew (build : Build) (nodeId : CStr) :
    ∃ buffers, ConfBuffers.sentrypeerConfigNew = .ok buffers ∧
      Represents buffers (sentrypeerConfigNew build nodeId) := by
  have each (option : StringOption) : ∃ m, newString option.limit option.default = .ok m ∧
      Holding option.limit (option.get (SentryPeer.sentrypeerConfigNew build nodeId)) m := by
    rw [get_configNew]
    exact holding_newString (default_fits option)
  choose memory ran holding using each
  refine ⟨buffersOf memory, ?_, represents_buffersOf holding⟩
  refine bind_eq_ok.mpr ⟨_, ran .dbFile, bind_eq_ok.mpr ⟨_, ran .jsonLogFile, ?_⟩⟩
  refine bind_eq_ok.mpr ⟨_, ran .bootstrapNode, bind_eq_ok.mpr ⟨_, ran .webhookUrl, ?_⟩⟩
  exact bind_eq_ok.mpr ⟨_, ran .clientId, bind_eq_ok.mpr ⟨_, ran .clientSecret, rfl⟩⟩

section Operations
variable {buffers : Buffers} {config : Config} (represents : Represents buffers config)
include represents

theorem Represents.processEnvVars (env : Env) :
    ∃ next, ConfBuffers.processEnvVars env buffers = .ok next ∧
      Represents next (processEnvVars env config) := by
  have each (option : StringOption) :
      ∃ m, ConfBuffers.envString (option.buffer buffers) (env option.envVar) option.limit = .ok m ∧
        Holding option.limit (option.get (SentryPeer.processEnvVars env config)) m := by
    rw [get_processEnvVars]
    exact (represents option).envString (env option.envVar)
  choose memory ran holding using each
  refine ⟨buffersOf memory, ?_, represents_buffersOf holding⟩
  refine bind_eq_ok.mpr ⟨_, ran .dbFile, bind_eq_ok.mpr ⟨_, ran .jsonLogFile, ?_⟩⟩
  refine bind_eq_ok.mpr ⟨_, ran .bootstrapNode, bind_eq_ok.mpr ⟨_, ran .clientId, ?_⟩⟩
  exact bind_eq_ok.mpr ⟨_, ran .clientSecret, bind_eq_ok.mpr ⟨_, ran .webhookUrl, rfl⟩⟩

theorem Represents.strings {after : Config}
    (same : ∀ option : StringOption, option.get after = option.get config) :
    Represents buffers after := by
  intro option
  rw [same]
  exact represents option

theorem Represents.change {next : Buffers} {after : Config} (changed : StringOption)
    (holding : Holding changed.limit (changed.get after) (changed.buffer next))
    (others : ∀ option, option ≠ changed →
      option.get after = option.get config ∧ option.buffer next = option.buffer buffers) :
    Represents next after := by
  intro option
  by_cases isChanged : option = changed
  · rw [isChanged]
    exact holding
  · obtain ⟨sameString, sameBuffer⟩ := others option isChanged
    rw [sameString, sameBuffer]
    exact represents option

theorem Represents.setDbFileLocation (getcwd : Getcwd) (env : Env) (location : Option CStr) :
    ∃ result next exit, ConfBuffers.setDbFileLocation getcwd env buffers location = .ok (next, exit) ∧
      Represents next (setDbFileLocationCall result env config location).1 := by
  obtain ⟨result, m, ran, holding⟩ := (represents .dbFile).setLocation getcwd
    (env .sentrypeerDbFile) (.lit "sentrypeer.db") location
  refine ⟨result, { buffers with dbFile := m }, _, bind_eq_ok.mpr ⟨_, ran, rfl⟩,
    represents.change .dbFile holding fun option other => ?_⟩
  cases option <;> first | exact ⟨rfl, rfl⟩ | exact absurd rfl other

theorem Represents.setJsonLogFileLocation (getcwd : Getcwd) (env : Env) (location : Option CStr) :
    ∃ result next exit,
      ConfBuffers.setJsonLogFileLocation getcwd env buffers location = .ok (next, exit) ∧
      Represents next (setJsonLogFileLocationCall result env config location).1 := by
  obtain ⟨result, m, ran, holding⟩ := (represents .jsonLogFile).setLocation getcwd
    (env .sentrypeerJsonLogFile) (.lit "sentrypeer_json.log") location
  refine ⟨result, { buffers with jsonLogFile := m }, _, bind_eq_ok.mpr ⟨_, ran, rfl⟩,
    represents.change .jsonLogFile holding fun option other => ?_⟩
  cases option <;> first | exact ⟨rfl, rfl⟩ | exact absurd rfl other

theorem Represents.applyOption (openDht : Bool) (getcwd : Getcwd) (env : Env)
    (cliOption : CliOption) :
    ∃ next after, ConfBuffers.applyOption getcwd env buffers cliOption = .ok next ∧
      ConfigMoves openDht config (.option getcwd env cliOption) after ∧ Represents next after := by
  cases cliOption with
  | bootstrap optarg =>
      obtain ⟨m, ran, holding⟩ := (represents .bootstrapNode).copied optarg
      refine ⟨{ buffers with p2pBootstrapNode := m }, _, bind_eq_ok.mpr ⟨m, ran, rfl⟩, .inl rfl,
        represents.change .bootstrapNode holding fun option other => ?_⟩
      cases option <;> first | exact ⟨rfl, rfl⟩ | exact absurd rfl other
  | clientSecret optarg =>
      obtain ⟨m, ran, holding⟩ := (represents .clientSecret).copied optarg
      refine ⟨{ buffers with oauth2ClientSecret := m }, _, bind_eq_ok.mpr ⟨m, ran, rfl⟩, .inl rfl,
        represents.change .clientSecret holding fun option other => ?_⟩
      cases option <;> first | exact ⟨rfl, rfl⟩ | exact absurd rfl other
  | clientId optarg =>
      obtain ⟨m, ran, holding⟩ := (represents .clientId).copied optarg
      refine ⟨{ buffers with oauth2ClientId := m }, _, bind_eq_ok.mpr ⟨m, ran, rfl⟩, .inl rfl,
        represents.change .clientId holding fun option other => ?_⟩
      cases option <;> first | exact ⟨rfl, rfl⟩ | exact absurd rfl other
  | webhookUrl optarg =>
      obtain ⟨m, ran, holding⟩ := (represents .webhookUrl).copied optarg
      refine ⟨{ buffers with webhookUrl := m }, _, bind_eq_ok.mpr ⟨m, ran, rfl⟩, .inl rfl,
        represents.change .webhookUrl holding fun option other => ?_⟩
      cases option <;> first | exact ⟨rfl, rfl⟩ | exact absurd rfl other
  | dbFile optarg =>
      obtain ⟨result, next, exit, ran, after⟩ :=
        represents.setDbFileLocation getcwd env (some optarg)
      refine ⟨next, _, bind_eq_ok.mpr ⟨_, ran, rfl⟩, ?_, after⟩
      by_cases absolute : optarg.bytes.head? = some 0x2F
      · left
        simp [SentryPeer.applyOption, SentryPeer.setDbFileLocation, setFileLocation,
          setDbFileLocationCall, SentryPeer.setLocation, absolute]
      · right
        simp [SentryPeer.applyOption, SentryPeer.setDbFileLocation, setFileLocation,
          setDbFileLocationCall, SentryPeer.setLocation, absolute]
  | jsonLogFile optarg =>
      obtain ⟨result, next, exit, ran, after⟩ :=
        represents.setJsonLogFileLocation getcwd env (some optarg)
      by_cases absolute : optarg.bytes.head? = some 0x2F
      · refine ⟨next, { (setJsonLogFileLocationCall result env config (some optarg)).1 with
            jsonLogMode := true }, bind_eq_ok.mpr ⟨_, ran, rfl⟩, .inl ?_,
          after.strings fun option => by cases option <;> rfl⟩
        simp [SentryPeer.applyOption, SentryPeer.setJsonLogFileLocation, setFileLocation,
          setJsonLogFileLocationCall, SentryPeer.setLocation, absolute]
      · refine ⟨next, _, bind_eq_ok.mpr ⟨_, ran, rfl⟩, .inr ?_, after⟩
        simp [SentryPeer.applyOption, SentryPeer.setJsonLogFileLocation, setFileLocation,
          setJsonLogFileLocationCall, SentryPeer.setLocation, absolute]
  | p2p =>
      cases openDht with
      | false => exact ⟨buffers, config, rfl, .inr ⟨_, rfl, rfl⟩, represents⟩
      | true =>
          exact ⟨buffers, _, rfl, .inl rfl, represents.strings fun option => by cases option <;> rfl⟩
  | help | version | unknown =>
      exact ⟨buffers, config, rfl, .inr ⟨_, rfl, rfl⟩, represents⟩
  | api | debug | responsive | unresponsive | json | syslog | verbose =>
      exact ⟨buffers, _, rfl, .inl rfl, represents.strings fun option => by cases option <;> rfl⟩

theorem Represents.operate (openDht : Bool) (operation : Operation) :
    ∃ next after, ConfBuffers.operate buffers operation = .ok next ∧
      ConfigMoves openDht config operation after ∧ Represents next after := by
  cases operation with
  | processEnvVars env =>
      obtain ⟨next, ran, after⟩ := represents.processEnvVars env
      exact ⟨next, _, ran, rfl, after⟩
  | option getcwd env cliOption => exact represents.applyOption openDht getcwd env cliOption
  | setDbFileLocation getcwd env location =>
      obtain ⟨result, next, exit, ran, after⟩ := represents.setDbFileLocation getcwd env location
      exact ⟨next, _, bind_eq_ok.mpr ⟨_, ran, rfl⟩, ⟨result, rfl⟩, after⟩
  | setJsonLogFileLocation getcwd env location =>
      obtain ⟨result, next, exit, ran, after⟩ :=
        represents.setJsonLogFileLocation getcwd env location
      exact ⟨next, _, bind_eq_ok.mpr ⟨_, ran, rfl⟩, ⟨result, rfl⟩, after⟩

end Operations

/-! ## Every sequence of operations -/

def ConfigRuns (openDht : Bool) : List Operation → Config → Config → Prop
  | [], config, last => last = config
  | operation :: rest, config, last =>
      ∃ next, ConfigMoves openDht config operation next ∧ ConfigRuns openDht rest next last

theorem Represents.operations {buffers : Buffers} {config : Config}
    (represents : Represents buffers config) (openDht : Bool) (operations : List Operation) :
    ∃ last after, operations.foldlM ConfBuffers.operate buffers = .ok last ∧
      ConfigRuns openDht operations config after ∧ Represents last after := by
  induction operations generalizing buffers config with
  | nil => exact ⟨buffers, config, rfl, rfl, represents⟩
  | cons operation rest ih =>
      obtain ⟨next, middle, ran, moves, represented⟩ := represents.operate openDht operation
      obtain ⟨last, after, runs, moved, final⟩ := ih represented
      refine ⟨last, after, ?_, ⟨middle, moves, moved⟩, final⟩
      rw [List.foldlM_cons, ran]
      exact runs

/-- No write leaves its buffer and no scan runs past one. The buffers read as the strings do, and a
copy that fits is all that its buffer then holds. -/
theorem config_buffers_terminated (openDht : Bool) (nodeId : CStr) (operations : List Operation) :
    ∃ buffers config, operateAll operations = .ok buffers ∧
      ConfigRuns openDht operations (sentrypeerConfigNew ⟨false, openDht⟩ nodeId) config ∧
      ∀ option : StringOption,
        Terminated option.limit (option.buffer buffers) ∧
        CStr.ofMemory (option.buffer buffers).bytes = option.get config ∧
        ∀ src : CStr, src.length ≤ option.limit →
          ∃ copy, ConfBuffers.utilCopyString (option.buffer buffers) src option.limit =
              .ok (copy, true) ∧
            Terminated option.limit copy ∧
            copy.bytes = src.bytes ++ List.replicate (option.limit + 1 - src.length) 0 := by
  obtain ⟨first, new, initial⟩ := represents_configNew ⟨false, openDht⟩ nodeId
  obtain ⟨buffers, config, ran, runs, represents⟩ := initial.operations openDht operations
  refine ⟨buffers, config, bind_eq_ok.mpr ⟨first, new, ran⟩, runs, fun option => ?_⟩
  refine ⟨(represents option).terminated, (represents option).reads, fun src fits => ?_⟩
  exact utilCopyString_accepts (represents option).terminated fits

def noGetcwd : Getcwd := ⟨[], false, Nat.zero_le _⟩

def longUrl : Operation :=
  .option noGetcwd (fun _ => none) (.webhookUrl (.lit "http://192.0.2.1:4000/api/events"))

theorem config_buffers_shorter_url :
    ∃ buffers copy, operateAll [longUrl] = .ok buffers ∧
      ConfBuffers.utilCopyString buffers.webhookUrl (.lit "http://192.0.2.1/") dnsMaxLength =
        .ok (copy, true) ∧ Terminated dnsMaxLength copy := by
  obtain ⟨buffers, config, ran, -, each⟩ :=
    config_buffers_terminated false (.lit "e1d4") [longUrl]
  obtain ⟨-, -, copies⟩ := each .webhookUrl
  obtain ⟨copy, copied, terminated, -⟩ := copies (.lit "http://192.0.2.1/") (by decide)
  exact ⟨buffers, copy, ran, copied, terminated⟩

end SentryPeer.Proof
