import SentryPeer.Source.Conf
import SentryPeer.Source.Collect

/-!
# The start of the Rust listeners

`config.rs`, and `run_sip_server` and `shutdown_sip` of `sip.rs`. A thread reads the configuration and
sets up one listener after the other, each a task of the runtime, while `main` goes on and may stop it
at any time. The libraries and what the calls into the system return are parameters.
-/

namespace SentryPeer
open Lib

/-! ## `config.rs` -/

/-- `Config` of `config.rs`. -/
structure TlsConfig where
  cert : List UInt8
  key : List UInt8
  tlsListenAddress : List UInt8
deriving DecidableEq

def certPem : List UInt8 := (CStr.lit "cert.pem").bytes
def keyPem : List UInt8 := (CStr.lit "key.pem").bytes

def defaultTlsConfig : TlsConfig where
  cert := certPem
  key := keyPem
  tlsListenAddress := (CStr.lit "0.0.0.0:5061").bytes

inductive TlsVariable
  | sentrypeerCert
  | sentrypeerKey
  | sentrypeerTlsListenAddress
  | sentrypeerConfigFile
deriving DecidableEq

abbrev TlsEnv := TlsVariable → Option CStr

-- `std::env::var` is an error as well where the value is not UTF-8.
def envVar (env : TlsEnv) (name : TlsVariable) : Option (List UInt8) :=
  match env name with
  | none => none
  | some value => if validUtf8 value.bytes then some value.bytes else none

/-- What `confy` finds at a path. It stores the default where there is no file. -/
inductive ConfyFile
  | missing
  | refused
  | loaded (config : TlsConfig)

structure Confy where
  configurationFilePath : Option (List UInt8)
  loadPath : List UInt8 → ConfyFile

inductive ConfigFailure
  | error
  | panic
  | nullPointer
deriving DecidableEq

section Load
variable (confy : Confy) (env : TlsEnv)

def getConfigurationFilePath : Except ConfigFailure (List UInt8) :=
  match confy.configurationFilePath with
  | none => .error .error
  | some path => .ok path

def getConfigFilePath (sentrypeerConfig : Config) : Except ConfigFailure (List UInt8) :=
  match sentrypeerConfig.configFile with
  | none =>
      match envVar env .sentrypeerConfigFile with
      | some path => .ok path
      | none => getConfigurationFilePath confy
  | some path =>
      if validUtf8 path.bytes then .ok path.bytes else getConfigurationFilePath confy

-- The `expect` of `load_all_configs` is on this call.
def loadFile (configFile : List UInt8) : Except ConfigFailure TlsConfig :=
  match confy.loadPath configFile with
  | .missing => .ok defaultTlsConfig
  | .refused => .error .panic
  | .loaded config => .ok config

def intoString (path : List UInt8) : Except ConfigFailure (List UInt8) :=
  if validUtf8 path then .ok path else .error .error

def configFromEnv (config : TlsConfig) : Except ConfigFailure TlsConfig := do
  let cert ← match envVar env .sentrypeerCert with
    | some cert => .ok cert
    | none => intoString config.cert
  let key ← match envVar env .sentrypeerKey with
    | some key => .ok key
    | none => intoString config.key
  let tlsListenAddress :=
    (envVar env .sentrypeerTlsListenAddress).getD config.tlsListenAddress
  return { cert, key, tlsListenAddress }

-- `CStr::from_ptr` does not look whether the pointer is null.
def cstrFromPtr : Option CStr → Except ConfigFailure (List UInt8)
  | none => .error .nullPointer
  | some text => if validUtf8 text.bytes then .ok text.bytes else .error .error

def configFromCli (config : TlsConfig) (sentrypeerConfig : Config) :
    Except ConfigFailure TlsConfig := do
  if sentrypeerConfig.tlsCertFile.isNone then return config
  let cert ← cstrFromPtr sentrypeerConfig.tlsCertFile
  let key ← cstrFromPtr sentrypeerConfig.tlsKeyFile
  let tlsListenAddress ← cstrFromPtr sentrypeerConfig.tlsListenAddress
  return { cert, key, tlsListenAddress }

def loadAllConfigs (sentrypeerConfig : Config) : Except ConfigFailure TlsConfig := do
  let configFile ← getConfigFilePath confy env sentrypeerConfig
  let config ← loadFile confy configFile
  let config ← configFromEnv env config
  configFromCli config sentrypeerConfig

end Load

/-! ## The files -/

/-- A path that exists; a directory, or a file without the permission, cannot be read. -/
structure Entry where
  readable : Bool
  bytes : List UInt8
deriving DecidableEq

/-- Two paths may denote one file. -/
structure FileSystem (ι : Type) where
  locate : List UInt8 → ι
  entries : ι → Option Entry

section Files
variable {ι Cert Key : Type}

def FileSystem.pathExists (files : FileSystem ι) (path : List UInt8) : Bool :=
  (files.entries (files.locate path)).isSome

def readEntry : Option Entry → Option (List UInt8)
  | some ⟨true, bytes⟩ => some bytes
  | _ => none

def FileSystem.readFile (files : FileSystem ι) (path : List UInt8) : Option (List UInt8) :=
  readEntry (files.entries (files.locate path))

def FileSystem.set [DecidableEq ι] (files : FileSystem ι) (path : List UInt8)
    (entry : Option Entry) : FileSystem ι :=
  { files with
    entries := fun i => if i = files.locate path then entry else files.entries i }

def writeEntry (contents : List UInt8) : Option Entry → Option Entry
  | none => some ⟨true, contents⟩
  | some entry => some { entry with bytes := contents }

/-- The entry after a `std::fs::write` that succeeds. -/
def FileSystem.written (files : FileSystem ι) (path contents : List UInt8) : Option Entry :=
  writeEntry contents (files.entries (files.locate path))

/-- The PEM reader, rcgen's pair of a certificate and a key, and rustls. -/
structure TlsLibrary (Cert Key : Type) where
  certs : List UInt8 → Option (List Cert)
  privateKey : List UInt8 → Option (Option Key)
  selfSigned : List UInt8 × List UInt8
  withSingleCert : List Cert → Key → Bool

def loadCerts (library : TlsLibrary Cert Key) (files : FileSystem ι) (path : List UInt8) :
    Option (List Cert) := do
  library.certs (← files.readFile path)

def loadKey (library : TlsLibrary Cert Key) (files : FileSystem ι) (path : List UInt8) :
    Option Key := do
  (← library.privateKey (← files.readFile path))

end Files

/-! ## The thread and the runtime -/

inductive ServerEnd
  | notSpawned
  | panicked
  | nullPointer
  | returned (exit : Exit)
deriving DecidableEq

/-- The next fallible call of the thread. -/
inductive ServerStep (Cert Key : Type)
  | loadConfigs
  | bindTcp (config : TlsConfig)
  | bindUdp (config : TlsConfig)
  | resolve (config : TlsConfig)
  | findCerts (config : TlsConfig)
  | writeCert (config : TlsConfig)
  | writeKey (config : TlsConfig)
  | loadCerts (config : TlsConfig)
  | loadKey (config : TlsConfig) (certs : List Cert)
  | installProvider (certs : List Cert) (key : Key)
  | serverConfig (certs : List Cert) (key : Key)
  | bindTls
  | awaiting
  | ended (how : ServerEnd)

inductive Runtime
  | running
  | shuttingDown
  | down
deriving DecidableEq

structure SipServer (ι Cert Key : Type) where
  step : ServerStep Cert Key
  listening : RustListener → Bool
  runtime : Runtime
  message : Bool
  files : FileSystem ι

/-- A call of the thread, with what it returns and what a failed write leaves; an `accept` or a
`recv_from` that fails; the workers of the runtime stop; or `main` calls `shutdown_sip`. -/
inductive ServerEvent
  | thread (succeeds : Bool) (leaves : Option Entry)
  | acceptFails (listener : RustListener)
  | workersStop
  | shutdownSip
deriving DecidableEq

section Server
variable {ι Cert Key : Type}

-- The thread owns the runtime and the receiver, and drops both however it ends.
def SipServer.ends (s : SipServer ι Cert Key) (how : ServerEnd) : SipServer ι Cert Key :=
  { s with step := .ended how, runtime := .shuttingDown }

def SipServer.listens (s : SipServer ι Cert Key) (listener : RustListener) :
    SipServer ι Cert Key :=
  { s with listening := fun l => decide (l = listener) || s.listening l }

/-- The thread is spawned or not: the result of `spawn` is not looked at. -/
def runSipServer (spawned : Bool) (files : FileSystem ι) : SipServer ι Cert Key × Exit :=
  let s : SipServer ι Cert Key :=
    { step := .loadConfigs, listening := fun _ => false, runtime := .running, message := false,
      files }
  (if spawned then s else s.ends .notSpawned, .success)

def threadStep [DecidableEq ι] (library : TlsLibrary Cert Key)
    (configs : Except ConfigFailure TlsConfig) (succeeds : Bool) (leaves : Option Entry)
    (s : SipServer ι Cert Key) : SipServer ι Cert Key :=
  match s.step with
  | .loadConfigs =>
      match configs with
      | .ok config => { s with step := .bindTcp config }
      | .error .nullPointer => s.ends .nullPointer
      | .error _ => s.ends .panicked
  | .bindTcp config =>
      if succeeds then { s.listens .tcp with step := .bindUdp config } else s.ends .panicked
  -- `socket`, `set_reuse_address`, `set_nonblocking`, `bind` and `from_std`: each has its `expect`
  | .bindUdp config =>
      if succeeds then { s.listens .udp with step := .resolve config } else s.ends .panicked
  | .resolve config =>
      if succeeds then { s with step := .findCerts config } else s.ends .panicked
  | .findCerts config =>
      if !s.files.pathExists config.cert || !s.files.pathExists config.key then
        if succeeds then { s with step := .writeCert config } else s.ends .panicked
      else { s with step := .loadCerts config }
  | .writeCert config =>
      if succeeds then
        { s with
          step := .writeKey config
          files := s.files.set certPem (s.files.written certPem library.selfSigned.1) }
      else { s with files := s.files.set certPem leaves }.ends (.returned .failure)
  | .writeKey config =>
      if succeeds then
        { s with
          step := .loadCerts config
          files := s.files.set keyPem (s.files.written keyPem library.selfSigned.2) }
      else { s with files := s.files.set keyPem leaves }.ends (.returned .failure)
  | .loadCerts config =>
      match SentryPeer.loadCerts library s.files config.cert with
      | some certs => { s with step := .loadKey config certs }
      | none => s.ends .panicked
  | .loadKey config certs =>
      match SentryPeer.loadKey library s.files config.key with
      | some key => { s with step := .installProvider certs key }
      | none => s.ends .panicked
  | .installProvider certs key =>
      if succeeds then { s with step := .serverConfig certs key } else s.ends .panicked
  | .serverConfig certs key =>
      if library.withSingleCert certs key then { s with step := .bindTls } else s.ends .panicked
  | .bindTls =>
      if succeeds then { s.listens .tls with step := .awaiting } else s.ends .panicked
  | .awaiting => if s.message then s.ends (.returned .success) else s
  | .ended _ => s

-- `send` fails where the receiver is gone.
def shutdownSip (s : SipServer ι Cert Key) : SipServer ι Cert Key × Exit :=
  match s.step with
  | .ended _ => (s, .failure)
  | _ => ({ s with message := true }, .success)

-- An `unwrap` ends the task of its listener and closes its socket, and nothing else.
def acceptFails (listener : RustListener) (s : SipServer ι Cert Key) : SipServer ι Cert Key :=
  { s with listening := fun l => decide (l ≠ listener) && s.listening l }

def workersStop (s : SipServer ι Cert Key) : SipServer ι Cert Key :=
  if s.runtime = .shuttingDown then { s with runtime := .down, listening := fun _ => false } else s

section Step
variable [DecidableEq ι] (library : TlsLibrary Cert Key) (configs : Except ConfigFailure TlsConfig)

def serverStep (s : SipServer ι Cert Key) : ServerEvent → SipServer ι Cert Key
  | .thread succeeds leaves => threadStep library configs succeeds leaves s
  | .acceptFails listener => acceptFails listener s
  | .workersStop => workersStop s
  | .shutdownSip => (shutdownSip s).1

def serverRun (s : SipServer ι Cert Key) (events : List ServerEvent) : SipServer ι Cert Key :=
  events.foldl (serverStep library configs) s

end Step

end Server

end SentryPeer
