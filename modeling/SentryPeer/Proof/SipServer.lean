import SentryPeer.Proof.Conf
import SentryPeer.Source.Lifecycle
import SentryPeer.Source.SipServer

/-!
# What the Rust listeners are started with, and when they serve

The command line is read by one function and the certificates by another one on a thread of its own.
A step of the thread says what the configuration and the files were that far.
-/

namespace SentryPeer.Proof
open Lib

/-! ## The configuration of the TLS listener -/

/-- The environment over the file. -/
def envOver (env : TlsEnv) (file : TlsConfig) : TlsConfig where
  cert := (envVar env .sentrypeerCert).getD file.cert
  key := (envVar env .sentrypeerKey).getD file.key
  tlsListenAddress := (envVar env .sentrypeerTlsListenAddress).getD file.tlsListenAddress

/-- `parse_args` comes past the certificate and the key, or they are not asked for. -/
def tlsOptionsDone (files : TlsFiles) (args : Args) : Bool :=
  args.tlsCertFile.isNone || ((files.certExists || files.certCreated) && files.keyExists)

def configFilePath (confy : Confy) (env : TlsEnv) (asked : Option CStr) :
    Except ConfigFailure (List UInt8) :=
  match asked, envVar env .sentrypeerConfigFile with
  | some path, _ => .ok path.bytes
  | none, some path => .ok path
  | none, none => getConfigurationFilePath confy

/-- The command line over the rest, if its files are there. -/
def argsOver (files : TlsFiles) (args : Args) (rest : TlsConfig) : Except ConfigFailure TlsConfig :=
  match args.tlsCertFile, args.tlsKeyFile, args.tlsListenAddress with
  | some cert, some key, some address =>
      if !files.certExists && !files.certCreated then .ok rest
      else if !files.keyExists then .error .nullPointer
      else .ok ⟨cert.bytes, key.bytes, address.bytes⟩
  | _, _, _ => .ok rest

/-- The strings clap makes of an argument list that is UTF-8. -/
def ArgsUtf8 (args : Args) : Prop :=
  ∀ text, some text ∈ [args.tlsCertFile, args.tlsKeyFile, args.tlsListenAddress, args.configFile] →
    validUtf8 text.bytes = true

/-- TOML is UTF-8. -/
def ConfyUtf8 (confy : Confy) : Prop :=
  ∀ path config, confy.loadPath path = .loaded config →
    validUtf8 config.cert = true ∧ validUtf8 config.key = true

section Load
variable {confy : Confy} {env : TlsEnv}

theorem loadFile_utf8 (utf8 : ConfyUtf8 confy) {path : List UInt8} {file : TlsConfig}
    (loaded : loadFile confy path = .ok file) :
    validUtf8 file.cert = true ∧ validUtf8 file.key = true := by
  unfold loadFile at loaded
  split at loaded
  · cases loaded
    decide
  · cases loaded
  · rename_i config found
    cases loaded
    exact utf8 path file found

theorem configFromEnv_eq {file : TlsConfig} (cert : validUtf8 file.cert = true)
    (key : validUtf8 file.key = true) : configFromEnv env file = .ok (envOver env file) := by
  unfold configFromEnv intoString envOver
  rw [cert, key]
  cases envVar env .sentrypeerCert <;> cases envVar env .sentrypeerKey <;> rfl

theorem getConfigFilePath_eq {config : Config}
    (utf8 : ∀ text, config.configFile = some text → validUtf8 text.bytes = true) :
    getConfigFilePath confy env config = configFilePath confy env config.configFile := by
  unfold getConfigFilePath configFilePath
  cases asked : config.configFile with
  | none => cases envVar env .sentrypeerConfigFile <;> rfl
  | some path => simp [utf8 path asked]

theorem loadAllConfigs_eq (utf8 : ConfyUtf8 confy) {config : Config}
    (named : ∀ text, config.configFile = some text → validUtf8 text.bytes = true) :
    loadAllConfigs confy env config = (configFilePath confy env config.configFile).bind fun path =>
      (loadFile confy path).bind fun file => configFromCli (envOver env file) config := by
  unfold loadAllConfigs
  rw [getConfigFilePath_eq named]
  cases configFilePath confy env config.configFile with
  | error failure => rfl
  | ok path =>
      change (loadFile confy path).bind _ = (loadFile confy path).bind _
      cases loaded : loadFile confy path with
      | error failure => rfl
      | ok file =>
          obtain ⟨cert, key⟩ := loadFile_utf8 utf8 loaded
          change (configFromEnv env file).bind _ = _
          rw [configFromEnv_eq cert key]
          rfl

end Load

theorem tlsOptions_unset (env : Env) (build : Build) (nodeId : CStr) (args : Args) :
    (applyArgs args (processEnvVars env (sentrypeerConfigNew build nodeId))).tlsCertFile = none ∧
    (applyArgs args (processEnvVars env (sentrypeerConfigNew build nodeId))).tlsKeyFile = none ∧
    (applyArgs args (processEnvVars env (sentrypeerConfigNew build nodeId))).configFile = none := by
  unfold applyArgs
  cases args.json <;> exact ⟨rfl, rfl, rfl⟩

theorem configFromCli_none {rest : TlsConfig} {config : Config}
    (cert : config.tlsCertFile = none) : configFromCli rest config = .ok rest := by
  simp [configFromCli, cert]
  rfl

theorem configFromCli_nullKey {rest : TlsConfig} {config : Config} {certFile : CStr}
    (cert : config.tlsCertFile = some certFile) (utf8 : validUtf8 certFile.bytes = true)
    (key : config.tlsKeyFile = none) : configFromCli rest config = .error .nullPointer := by
  simp [configFromCli, cstrFromPtr, cert, key, utf8]
  rfl

theorem configFromCli_some {rest : TlsConfig} {config : Config} {certFile keyFile address : CStr}
    (cert : config.tlsCertFile = some certFile) (key : config.tlsKeyFile = some keyFile)
    (listen : config.tlsListenAddress = some address) (utf8Cert : validUtf8 certFile.bytes = true)
    (utf8Key : validUtf8 keyFile.bytes = true) (utf8Address : validUtf8 address.bytes = true) :
    configFromCli rest config = .ok ⟨certFile.bytes, keyFile.bytes, address.bytes⟩ := by
  simp [configFromCli, cstrFromPtr, cert, key, listen, utf8Cert, utf8Key, utf8Address]
  rfl

/-- The four fields that `parse_args` sets last. -/
theorem applyTlsArgs_fields (files : TlsFiles) (args : Args) (utf8 : ArgsUtf8 args) {config : Config}
    (noCert : config.tlsCertFile = none) (noKey : config.tlsKeyFile = none)
    (noFile : config.configFile = none) (rest : TlsConfig) :
    (applyTlsArgs files args config).1.configFile =
      (if tlsOptionsDone files args then args.configFile else none) ∧
    configFromCli rest (applyTlsArgs files args config).1 = argsOver files args rest := by
  obtain ⟨certKey, keyAddress⟩ := args.tlsRequires
  cases cert : args.tlsCertFile with
  | none =>
      have done : tlsOptionsDone files args = true := by simp [tlsOptionsDone, cert]
      have key : args.tlsKeyFile = none := by simpa [cert] using certKey.symm
      simp only [applyTlsArgs, argsOver, done, cert, key, noFile, Option.isSome_none, Bool.false_and,
        Bool.false_eq_true, if_false, if_true, Option.or_none]
      exact ⟨trivial, configFromCli_none noCert⟩
  | some certFile =>
      obtain ⟨keyFile, key⟩ := Option.isSome_iff_exists.mp (by rw [← certKey, cert]; rfl)
      obtain ⟨address, listen⟩ := Option.isSome_iff_exists.mp (by rw [← keyAddress, key]; rfl)
      have utf8Cert : validUtf8 certFile.bytes = true := utf8 certFile (by simp [cert])
      have utf8Key : validUtf8 keyFile.bytes = true := utf8 keyFile (by simp [key])
      have utf8Address : validUtf8 address.bytes = true := utf8 address (by simp [listen])
      cases missing : !files.certExists && !files.certCreated with
      | true =>
          have done : tlsOptionsDone files args = false := by
            simp_all [tlsOptionsDone]
          simp only [applyTlsArgs, argsOver, done, cert, key, listen, missing, Option.isSome_some,
            Bool.true_and, Bool.false_eq_true, if_true, if_false]
          exact ⟨noFile, configFromCli_none noCert⟩
      | false =>
          cases hasKey : files.keyExists with
          | false =>
              have done : tlsOptionsDone files args = false := by
                simp [tlsOptionsDone, cert, hasKey]
              simp only [applyTlsArgs, argsOver, done, cert, key, listen, missing, hasKey,
                Option.isSome_some, Bool.true_and, Bool.false_eq_true, Bool.not_false, if_true,
                if_false]
              exact ⟨noFile, configFromCli_nullKey rfl utf8Cert noKey⟩
          | true =>
              have available : (files.certExists || files.certCreated) = true := by
                cases exists_ : files.certExists <;> simp_all
              have done : tlsOptionsDone files args = true := by
                simp [tlsOptionsDone, available, hasKey]
              simp only [applyTlsArgs, argsOver, done, cert, key, listen, missing, hasKey, noFile,
                Option.isSome_some, Bool.true_and, Bool.false_eq_true, Bool.not_true, Bool.and_false,
                if_true, if_false, Option.or_none]
              exact ⟨trivial, configFromCli_some rfl rfl rfl utf8Cert utf8Key utf8Address⟩

def tlsArgs : Args :=
  { noArgs with
    tlsCertFile := some (.lit "cert.pem")
    tlsKeyFile := some (.lit "missing.pem")
    tlsListenAddress := some (.lit "0.0.0.0:5061")
    tlsRequires := ⟨rfl, rfl⟩ }

section Certificates
variable {ι Cert Key : Type} {library : TlsLibrary Cert Key} {config : TlsConfig}
  {files : FileSystem ι}

def certsExist (files : FileSystem ι) (config : TlsConfig) : Bool :=
  files.pathExists config.cert && files.pathExists config.key

def Usable (library : TlsLibrary Cert Key) (config : TlsConfig) (files : FileSystem ι) : Prop :=
  ∃ certs key, loadCerts library files config.cert = some certs ∧
    loadKey library files config.key = some key ∧ library.withSingleCert certs key = true

/-- The two files `create_certs` writes: what it may write it may read. -/
structure PemFiles (files : FileSystem ι) : Prop where
  distinct : files.locate certPem ≠ files.locate keyPem
  readable : ∀ path ∈ [certPem, keyPem], ∀ entry,
    files.entries (files.locate path) = some entry → entry.readable = true

theorem PemFiles.written (pem : PemFiles files) {path : List UInt8} (own : path ∈ [certPem, keyPem])
    (contents : List UInt8) : files.written path contents = some ⟨true, contents⟩ := by
  unfold FileSystem.written
  cases found : files.entries (files.locate path) with
  | none => rfl
  | some entry => simp [writeEntry, pem.readable path own entry found]

theorem readFile_entry {path bytes : List UInt8} (read : files.readFile path = some bytes) :
    files.entries (files.locate path) = some ⟨true, bytes⟩ := by
  unfold FileSystem.readFile readEntry at read
  split at read
  · rename_i found
    cases read
    exact found
  · cases read

theorem loadCerts_eq_some {path : List UInt8} {certs : List Cert} :
    loadCerts library files path = some certs ↔
      ∃ bytes, files.readFile path = some bytes ∧ library.certs bytes = some certs := by
  simp [loadCerts, Option.bind_eq_some_iff]

theorem loadKey_eq_some {path : List UInt8} {key : Key} :
    loadKey library files path = some key ↔
      ∃ bytes, files.readFile path = some bytes ∧ library.privateKey bytes = some (some key) := by
  simp [loadKey, Option.bind_eq_some_iff]

theorem not_usable_of_certs (unread : loadCerts library files config.cert = none) :
    ¬ Usable library config files := by
  rintro ⟨certs, key, found, -, -⟩
  rw [unread] at found
  cases found

theorem not_usable_of_key (unread : loadKey library files config.key = none) :
    ¬ Usable library config files := by
  rintro ⟨certs, key, -, found, -⟩
  rw [unread] at found
  cases found

theorem usable_iff {certs : List Cert} {key : Key}
    (hasCerts : loadCerts library files config.cert = some certs)
    (hasKey : loadKey library files config.key = some key) :
    Usable library config files ↔ library.withSingleCert certs key = true := by
  simp [Usable, hasCerts, hasKey]
variable [DecidableEq ι]

def withCert (library : TlsLibrary Cert Key) (files : FileSystem ι) : FileSystem ι :=
  files.set certPem (files.written certPem library.selfSigned.1)

def withCertAndKey (library : TlsLibrary Cert Key) (files : FileSystem ι) : FileSystem ι :=
  (withCert library files).set keyPem ((withCert library files).written keyPem library.selfSigned.2)

/-- The files the thread reads the certificate and the key from. -/
def preparedFiles (library : TlsLibrary Cert Key) (config : TlsConfig) (files : FileSystem ι) :
    FileSystem ι :=
  if certsExist files config then files else withCertAndKey library files

/-- What a step of the thread says about the files so far, where no call has failed. -/
def ThreadAt (library : TlsLibrary Cert Key) (config : TlsConfig) (start files : FileSystem ι) :
    ServerStep Cert Key → Prop
  | .loadConfigs => files = start
  | .bindTcp loaded | .bindUdp loaded | .resolve loaded | .findCerts loaded =>
      loaded = config ∧ files = start
  | .writeCert loaded => loaded = config ∧ files = start ∧ certsExist start config = false
  | .writeKey loaded =>
      loaded = config ∧ files = withCert library start ∧ certsExist start config = false
  | .loadCerts loaded => loaded = config ∧ files = preparedFiles library config start
  | .loadKey loaded certs =>
      loaded = config ∧ files = preparedFiles library config start ∧
        loadCerts library files config.cert = some certs
  | .installProvider certs key | .serverConfig certs key =>
      files = preparedFiles library config start ∧
        loadCerts library files config.cert = some certs ∧
        loadKey library files config.key = some key
  | .bindTls | .awaiting | .ended (.returned .success) =>
      files = preparedFiles library config start ∧ Usable library config files
  | .ended .panicked =>
      files = preparedFiles library config start ∧ ¬ Usable library config files
  | .ended _ => False

def CallSucceeds : ServerEvent → Prop
  | .thread succeeds _ => succeeds = true
  | _ => True

theorem threadStep_at {start : FileSystem ι} {s : SipServer ι Cert Key} {leaves : Option Entry}
    (at_ : ThreadAt library config start s.files s.step) :
    ThreadAt library config start (threadStep library (.ok config) true leaves s).files
      (threadStep library (.ok config) true leaves s).step := by
  obtain ⟨step, listening, runtime, message, files⟩ := s
  cases step with
  | loadConfigs => exact ⟨rfl, at_⟩
  | bindTcp loaded => exact at_
  | bindUdp loaded => exact at_
  | resolve loaded => exact at_
  | findCerts loaded =>
      obtain ⟨rfl, rfl⟩ := at_
      simp only [threadStep, if_true]
      split
      · rename_i missing
        exact ⟨rfl, rfl, by simpa [certsExist, ← Bool.not_and] using missing⟩
      · rename_i found
        refine ⟨rfl, ?_⟩
        simp only [Bool.or_eq_true, Bool.not_eq_true', not_or, Bool.not_eq_false] at found
        simp [preparedFiles, certsExist, found]
  | writeCert loaded =>
      obtain ⟨rfl, rfl, missing⟩ := at_
      exact ⟨rfl, rfl, missing⟩
  | writeKey loaded =>
      obtain ⟨rfl, rfl, missing⟩ := at_
      refine ⟨rfl, ?_⟩
      simp only [threadStep, if_true, preparedFiles, missing, Bool.false_eq_true, if_false]
      rfl
  | loadCerts loaded =>
      obtain ⟨rfl, prepared⟩ := at_
      simp only [threadStep]
      split
      · rename_i certs found
        exact ⟨rfl, prepared, found⟩
      · rename_i unread
        exact ⟨prepared, not_usable_of_certs unread⟩
  | loadKey loaded certs =>
      obtain ⟨rfl, prepared, hasCerts⟩ := at_
      simp only [threadStep]
      split
      · rename_i key found
        exact ⟨prepared, hasCerts, found⟩
      · rename_i unread
        exact ⟨prepared, not_usable_of_key unread⟩
  | installProvider certs key => exact at_
  | serverConfig certs key =>
      obtain ⟨prepared, hasCerts, hasKey⟩ := at_
      simp only [threadStep]
      split
      · rename_i accepted
        exact ⟨prepared, certs, key, hasCerts, hasKey, accepted⟩
      · rename_i refused
        exact ⟨prepared, fun usable => refused ((usable_iff hasCerts hasKey).mp usable)⟩
  | bindTls => exact at_
  | awaiting =>
      simp only [threadStep]
      split
      · exact at_
      · exact at_
  | ended how => exact at_

theorem serverStep_at {start : FileSystem ι} {s : SipServer ι Cert Key} {event : ServerEvent}
    (succeeds : CallSucceeds event) (at_ : ThreadAt library config start s.files s.step) :
    ThreadAt library config start (serverStep library (.ok config) s event).files
      (serverStep library (.ok config) s event).step := by
  cases event with
  | thread returned leaves =>
      cases returned with
      | false => cases succeeds
      | true => exact threadStep_at at_
  | acceptFails listener => exact at_
  | workersStop =>
      simp only [serverStep, workersStop]
      split
      · exact at_
      · exact at_
  | shutdownSip =>
      simp only [serverStep, shutdownSip]
      split
      · exact at_
      · exact at_

theorem serverRun_at {start : FileSystem ι} {s : SipServer ι Cert Key} {events : List ServerEvent}
    (succeed : ∀ event ∈ events, CallSucceeds event)
    (at_ : ThreadAt library config start s.files s.step) :
    ThreadAt library config start (serverRun library (.ok config) s events).files
      (serverRun library (.ok config) s events).step := by
  induction events generalizing s with
  | nil => exact at_
  | cons event rest ih =>
      rw [List.forall_mem_cons] at succeed
      exact ih succeed.2 (serverStep_at succeed.1 at_)

/-- rcgen has made a new pair, and each of its files holds one half of it. -/
structure NewPair (library : TlsLibrary Cert Key) (files : FileSystem ι) : Prop where
  pair : ∃ certs key, library.certs library.selfSigned.1 = some certs ∧
    library.privateKey library.selfSigned.2 = some (some key) ∧
    library.withSingleCert certs key = true
  noKey : ∀ key, library.privateKey library.selfSigned.1 ≠ some (some key)
  noCert : ∀ certs key, library.certs library.selfSigned.2 = some certs →
    library.withSingleCert certs key = false
  newKey : ∀ i entry certs key, files.entries i = some entry →
    library.certs entry.bytes = some certs →
    library.privateKey library.selfSigned.2 = some (some key) →
    library.withSingleCert certs key = false
  newCert : ∀ i entry certs key, files.entries i = some entry →
    library.privateKey entry.bytes = some (some key) →
    library.certs library.selfSigned.1 = some certs →
    library.withSingleCert certs key = false

theorem withCertAndKey_entries (pem : PemFiles files) (i : ι) :
    (withCertAndKey library files).entries i =
      if i = files.locate keyPem then some ⟨true, library.selfSigned.2⟩
      else if i = files.locate certPem then some ⟨true, library.selfSigned.1⟩
      else files.entries i := by
  have unchanged : (withCert library files).entries (files.locate keyPem) =
      files.entries (files.locate keyPem) := if_neg pem.distinct.symm
  have key : (withCert library files).written keyPem library.selfSigned.2 =
      some ⟨true, library.selfSigned.2⟩ := by
    have own : keyPem ∈ [certPem, keyPem] := by simp
    rw [← pem.written own library.selfSigned.2]
    exact congrArg (writeEntry library.selfSigned.2) unchanged
  unfold withCertAndKey
  rw [key]
  change (if i = files.locate keyPem then _ else if i = files.locate certPem then
    files.written certPem library.selfSigned.1 else files.entries i) = _
  rw [pem.written (by simp)]

theorem withCertAndKey_readFile (pem : PemFiles files) (path : List UInt8) :
    (withCertAndKey library files).readFile path =
      if files.locate path = files.locate keyPem then some library.selfSigned.2
      else if files.locate path = files.locate certPem then some library.selfSigned.1
      else files.readFile path := by
  have entries : (withCertAndKey library files).entries (files.locate path) = _ :=
    withCertAndKey_entries pem (files.locate path)
  change readEntry ((withCertAndKey library files).entries (files.locate path)) = _
  rw [entries]
  split_ifs <;> rfl

/-- The new pair serves only in its own two files. -/
theorem usable_withCertAndKey_iff (pem : PemFiles files) (new : NewPair library files)
    (missing : certsExist files config = false) :
    Usable library config (withCertAndKey library files) ↔
      files.locate config.cert = files.locate certPem ∧
        files.locate config.key = files.locate keyPem := by
  constructor
  · rintro ⟨certs, key, hasCerts, hasKey, accepted⟩
    obtain ⟨certText, readCert, isCerts⟩ := loadCerts_eq_some.mp hasCerts
    obtain ⟨keyText, readKey, isKey⟩ := loadKey_eq_some.mp hasKey
    rw [withCertAndKey_readFile pem] at readCert readKey
    by_cases certKey : files.locate config.cert = files.locate keyPem
    · rw [if_pos certKey] at readCert
      cases readCert
      rw [new.noCert certs key isCerts] at accepted
      cases accepted
    rw [if_neg certKey] at readCert
    by_cases keyKey : files.locate config.key = files.locate keyPem
    · rw [if_pos keyKey] at readKey
      cases readKey
      by_cases certCert : files.locate config.cert = files.locate certPem
      · exact ⟨certCert, keyKey⟩
      · rw [if_neg certCert] at readCert
        rw [new.newKey _ _ certs key (readFile_entry readCert) isCerts isKey] at accepted
        cases accepted
    rw [if_neg keyKey] at readKey
    by_cases keyCert : files.locate config.key = files.locate certPem
    · rw [if_pos keyCert] at readKey
      cases readKey
      exact absurd isKey (new.noKey key)
    rw [if_neg keyCert] at readKey
    by_cases certCert : files.locate config.cert = files.locate certPem
    · rw [if_pos certCert] at readCert
      cases readCert
      rw [new.newCert _ _ certs key (readFile_entry readKey) isKey isCerts] at accepted
      cases accepted
    · rw [if_neg certCert] at readCert
      simp [certsExist, FileSystem.pathExists, readFile_entry readCert,
        readFile_entry readKey] at missing
  · rintro ⟨certCert, keyKey⟩
    obtain ⟨certs, key, isCerts, isKey, accepted⟩ := new.pair
    refine ⟨certs, key, loadCerts_eq_some.mpr ⟨_, ?_, isCerts⟩, loadKey_eq_some.mpr ⟨_, ?_, isKey⟩,
      accepted⟩
    · rw [withCertAndKey_readFile pem, certCert, if_neg pem.distinct, if_pos rfl]
    · rw [withCertAndKey_readFile pem, if_pos keyKey]

end Certificates

/-! ## The listeners -/

section Listeners
variable {ι Cert Key : Type}

/-- The calls that are left before the thread has ended. -/
def callsLeft : ServerStep Cert Key → Nat
  | .loadConfigs => 13
  | .bindTcp _ => 12
  | .bindUdp _ => 11
  | .resolve _ => 10
  | .findCerts _ => 9
  | .writeCert _ => 8
  | .writeKey _ => 7
  | .loadCerts _ => 6
  | .loadKey _ _ => 5
  | .installProvider _ _ => 4
  | .serverConfig _ _ => 3
  | .bindTls => 2
  | .awaiting => 1
  | .ended _ => 0

/-- The calls that are left when a listener has been set up. -/
def boundAt : RustListener → Nat
  | .tcp => 11
  | .udp => 10
  | .tls => 1

/-- The runtime stops with the thread, and takes the listeners with it. -/
structure ServerSound (s : SipServer ι Cert Key) : Prop where
  running : s.runtime = .running ↔ callsLeft s.step ≠ 0
  down : s.runtime = .down → ∀ l, s.listening l = false

/-- A listener is there from its `bind` on. -/
def Bound (l : RustListener) (s : SipServer ι Cert Key) : Prop :=
  callsLeft s.step ≠ 0 → (s.listening l = true ↔ callsLeft s.step ≤ boundAt l)

/-- What a call of the thread changes: the thread ends, or it comes to a later call and binds the
listeners between, or it has nothing to do. -/
inductive ThreadMoves (s : SipServer ι Cert Key) : SipServer ι Cert Key → Prop
  | ends (how : ServerEnd) (files : FileSystem ι) (busy : callsLeft s.step ≠ 0) :
      ThreadMoves s { s.ends how with files }
  | goesOn (step : ServerStep Cert Key) (files : FileSystem ι) (listening : RustListener → Bool)
      (fewer : callsLeft step < callsLeft s.step) (more : 0 < callsLeft step)
      (bound : ∀ l, listening l =
        (decide (callsLeft step ≤ boundAt l ∧ boundAt l < callsLeft s.step) || s.listening l)) :
      ThreadMoves s { s with step, files, listening }
  | stays (idle : callsLeft s.step = 0 ∨ (s.step = .awaiting ∧ s.message = false)) :
      ThreadMoves s s

theorem ThreadMoves.quietly {s : SipServer ι Cert Key} (n m : Nat) (now : callsLeft s.step = n)
    (step : ServerStep Cert Key) (next : callsLeft step = m) (files : FileSystem ι)
    (fewer : 0 < m ∧ m < n) (quiet : ∀ l, ¬ (m ≤ boundAt l ∧ boundAt l < n)) :
    ThreadMoves s { s with step, files } := by
  subst now next
  apply ThreadMoves.goesOn step files s.listening fewer.2 fewer.1
  intro l
  simp [quiet l]

theorem ThreadMoves.binds {s : SipServer ι Cert Key} (n m : Nat) (now : callsLeft s.step = n)
    (step : ServerStep Cert Key) (next : callsLeft step = m) (listener : RustListener)
    (fewer : 0 < m ∧ m < n) (own : ∀ l, l = listener ↔ m ≤ boundAt l ∧ boundAt l < n) :
    ThreadMoves s { s.listens listener with step } := by
  subst now next
  apply ThreadMoves.goesOn step s.files _ fewer.2 fewer.1
  intro l
  simp only [SipServer.listens, own l]

theorem ThreadMoves.sound {s t : SipServer ι Cert Key} (moves : ThreadMoves s t)
    (sound : ServerSound s) : ServerSound t := by
  cases moves with
  | ends how files busy =>
      refine ⟨?_, fun down => by cases down⟩
      simp [SipServer.ends, callsLeft]
  | goesOn step files listening fewer more bound =>
      have running : s.runtime = .running := sound.running.mpr (by omega)
      refine ⟨?_, fun down => ?_⟩
      · simp only [running, true_iff]
        omega
      · rw [show s.runtime = .down from down] at running
        cases running
  | stays idle => exact sound

theorem ThreadMoves.bound {s t : SipServer ι Cert Key} {l : RustListener} (moves : ThreadMoves s t)
    (bound : Bound l s) : Bound l t := by
  cases moves with
  | ends how files busy => exact fun ended => absurd rfl ended
  | goesOn step files listening fewer more binds =>
      intro _
      have before := bound (by omega)
      change listening l = true ↔ callsLeft step ≤ boundAt l
      rw [binds l, Bool.or_eq_true, before, decide_eq_true_eq]
      omega
  | stays idle => exact bound

theorem runSipServer_sound (spawned : Bool) (files : FileSystem ι) :
    ServerSound (runSipServer spawned files : SipServer ι Cert Key × Exit).1 := by
  cases spawned with
  | true => exact ⟨by simp [runSipServer, callsLeft], fun _ _ => rfl⟩
  | false => exact ⟨by simp [runSipServer, SipServer.ends, callsLeft], fun _ _ => rfl⟩

theorem runSipServer_bound (spawned : Bool) (files : FileSystem ι) (l : RustListener) :
    Bound l (runSipServer spawned files : SipServer ι Cert Key × Exit).1 := by
  cases spawned with
  | true =>
      intro _
      cases l <;> simp [runSipServer, callsLeft, boundAt]
  | false =>
      intro busy
      exact absurd rfl busy

theorem ThreadMoves.progress {s t : SipServer ι Cert Key} (moves : ThreadMoves s t)
    (message : s.message = true) : t.message = true ∧ callsLeft t.step ≤ callsLeft s.step - 1 := by
  cases moves with
  | ends how files busy => exact ⟨message, Nat.zero_le _⟩
  | goesOn step files listening fewer more bound =>
      refine ⟨message, ?_⟩
      change callsLeft step ≤ _
      omega
  | stays idle =>
      rcases idle with ended | ⟨-, unsent⟩
      · exact ⟨message, by omega⟩
      · rw [unsent] at message
        cases message

/-- What `main` knows of the listeners. -/
def listenerOf (s : SipServer ι Cert Key) : Listener :=
  if s.runtime = .down then .ended else .listening

theorem ServerSound.listenerOf {s : SipServer ι Cert Key} (sound : ServerSound s) {l : RustListener}
    (listening : s.listening l = true) : Proof.listenerOf s = .listening := by
  apply if_neg
  intro down
  rw [sound.down down l] at listening
  cases listening

theorem ThreadMoves.listenerOf {s t : SipServer ι Cert Key} (moves : ThreadMoves s t)
    (sound : ServerSound s) : Proof.listenerOf t = Proof.listenerOf s := by
  cases moves with
  | ends how files busy => simp [Proof.listenerOf, SipServer.ends, sound.running.mpr busy]
  | goesOn step files listening fewer more bound => rfl
  | stays idle => rfl

variable [DecidableEq ι] {library : TlsLibrary Cert Key} {configs : Except ConfigFailure TlsConfig}

theorem threadStep_moves (succeeds : Bool) (leaves : Option Entry) (s : SipServer ι Cert Key) :
    ThreadMoves s (threadStep library configs succeeds leaves s) := by
  have stops (how : ServerEnd) (n : Nat) (now : callsLeft s.step = n + 1) :
      ThreadMoves s (s.ends how) := .ends how s.files (by rw [now]; exact Nat.succ_ne_zero n)
  cases at_ : s.step with
  | loadConfigs =>
      have now : callsLeft s.step = 13 := by rw [at_]; rfl
      simp only [threadStep, at_]
      split
      · exact .quietly 13 12 now (.bindTcp _) rfl s.files (by decide)
          (by intro l; cases l <;> decide)
      · exact stops _ 12 now
      · exact stops _ 12 now
  | bindTcp config =>
      have now : callsLeft s.step = 12 := by rw [at_]; rfl
      simp only [threadStep, at_]
      split
      · exact .binds 12 11 now (.bindUdp config) rfl .tcp (by decide)
          (by intro l; cases l <;> decide)
      · exact stops _ 11 now
  | bindUdp config =>
      have now : callsLeft s.step = 11 := by rw [at_]; rfl
      simp only [threadStep, at_]
      split
      · exact .binds 11 10 now (.resolve config) rfl .udp (by decide)
          (by intro l; cases l <;> decide)
      · exact stops _ 10 now
  | resolve config =>
      have now : callsLeft s.step = 10 := by rw [at_]; rfl
      simp only [threadStep, at_]
      split
      · exact .quietly 10 9 now (.findCerts config) rfl s.files (by decide)
          (by intro l; cases l <;> decide)
      · exact stops _ 9 now
  | findCerts config =>
      have now : callsLeft s.step = 9 := by rw [at_]; rfl
      simp only [threadStep, at_]
      split
      · split
        · exact .quietly 9 8 now (.writeCert config) rfl s.files (by decide)
            (by intro l; cases l <;> decide)
        · exact stops _ 8 now
      · exact .quietly 9 6 now (.loadCerts config) rfl s.files (by decide)
          (by intro l; cases l <;> decide)
  | writeCert config =>
      have now : callsLeft s.step = 8 := by rw [at_]; rfl
      simp only [threadStep, at_]
      split
      · exact .quietly 8 7 now (.writeKey config) rfl _ (by decide)
          (by intro l; cases l <;> decide)
      · exact .ends _ _ (by rw [now]; decide)
  | writeKey config =>
      have now : callsLeft s.step = 7 := by rw [at_]; rfl
      simp only [threadStep, at_]
      split
      · exact .quietly 7 6 now (.loadCerts config) rfl _ (by decide)
          (by intro l; cases l <;> decide)
      · exact .ends _ _ (by rw [now]; decide)
  | loadCerts config =>
      have now : callsLeft s.step = 6 := by rw [at_]; rfl
      simp only [threadStep, at_]
      split
      · exact .quietly 6 5 now (.loadKey config _) rfl s.files (by decide)
          (by intro l; cases l <;> decide)
      · exact stops _ 5 now
  | loadKey config certs =>
      have now : callsLeft s.step = 5 := by rw [at_]; rfl
      simp only [threadStep, at_]
      split
      · exact .quietly 5 4 now (.installProvider certs _) rfl s.files (by decide)
          (by intro l; cases l <;> decide)
      · exact stops _ 4 now
  | installProvider certs key =>
      have now : callsLeft s.step = 4 := by rw [at_]; rfl
      simp only [threadStep, at_]
      split
      · exact .quietly 4 3 now (.serverConfig certs key) rfl s.files (by decide)
          (by intro l; cases l <;> decide)
      · exact stops _ 3 now
  | serverConfig certs key =>
      have now : callsLeft s.step = 3 := by rw [at_]; rfl
      simp only [threadStep, at_]
      split
      · exact .quietly 3 2 now .bindTls rfl s.files (by decide) (by intro l; cases l <;> decide)
      · exact stops _ 2 now
  | bindTls =>
      have now : callsLeft s.step = 2 := by rw [at_]; rfl
      simp only [threadStep, at_]
      split
      · exact .binds 2 1 now .awaiting rfl .tls (by decide) (by intro l; cases l <;> decide)
      · exact stops _ 1 now
  | awaiting =>
      have now : callsLeft s.step = 1 := by rw [at_]; rfl
      simp only [threadStep, at_]
      split
      · exact stops _ 0 now
      · rename_i unsent
        exact .stays (.inr ⟨at_, by simpa using unsent⟩)
  | ended how =>
      simp only [threadStep, at_]
      exact .stays (.inl (by rw [at_]; rfl))

theorem serverStep_sound {s : SipServer ι Cert Key} (sound : ServerSound s) (event : ServerEvent) :
    ServerSound (serverStep library configs s event) := by
  cases event with
  | thread succeeds leaves =>
      exact (threadStep_moves succeeds leaves s).sound sound
  | acceptFails listener =>
      refine ⟨sound.running, fun down l => ?_⟩
      simp [serverStep, acceptFails, sound.down down l]
  | workersStop =>
      simp only [serverStep, workersStop]
      split
      · rename_i stopping
        refine ⟨?_, fun _ _ => rfl⟩
        have running := sound.running
        rw [stopping] at running
        simpa using running
      · exact sound
  | shutdownSip =>
      simp only [serverStep, shutdownSip]
      split
      · exact sound
      · exact ⟨sound.running, sound.down⟩

theorem serverStep_bound {s : SipServer ι Cert Key} {l : RustListener} (sound : ServerSound s)
    (bound : Bound l s) {event : ServerEvent} (accepts : event ≠ .acceptFails l) :
    Bound l (serverStep library configs s event) := by
  cases event with
  | thread succeeds leaves => exact (threadStep_moves succeeds leaves s).bound bound
  | acceptFails listener =>
      have other : l ≠ listener := fun same => accepts (by rw [same])
      intro busy
      simpa [serverStep, acceptFails, other] using bound busy
  | workersStop =>
      simp only [serverStep, workersStop]
      split
      · rename_i stopping
        intro busy
        have running := sound.running.mpr busy
        rw [stopping] at running
        cases running
      · exact bound
  | shutdownSip =>
      simp only [serverStep, shutdownSip]
      split
      · exact bound
      · exact bound

theorem serverRun_sound {s : SipServer ι Cert Key} (sound : ServerSound s)
    (events : List ServerEvent) : ServerSound (serverRun library configs s events) := by
  induction events generalizing s with
  | nil => exact sound
  | cons event rest ih => exact ih (serverStep_sound sound event)

theorem serverRun_bound {s : SipServer ι Cert Key} {l : RustListener} (sound : ServerSound s)
    (bound : Bound l s) {events : List ServerEvent} (accepts : .acceptFails l ∉ events) :
    Bound l (serverRun library configs s events) := by
  induction events generalizing s with
  | nil => exact bound
  | cons event rest ih =>
      rw [List.mem_cons, not_or] at accepts
      exact ih (serverStep_sound sound event) (serverStep_bound sound bound (Ne.symm accepts.1))
        accepts.2

def isCall : ServerEvent → Bool
  | .thread _ _ => true
  | _ => false

theorem serverStep_progress {s : SipServer ι Cert Key} (message : s.message = true)
    (event : ServerEvent) :
    (serverStep library configs s event).message = true ∧
      callsLeft (serverStep library configs s event).step ≤
        callsLeft s.step - (if isCall event then 1 else 0) := by
  cases event with
  | thread succeeds leaves => exact (threadStep_moves succeeds leaves s).progress message
  | acceptFails listener => exact ⟨message, le_refl _⟩
  | workersStop =>
      simp only [serverStep, workersStop]
      split
      · exact ⟨message, le_refl _⟩
      · exact ⟨message, le_refl _⟩
  | shutdownSip =>
      simp only [serverStep, shutdownSip]
      split
      · exact ⟨message, le_refl _⟩
      · exact ⟨rfl, le_refl _⟩

theorem serverRun_progress {s : SipServer ι Cert Key} (message : s.message = true)
    (events : List ServerEvent) :
    callsLeft (serverRun library configs s events).step ≤
      callsLeft s.step - events.countP isCall := by
  induction events generalizing s with
  | nil => exact le_refl _
  | cons event rest ih =>
      have once : (serverStep library configs s event).message = true ∧ _ :=
        serverStep_progress message event
      have rest_ := ih once.1
      have fewer := once.2
      rw [List.countP_cons]
      change callsLeft (serverRun library configs (serverStep library configs s event) rest).step ≤ _
      omega

theorem callsLeft_le (step : ServerStep Cert Key) : callsLeft step ≤ 13 := by
  cases step <;> simp [callsLeft]

/-- An end of the thread is for good, and so is the end of the runtime. -/
theorem serverRun_ended {s : SipServer ι Cert Key} (ended : callsLeft s.step = 0)
    (events : List ServerEvent) : (serverRun library configs s events).step = s.step ∧
      (s.runtime = .down → (serverRun library configs s events).runtime = .down) := by
  induction events generalizing s with
  | nil => exact ⟨rfl, id⟩
  | cons event rest ih =>
      have once : (serverStep library configs s event).step = s.step ∧
          (s.runtime = .down → (serverStep library configs s event).runtime = .down) := by
        cases event with
        | thread succeeds leaves =>
            cases at_ : s.step with
            | ended how => simp [serverStep, threadStep, at_]
            | _ => simp [at_, callsLeft] at ended
        | acceptFails listener => exact ⟨rfl, id⟩
        | workersStop =>
            simp only [serverStep, workersStop]
            split
            · exact ⟨rfl, fun _ => rfl⟩
            · exact ⟨rfl, id⟩
        | shutdownSip =>
            simp only [serverStep, shutdownSip]
            split
            · exact ⟨rfl, id⟩
            · exact ⟨rfl, id⟩
      have stillEnded : callsLeft (serverStep library configs s event).step = 0 := by
        rw [once.1, ended]
      obtain ⟨same, down⟩ := ih stillEnded
      exact ⟨same.trans once.1, fun was => down (once.2 was)⟩

/-- Once the thread has ended and the workers stop, there is no listener any more. -/
theorem serverRun_silent {s : SipServer ι Cert Key} (sound : ServerSound s)
    (ended : callsLeft s.step = 0) (later : List ServerEvent) (l : RustListener) :
    (serverRun library configs s (.workersStop :: later)).listening l = false := by
  have stopped : (serverStep library configs s .workersStop).runtime = .down ∧
      (serverStep library configs s .workersStop).step = s.step := by
    simp only [serverStep, workersStop]
    split
    · exact ⟨rfl, rfl⟩
    · rename_i notStopping
      have notRunning : s.runtime ≠ .running := fun running => sound.running.mp running ended
      cases runtime : s.runtime with
      | running => exact absurd runtime notRunning
      | shuttingDown => exact absurd runtime notStopping
      | down => exact ⟨rfl, rfl⟩
  have stillEnded : callsLeft (serverStep library configs s .workersStop).step = 0 := by
    rw [stopped.2, ended]
  have down : (serverRun library configs s (.workersStop :: later)).runtime = .down :=
    (serverRun_ended stillEnded later).2 stopped.1
  exact (serverRun_sound (serverStep_sound sound .workersStop) later).down down l

theorem callsLeft_eq_zero {step : ServerStep Cert Key} :
    callsLeft step = 0 ↔ ∃ how, step = .ended how := by
  cases step <;> simp [callsLeft]

/-- However far the thread is and whatever `shutdown_sip` returns, there is no listener once the
thread has made its calls and the workers have stopped. It fails where the thread has ended already. -/
theorem sipServer_stops (library : TlsLibrary Cert Key) (configs : Except ConfigFailure TlsConfig)
    (spawned : Bool) (files : FileSystem ι) (before during after : List ServerEvent)
    (calls : 13 ≤ during.countP isCall) (l : RustListener) :
    let s := serverRun library configs (runSipServer spawned files).1 before
    ((shutdownSip s).2 = .failure ↔ ∃ how, s.step = .ended how) ∧
      (serverRun library configs (shutdownSip s).1 (during ++ .workersStop :: after)).listening l =
        false := by
  intro s
  have sound : ServerSound s := serverRun_sound (runSipServer_sound spawned files) before
  have stopsSound : ServerSound (serverStep library configs s .shutdownSip) :=
    serverStep_sound sound .shutdownSip
  have ends : callsLeft (serverRun library configs (shutdownSip s).1 during).step = 0 := by
    by_cases ended : callsLeft s.step = 0
    · obtain ⟨how, at_⟩ := callsLeft_eq_zero.mp ended
      have same : (shutdownSip s).1 = s := by simp [shutdownSip, at_]
      rw [same, (serverRun_ended ended during).1, ended]
    · have sent : (shutdownSip s).1.message = true ∧ (shutdownSip s).1.step = s.step := by
        unfold shutdownSip
        split
        · rename_i how at_
          exact absurd (callsLeft_eq_zero.mpr ⟨how, at_⟩) ended
        · exact ⟨rfl, rfl⟩
      have left : callsLeft (serverRun library configs (shutdownSip s).1 during).step ≤ _ :=
        serverRun_progress sent.1 during
      have most := callsLeft_le (shutdownSip s).1.step
      omega
  refine ⟨?_, ?_⟩
  · unfold shutdownSip
    split
    · rename_i how at_
      simp [at_]
    · rename_i busy
      simpa using busy
  · unfold serverRun
    rw [List.foldl_append]
    exact serverRun_silent (serverRun_sound stopsSound during) ends after l

/-- The certificate and the key are there and go together; or one is missing, and their paths are
those of the pair the server makes. -/
def Serves (library : TlsLibrary Cert Key) (config : TlsConfig) (files : FileSystem ι) : Prop :=
  if certsExist files config then Usable library config files
  else files.locate config.cert = files.locate certPem ∧
    files.locate config.key = files.locate keyPem

/-- Where no call into the system fails, the certificates decide about all three listeners, though
`run_sip_server` has returned long before. -/
theorem sipServer_serves_iff {files : FileSystem ι} (pem : PemFiles files)
    (new : NewPair library files) (config : TlsConfig) {events : List ServerEvent}
    (succeed : ∀ event ∈ events, CallSucceeds event)
    (settled : callsLeft (serverRun library (.ok config)
      (runSipServer true files).1 events).step ≤ 1) :
    let s := serverRun library (.ok config) (runSipServer true files).1 events
    s.files = preparedFiles library config files ∧
    (Serves library config files →
      (s.step = .awaiting ∨ s.step = .ended (.returned .success)) ∧
      (s.step = .awaiting → ∀ l, .acceptFails l ∉ events → s.listening l = true)) ∧
    (¬ Serves library config files → s.step = .ended .panicked ∧
      ∀ later l, (serverRun library (.ok config) s (.workersStop :: later)).listening l = false) := by
  intro s
  have at_ : ThreadAt library config files s.files s.step := serverRun_at succeed rfl
  have sound : ServerSound s := serverRun_sound (runSipServer_sound true files) events
  have serves : Serves library config files ↔
      Usable library config (preparedFiles library config files) := by
    unfold Serves preparedFiles
    cases missing : certsExist files config with
    | true => rfl
    | false =>
        simp only [Bool.false_eq_true, if_false]
        exact (usable_withCertAndKey_iff pem new missing).symm
  have bound (l : RustListener) (accepts : .acceptFails l ∉ events) : Bound l s :=
    serverRun_bound (runSipServer_sound true files) (runSipServer_bound true files l) accepts
  rw [serves]
  change callsLeft s.step ≤ 1 at settled
  cases step : s.step with
  | awaiting =>
      rw [step] at at_
      obtain ⟨prepared, usable⟩ := at_
      refine ⟨prepared, fun _ => ⟨.inl rfl, fun _ l accepts => ?_⟩, fun useless => ?_⟩
      · have left : callsLeft s.step = 1 := by rw [step]; rfl
        rw [bound l accepts (by omega), left]
        cases l <;> decide
      · rw [prepared] at usable
        exact absurd usable useless
  | ended how =>
      rw [step] at at_
      cases how with
      | panicked =>
          obtain ⟨prepared, useless⟩ := at_
          rw [prepared] at useless
          refine ⟨prepared, fun usable => absurd usable useless, fun _ => ⟨rfl, fun later l => ?_⟩⟩
          exact serverRun_silent sound (callsLeft_eq_zero.mpr ⟨_, step⟩) later l
      | returned exit =>
          cases exit with
          | success =>
              obtain ⟨prepared, usable⟩ := at_
              refine ⟨prepared, fun _ => ⟨.inr rfl, fun waits => by cases waits⟩, fun useless => ?_⟩
              rw [prepared] at usable
              exact absurd usable useless
          | failure => exact at_.elim
      | notSpawned => exact at_.elim
      | nullPointer => exact at_.elim
  | _ => simp [step, callsLeft] at settled

/-- To `main` a step is nothing, or it is the end of the listeners. -/
theorem serverStep_listenerOf (build : Build) (sentrypeerConfig : Config) {s : SipServer ι Cert Key}
    (sound : ServerSound s) (event : ServerEvent) {process : Lifecycle}
    (runs : process.main ≠ .exited) (same : process.listener = listenerOf s) :
    process.listener = listenerOf (serverStep library configs s event) ∨
      ∃ next, lifecycleStep build sentrypeerConfig process .listenerEnds = .ok next ∧
        next.listener = listenerOf (serverStep library configs s event) := by
  cases event with
  | thread succeeds leaves =>
      exact .inl (same.trans ((threadStep_moves succeeds leaves s).listenerOf sound).symm)
  | acceptFails listener => exact .inl same
  | shutdownSip =>
      simp only [serverStep, shutdownSip]
      split
      · exact .inl same
      · exact .inl same
  | workersStop =>
      simp only [serverStep, workersStop]
      split
      · rename_i stopping
        have listening : process.listener = .listening := by simp [same, listenerOf, stopping]
        refine .inr ⟨endListener sentrypeerConfig process, by simp [lifecycleStep, runs], ?_⟩
        unfold endListener
        cases sentrypeerConfig.newMode <;> simp [listening, listenerOf]
      · exact .inl same

end Listeners

/-! ## A server without files -/

def noFiles : FileSystem (List UInt8) where
  locate := id
  entries _ := none

def pemLibrary : TlsLibrary Unit Unit where
  certs bytes := some (if bytes = [1] then [()] else [])
  privateKey bytes := some (if bytes = [2] then some () else none)
  selfSigned := ([1], [2])
  withSingleCert certs _ := !certs.isEmpty

theorem sipServer_stops_at_once : (serverRun pemLibrary (.ok defaultTlsConfig) (shutdownSip
      (serverRun pemLibrary (.ok defaultTlsConfig) (runSipServer true noFiles).1 [])).1
    (List.replicate 13 (.thread true none) ++ [.workersStop])).listening .udp = false :=
  (sipServer_stops pemLibrary (.ok defaultTlsConfig) true noFiles []
    (List.replicate 13 (.thread true none)) [] (by decide) .udp).2

theorem sipServer_serves_iff_default : (serverRun pemLibrary (.ok defaultTlsConfig)
    (runSipServer true noFiles).1 (List.replicate 12 (.thread true none))).listening .udp = true := by
  have pem : PemFiles noFiles := ⟨by decide, fun _ _ _ found => by cases found⟩
  have new : NewPair pemLibrary noFiles :=
    { pair := ⟨[()], (), rfl, rfl, rfl⟩
      noKey := by simp [pemLibrary]
      noCert := fun certs _ isCerts => by
        cases isCerts
        rfl
      newKey := fun _ _ _ _ found => by cases found
      newCert := fun _ _ _ _ found => by cases found }
  have awaiting : (serverRun pemLibrary (.ok defaultTlsConfig) (runSipServer true noFiles).1
      (List.replicate 12 (.thread true none))).step = .awaiting := rfl
  have succeed : ∀ event ∈ List.replicate 12 (ServerEvent.thread true none), CallSucceeds event := by
    intro event member
    rw [(List.mem_replicate.mp member).2]
    rfl
  have served := (sipServer_serves_iff pem new defaultTlsConfig succeed
    (by rw [awaiting]; exact le_refl _)).2.1 ⟨rfl, rfl⟩
  exact served.2 awaiting .udp (by simp)

end SentryPeer.Proof
