import SentryPeer.Lib.Memory
import SentryPeer.Source.Conf

/-!
# The buffers of the configuration

`util_copy_string` and the functions of `conf.c` that call it, on the six buffers that
`sentrypeer_config_new` allocates. `strncpy` leaves a string that is as long as the limit without a
terminator; the byte after the limit is the one that ends it.
-/

namespace SentryPeer.ConfBuffers
open Lib

structure Buffers where
  dbFile : Memory
  jsonLogFile : Memory
  p2pBootstrapNode : Memory
  webhookUrl : Memory
  oauth2ClientId : Memory
  oauth2ClientSecret : Memory
deriving DecidableEq

-- The second component is whether the result is not null. The last assertion scans the copy.
def utilCopyString (dest : Memory) (src : CStr) (destLen : Nat) : Except Fault (Memory × Bool) := do
  if src.length > destLen then return (dest, false)
  let dest ← dest.strncpy src destLen
  let _ ← dest.scan
  return (dest, true)

/-- A copy whose result is not looked at. -/
def copied (dest : Memory) (src : CStr) (destLen : Nat) : Except Fault Memory := do
  return (← utilCopyString dest src destLen).1

def newString (destLen : Nat) (default : CStr) : Except Fault Memory :=
  copied (.calloc (destLen + 1)) default destLen

def sentrypeerConfigNew : Except Fault Buffers := do
  return {
    dbFile := ← newString sentrypeerPathMax (.lit "sentrypeer.db")
    jsonLogFile := ← newString sentrypeerPathMax (.lit "sentrypeer_json.log")
    p2pBootstrapNode := ← newString dnsMaxLength (.lit "bootstrap.sentrypeer.org")
    webhookUrl := ← newString dnsMaxLength (.lit "http://localhost:4000/api/events")
    oauth2ClientId := ← newString dnsMaxLength (.lit "YOUR_CLIENT_ID")
    oauth2ClientSecret := ← newString dnsMaxLength (.lit "YOUR_CLIENT_SECRET") }

/-! ## The environment and the options -/

def envString (dest : Memory) (value : Option CStr) (destLen : Nat) : Except Fault Memory :=
  match value with
  | some src => copied dest src destLen
  | none => return dest

def processEnvVars (env : Env) (buffers : Buffers) : Except Fault Buffers := do
  return {
    dbFile := ← envString buffers.dbFile (env .sentrypeerDbFile) sentrypeerPathMax
    jsonLogFile := ← envString buffers.jsonLogFile (env .sentrypeerJsonLogFile) sentrypeerPathMax
    p2pBootstrapNode :=
      ← envString buffers.p2pBootstrapNode (env .sentrypeerBootstrapNode) dnsMaxLength
    oauth2ClientId := ← envString buffers.oauth2ClientId (env .sentrypeerOauth2ClientId) dnsMaxLength
    oauth2ClientSecret :=
      ← envString buffers.oauth2ClientSecret (env .sentrypeerOauth2ClientSecret) dnsMaxLength
    webhookUrl := ← envString buffers.webhookUrl (env .sentrypeerWebhookUrl) dnsMaxLength }

/-- What `getcwd` does with the start of the buffer, of which it is given `SENTRYPEER_PATH_MAX` bytes. -/
structure Getcwd where
  written : List UInt8
  succeeded : Bool
  bounded : written.length ≤ sentrypeerPathMax

-- `SENTRYPEER_PATH_MAX - strlen(..)` of the type `size_t`.
def pathLeft (length : Nat) : Nat :=
  (BitVec.ofNat 64 sentrypeerPathMax - BitVec.ofNat 64 length).toNat

/-- `set_db_file_location` and `set_json_log_file_location`. -/
def setLocation (getcwd : Getcwd) (envValue : Option CStr) (fileName : CStr) (dest : Memory) :
    Option CStr → Except Fault (Memory × Exit)
  | none =>
      match envValue with
      | some value => do return (← copied dest value sentrypeerPathMax, .success)
      | none => do
          let dest ← dest.storeAll 0 getcwd.written
          if !getcwd.succeeded then return (dest, .failure)
          let dest ← dest.strncat (.lit "/") (pathLeft (← dest.scan))
          let dest ← dest.strncat fileName (pathLeft (← dest.scan))
          return (dest, .success)
  | some location =>
      if location.bytes.head? = some 0x2F then do
        return (← copied dest location sentrypeerPathMax, .success)
      else return (dest, .failure)

def setDbFileLocation (getcwd : Getcwd) (env : Env) (buffers : Buffers)
    (cliDbFileLocation : Option CStr) : Except Fault (Buffers × Exit) := do
  let (dbFile, exit) ← setLocation getcwd (env .sentrypeerDbFile) (.lit "sentrypeer.db")
    buffers.dbFile cliDbFileLocation
  return ({ buffers with dbFile }, exit)

def setJsonLogFileLocation (getcwd : Getcwd) (env : Env) (buffers : Buffers)
    (cliJsonLogFileLocation : Option CStr) : Except Fault (Buffers × Exit) := do
  let (jsonLogFile, exit) ← setLocation getcwd (env .sentrypeerJsonLogFile)
    (.lit "sentrypeer_json.log") buffers.jsonLogFile cliJsonLogFileLocation
  return ({ buffers with jsonLogFile }, exit)

/-! ## Sequences of operations -/

/-- An operation on the configuration. An option is a round of the `getopt` loop. -/
inductive Operation
  | processEnvVars (env : Env)
  | option (getcwd : Getcwd) (env : Env) (cliOption : CliOption)
  | setDbFileLocation (getcwd : Getcwd) (env : Env) (location : Option CStr)
  | setJsonLogFileLocation (getcwd : Getcwd) (env : Env) (location : Option CStr)

-- The options without an argument have no buffer. A location that is refused ends the process.
def applyOption (getcwd : Getcwd) (env : Env) (buffers : Buffers) :
    CliOption → Except Fault Buffers
  | .bootstrap optarg => do
      return { buffers with
        p2pBootstrapNode := ← copied buffers.p2pBootstrapNode optarg dnsMaxLength }
  | .dbFile optarg => do return (← setDbFileLocation getcwd env buffers (some optarg)).1
  | .jsonLogFile optarg => do return (← setJsonLogFileLocation getcwd env buffers (some optarg)).1
  | .clientSecret optarg => do
      return { buffers with
        oauth2ClientSecret := ← copied buffers.oauth2ClientSecret optarg dnsMaxLength }
  | .clientId optarg => do
      return { buffers with
        oauth2ClientId := ← copied buffers.oauth2ClientId optarg dnsMaxLength }
  | .webhookUrl optarg => do
      return { buffers with webhookUrl := ← copied buffers.webhookUrl optarg dnsMaxLength }
  | _ => return buffers

def operate (buffers : Buffers) : Operation → Except Fault Buffers
  | .processEnvVars env => processEnvVars env buffers
  | .option getcwd env cliOption => applyOption getcwd env buffers cliOption
  | .setDbFileLocation getcwd env location => do
      return (← setDbFileLocation getcwd env buffers location).1
  | .setJsonLogFileLocation getcwd env location => do
      return (← setJsonLogFileLocation getcwd env buffers location).1

def operateAll (operations : List Operation) : Except Fault Buffers := do
  operations.foldlM operate (← sentrypeerConfigNew)

end SentryPeer.ConfBuffers
