import SentryPeer.Lib.Exec
import SentryPeer.Lib.Text
import SentryPeer.Lib.Calendar

/-!
# Data types shared by the C and the Rust sources

`bad_actor.h`, `conf.h` and `sip_message_event.h`. A `char *` that may be null is an `Option CStr`.
-/

namespace SentryPeer
open Lib

inductive Exit
  | success
  | failure
deriving DecidableEq, Repr

/-- The functions of the source that hold an `assert`, an `unwrap` or an `expect`. -/
inductive Function
  | utilDuplicateString
  | requestOauth2BearerToken
  | peerToPeerDhtSave
  | sipDaemonInit
  | logSipPacket
  | genSipReply
  | finaliseResponse
  | badActorsDestroy
  | dbSelectBadActors
  | dbSelectCalledNumbers
  | ipAddressesRoute
  | calledNumbersRoute
  | badActorToJsonRs
  | jsonToBadActorRs
  | jsonLogBadActorRs
  | jsonHttpPostBadActorRs
deriving DecidableEq, Repr

inductive Abort
  | assertion (site : Function)
  | panic (site : Function)
  | outOfBounds (site : Function)
  | useAfterFree (site : Function)
  | nullPointer (site : Function)
deriving DecidableEq, Repr

/-- `HAVE_RUST` and `HAVE_OPENDHT_C`. -/
structure Build where
  rust : Bool
  openDht : Bool
deriving DecidableEq

structure BadActor where
  eventTimestamp : Option CStr
  eventUuid : Option CStr
  collectedMethod : Option CStr
  createdByNodeId : Option CStr
  sipMessage : Option CStr
  sourceIp : Option CStr
  destinationIp : Option CStr
  calledNumber : Option CStr
  method : Option CStr
  transportType : Option CStr
  userAgent : Option CStr
  seenLast : Option CStr
  seenCount : Option CStr
deriving DecidableEq

structure Config where
  apiMode : Bool
  debugMode : Bool
  newMode : Bool
  jsonLogMode : Bool
  p2pDhtMode : Bool
  sipMode : Bool
  sipResponsiveMode : Bool
  syslogMode : Bool
  verboseMode : Bool
  webhookMode : Bool
  webhookUrl : CStr
  oauth2Mode : Bool
  oauth2ClientId : CStr
  oauth2ClientSecret : CStr
  oauth2AccessToken : Option CStr
  dbFile : CStr
  jsonLogFile : CStr
  nodeId : CStr
  p2pBootstrapNode : CStr
  tlsCertFile : Option CStr
  tlsKeyFile : Option CStr
  tlsListenAddress : Option CStr
  configFile : Option CStr
deriving DecidableEq

structure SipMessageEvent where
  packet : Option CStr
  packetLen : Nat
  transportType : Option CStr
  clientIpAddrStr : Option CStr
  destIpAddrStr : Option CStr
deriving DecidableEq

def badActorNotFound : CStr := .lit "NOT_FOUND"

/-! ## `utils.c` and the constructor of `bad_actor.c` -/

def utilDuplicateString : Option CStr → Except Abort CStr
  | none => .error (.assertion .utilDuplicateString)
  | some string => .ok string

@[simp] theorem utilDuplicateString_some (s : CStr) : utilDuplicateString (some s) = .ok s := rfl

structure Clock where
  year : Nat
  month : Nat
  day : Nat
  hour : Nat
  minute : Nat
  second : Nat
  nanosecond : Nat
deriving DecidableEq

-- The conversion `%0<width>d`.
def paddedDecimal (width n : Nat) : List UInt8 :=
  List.replicate (width - (decimal n).length) 48 ++ decimal n

def timestampLen : Nat := 40

def eventTimestamp (clock : Clock) : CStr := .ofMemory <| List.take (timestampLen - 1) <|
  decimal clock.year ++ 0x2D :: (paddedDecimal 2 clock.month ++ 0x2D :: (paddedDecimal 2 clock.day ++
    0x20 :: (paddedDecimal 2 clock.hour ++ 0x3A :: (paddedDecimal 2 clock.minute ++
      0x3A :: (paddedDecimal 2 clock.second ++ 0x2E :: paddedDecimal 6 clock.nanosecond)))))

structure Timespec where
  tvSec : Int
  tvNsec : Nat
  inRange : tvNsec < 1000000000
deriving DecidableEq

-- 1970-01-01
def epochDay : Int := 719528

-- `localtime_r` where the local time is this many seconds ahead of UTC. The clock of a year before 0 is not modelled.
def localtimeR (utcOffset : Int) (timestamp : Timespec) : Clock :=
  let seconds := timestamp.tvSec + utcOffset
  let day := seconds / 86400 + epochDay
  let inDay := (seconds % 86400).toNat
  { year := (yearOf day).toNat
    month := monthOf day
    day := dayOfMonth day
    hour := inDay / 3600
    minute := inDay / 60 % 60
    second := inDay % 60
    nanosecond := timestamp.tvNsec }

/-- What `event_timestamp` and `util_uuid_generate_string` give to one constructor call. -/
structure Fresh where
  timestamp : CStr
  uuid : CStr
deriving DecidableEq

def badActorNew (fresh : Fresh) (sipMessage sourceIp destinationIp calledNumber method
    transportType userAgent collectedMethod createdByNodeId : Option CStr) :
    Except Abort BadActor := do
  let nodeId ← utilDuplicateString createdByNodeId
  return {
    eventTimestamp := some fresh.timestamp
    eventUuid := some fresh.uuid
    sipMessage, sourceIp, destinationIp, calledNumber, method, transportType, userAgent
    collectedMethod
    createdByNodeId := some nodeId
    seenLast := none
    seenCount := none }

end SentryPeer
