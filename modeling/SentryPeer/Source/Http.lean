import SentryPeer.Lib.Inet
import SentryPeer.Source.Database
import SentryPeer.Source.JsonLogger

/-!
# The HTTP API

`route_handler` of `http_routes.c` on a GET, `regex_match`, `valid_ip_address_format` and the routes
over the addresses and the called numbers. A JSON body is the value that jansson prints.
-/

namespace SentryPeer
open Lib

inductive Body
  | text (text : CStr)
  | json (json : Json)

structure Response where
  status : Nat
  contentType : CStr
  body : Body

def contentTypeHtml : CStr := .lit "text/html"
def contentTypeJson : CStr := .lit "application/json"
def statusOkJson : CStr := .lit "\x7b\"status\": \"OK\"\x7d"
def notFoundErrorJson : CStr :=
  .lit "\x7b\"error\": \"The requested resource could not be found.\"\x7d"
def badDataJson : CStr := .lit "\x7b\"error\": \"The request data was invalid\"\x7d"
def notFoundBadActorJson : CStr := .lit "\x7b\"message\": \"No bad actor found\"\x7d"
def notFoundBadActorsJson : CStr := .lit "\x7b\"message\": \"No bad actors found\"\x7d"
def notFoundPhoneNumberJson : CStr := .lit "\x7b\"message\": \"No phone number found\"\x7d"
def notFoundPhoneNumbersJson : CStr := .lit "\x7b\"message\": \"No phone numbers found\"\x7d"

def homePageRoute : CStr := .lit "/"
def healthCheckRoute : CStr := .lit "/health-check"
def ipAddressesRoute : CStr := .lit "/ip-addresses"
def ipAddressesIpsetRoute : CStr := .lit "/ip-addresses/ipset"
def numbersRoute : CStr := .lit "/numbers"

-- The routes that answer with their own pattern.
def stubRoutes : List CStr := [.lit "/countries", .lit "/countries/:country",
  .lit "/countries/:country/:city", .lit "/user-agents", .lit "/user-agents/:user_agent",
  .lit "/sip-methods", .lit "/sip-methods/:sip_method"]

/-! ## Matching -/

-- PCRE2 finds the leftmost match of a literal and a group; what is copied runs from the start of
-- the group to the end of the subject.
def regexMatch (literal : List UInt8) (group : List UInt8 → Bool) (string : CStr) : Option CStr :=
  (string.bytes.tails.find? fun suffix =>
    literal.isPrefixOf suffix && group (suffix.drop literal.length)).map
      fun suffix => .ofMemory (suffix.drop literal.length)

-- `.+`: the dot does not match a newline.
def anyGroup (text : List UInt8) : Bool := text.head?.any fun b => b != 0x0A

-- `\+?[0-9]+$`: the end of the subject, or a newline before it.
def numberGroup (text : List UInt8) : Bool :=
  let digits := if text.head? = some 0x2B then text.tail else text
  let rest := digits.dropWhile fun b => 48 ≤ b && b ≤ 57
  rest.length < digits.length && (rest == [] || rest == [0x0A])

def matchIpAddress (url : CStr) : Option CStr :=
  regexMatch (CStr.lit "/ip-addresses/").bytes anyGroup url

def matchNumber (url : CStr) : Option CStr :=
  regexMatch (CStr.lit "/numbers/").bytes numberGroup url

def validIpAddressFormat (ipAddressToCheck : CStr) : Bool :=
  (inetPton4 ipAddressToCheck.bytes).isSome || inetPton6 ipAddressToCheck.bytes

/-! ## Dispatch -/

inductive Route
  | healthCheck
  | reply (response : Response)
  | ipAddresses
  | ipAddress (ipAddress : CStr)
  | calledNumbers
  | calledNumber (phoneNumber : CStr)

def routeHandler (url : CStr) : Route :=
  if url = healthCheckRoute then .healthCheck
  else if url = homePageRoute then .reply ⟨200, contentTypeJson, .text statusOkJson⟩
  else if url = ipAddressesRoute then .ipAddresses
  else
    match matchIpAddress url with
    | some ipAddress =>
        if validIpAddressFormat ipAddress then .ipAddress ipAddress
        else .reply ⟨400, contentTypeJson, .text badDataJson⟩
    | none =>
        if url = ipAddressesIpsetRoute then .reply ⟨200, contentTypeHtml, .text url⟩
        else if url = numbersRoute then .calledNumbers
        else
          match matchNumber url with
          | some phoneNumber => .calledNumber phoneNumber
          | none =>
              if url ∈ stubRoutes then .reply ⟨200, contentTypeHtml, .text url⟩
              else .reply ⟨404, contentTypeJson, .text notFoundErrorJson⟩

/-- What a call of `route_handler` gives libmicrohttpd; the first call of a request queues nothing. -/
inductive HandlerResult
  | no
  | yes
  | queued (route : Route)

-- `called` is whether `*ptr` is the address of `dummy`.
def routeHandlerCall (method url : CStr) (uploadDataSize : Nat) (called : Bool) :
    HandlerResult × Bool :=
  if method ≠ .lit "GET" then (.no, called)
  else if !called then (.yes, true)
  else if uploadDataSize ≠ 0 then (.no, called)
  else (.queued (routeHandler url), false)

/-- The two calls for a request, the upload data of which comes with the second one. -/
def routeHandlerCalls (method url : CStr) (uploadDataSize : Nat) : HandlerResult :=
  (routeHandlerCall method url uploadDataSize
    (routeHandlerCall method url 0 false).2).1

/-! ## The routes over the table -/

-- `json_dumps` of a null object is null, and `finalise_response` takes its length.
def foundResponse (key : String) (notFound : CStr) : Option CStr → Except Abort Response
  | none => .ok ⟨404, contentTypeJson, .text notFound⟩
  | some found =>
      match jsonPack [(key, found)] with
      | none => .error (.nullPointer .finaliseResponse)
      | some json => .ok ⟨200, contentTypeJson, .json json⟩

def ipAddressResponse (succeeds : SelectCall → Bool) (honey : List HoneyRow) (ipAddress : CStr) :
    Except Abort Response :=
  foundResponse "bad_actor_found" notFoundBadActorJson
    (dbSelectBadActorByIp succeeds ipAddress honey)

def calledNumberResponse (succeeds : SelectCall → Bool) (honey : List HoneyRow)
    (phoneNumber : CStr) : Except Abort Response :=
  foundResponse "phone_number_found" notFoundPhoneNumberJson
    (dbSelectPhoneNumber succeeds phoneNumber honey)

def seenEntryJson (key : String) (entry : SeenEntry) : Option Json :=
  jsonPack [(key, entry.key), ("seen_last", entry.seenLast), ("seen_count", entry.seenCount)]

-- `json_pack` reads an `int`.
def intText (n : Nat) : List UInt8 :=
  let low := n % 0x100000000
  if low < 0x80000000 then decimal low else 0x2D :: decimal (0x100000000 - low)

-- One entry that cannot be packed is enough for a 404.
def listingResponse (key total list : String) (notFound : CStr)
    (selected : Option (Nat × List SeenEntry)) : Response :=
  match selected with
  | none => ⟨404, contentTypeJson, .text notFound⟩
  | some (rowCount, entries) =>
      if rowCount = 0 then ⟨404, contentTypeJson, .text notFound⟩
      else
        match entries.mapM (seenEntryJson key) with
        | none => ⟨404, contentTypeJson, .text notFound⟩
        | some jsonArr => ⟨200, contentTypeJson, .json (.object
            [(total, .number (intText rowCount)), (list, .array jsonArr)])⟩

def ipAddressesResponse (succeeds : SelectCall → Bool) (honey : List HoneyRow) :
    Except Abort Response :=
  (dbSelectBadActors succeeds honey honey).map
    (listingResponse "ip_address" "ip_addresses_total" "ip_addresses" notFoundBadActorsJson)

def calledNumbersResponse (succeeds : SelectCall → Bool) (honey : List HoneyRow) :
    Except Abort Response :=
  (dbSelectCalledNumbers succeeds honey honey).map
    (listingResponse "called_number" "called_numbers_total" "called_numbers"
      notFoundPhoneNumbersJson)

/-- The answer to a GET; `others` are the routes that do not look at addresses. -/
def httpGet (succeeds : SelectCall → Bool) (others : Route → Except Abort Response)
    (honey : List HoneyRow) (url : CStr) : Except Abort Response :=
  match routeHandler url with
  | .reply response => .ok response
  | .ipAddresses => ipAddressesResponse succeeds honey
  | .ipAddress ipAddress => ipAddressResponse succeeds honey ipAddress
  | other => others other

/-- The routes over the called numbers; `healthCheck` looks at the headers of the request only. -/
def otherRoutes (succeeds : SelectCall → Bool) (healthCheck : Except Abort Response)
    (honey : List HoneyRow) : Route → Except Abort Response
  | .calledNumbers => calledNumbersResponse succeeds honey
  | .calledNumber phoneNumber => calledNumberResponse succeeds honey phoneNumber
  | _ => healthCheck

end SentryPeer
