import SentryPeer.Lib.Pattern
import SentryPeer.Source.Http

/-!
# `regex_match`

`regex_match.c` with the two patterns of `http_routes.h`, over PCRE2's leftmost match and the output
vector it fills. Both patterns are a text and a group after it.
-/

namespace SentryPeer.Pcre2
open Lib

structure Regex where
  text : CStr
  group : Pattern UInt8

-- `/ip-addresses/(.+)`: the dot does not match a newline.
def ipAddressRoute : Regex := ⟨.lit "/ip-addresses/", .many (· != 0x0A)⟩

-- `$`
def endOfSubject (rest : List UInt8) : Bool := rest == [] || rest == [0x0A]

-- `/numbers/(\+?[0-9]+$)`
def numberRoute : Regex where
  text := .lit "/numbers/"
  group := .seq (.optional (· == 0x2B)) (.seq (.many isDigit) (.check endOfSubject))

/-- The offsets of the match and of its first group. -/
structure Ovector where
  matchStart : Nat
  matchEnd : Nat
  groupStart : Nat
  groupEnd : Nat

def pcre2Match (regex : Regex) (subject : List UInt8) : Option Ovector :=
  (Pattern.search (.literal regex.text.bytes) regex.group subject).map fun found => {
    matchStart := subject.length - found.1.length - regex.text.length
    matchEnd := subject.length - found.2.length
    groupStart := subject.length - found.1.length
    groupEnd := subject.length - found.2.length }

-- What is duplicated runs from the start of the group to the end of the subject.
def regexMatch (string : CStr) (regex : Regex) : Option CStr :=
  match pcre2Match regex string.bytes with
  | none => none
  | some ovector =>
      if ovector.matchEnd < ovector.matchStart then none
      else some (.ofMemory (string.bytes.drop ovector.groupStart))

/-- The text of the first group. -/
def captured (string : CStr) (regex : Regex) : Option (List UInt8) :=
  (pcre2Match regex string.bytes).map fun ovector =>
    (string.bytes.take ovector.groupEnd).drop ovector.groupStart

end SentryPeer.Pcre2
