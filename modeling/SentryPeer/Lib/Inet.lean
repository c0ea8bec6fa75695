import SentryPeer.Lib.JsonText

/-!
# Internet addresses

The texts of addresses as `inet_ntop` and Rust's `Display` write them, and `inet_pton`. The first
byte of such a text that is not a hexadecimal digit tells the kinds of text apart.
-/

namespace SentryPeer.Lib

structure Ipv4 where
  a : UInt8
  b : UInt8
  c : UInt8
  d : UInt8
deriving DecidableEq

structure Ipv6 where
  segments : List UInt16
  eight : segments.length = 8
deriving DecidableEq

inductive IpAddr
  | v4 (ip : Ipv4)
  | v6 (ip : Ipv6)
deriving DecidableEq

inductive SocketAddr
  | v4 (ip : Ipv4) (port : UInt16)
  | v6 (ip : Ipv6) (port : UInt16) (scopeId : UInt32)
deriving DecidableEq

def SocketAddr.ip : SocketAddr → IpAddr
  | .v4 ip _ => .v4 ip
  | .v6 ip _ _ => .v6 ip

/-! ## Printing -/

def Ipv4.bytes (ip : Ipv4) : List UInt8 :=
  [0x2E].intercalate
    [decimal ip.a.toNat, decimal ip.b.toNat, decimal ip.c.toNat, decimal ip.d.toNat]

-- Lower case and without leading zeros.
def hexText (n : UInt16) : List UInt8 :=
  ([n.toNat / 4096, n.toNat / 256 % 16, n.toNat / 16 % 16].dropWhile (· == 0) ++
    [n.toNat % 16]).map (hexDigit false)

structure Span where
  start : Nat
  len : Nat
deriving DecidableEq

def longestZeroRun (segments : List UInt16) : Span :=
  (segments.zipIdx.foldl (fun (longest, current) (segment, i) =>
    if segment = 0 then
      let current : Span := if current.len = 0 then ⟨i, 1⟩ else ⟨current.start, current.len + 1⟩
      (if longest.len < current.len then current else longest, current)
    else (longest, ⟨0, 0⟩)) ((⟨0, 0⟩ : Span), (⟨0, 0⟩ : Span))).1

def joinSegments (segments : List UInt16) : List UInt8 := [0x3A].intercalate (segments.map hexText)

def mappedIpv4 : List UInt16 → Option Ipv4
  | [0, 0, 0, 0, 0, 0xFFFF, ab, cd] =>
      some ⟨(ab >>> 8).toUInt8, ab.toUInt8, (cd >>> 8).toUInt8, cd.toUInt8⟩
  | _ => none

def Ipv6.bytes (ip : Ipv6) : List UInt8 :=
  match mappedIpv4 ip.segments with
  | some v4 => ascii "::ffff:".toList ++ v4.bytes
  | none =>
      let zeroes := longestZeroRun ip.segments
      if 1 < zeroes.len then
        joinSegments (ip.segments.take zeroes.start) ++ ascii "::".toList ++
          joinSegments (ip.segments.drop (zeroes.start + zeroes.len))
      else joinSegments ip.segments

def IpAddr.bytes : IpAddr → List UInt8
  | .v4 ip => ip.bytes
  | .v6 ip => ip.bytes

def SocketAddr.bytes : SocketAddr → List UInt8
  | .v4 ip port => ip.bytes ++ 0x3A :: decimal port.toNat
  | .v6 ip port scopeId =>
      0x5B :: (ip.bytes ++ (if scopeId = 0 then [] else 0x25 :: decimal scopeId.toNat) ++
        0x5D :: 0x3A :: decimal port.toNat)

example : (Ipv6.mk [0x2001, 0xDB8, 0, 0, 1, 0, 0, 1] rfl).bytes =
    ascii "2001:db8::1:0:0:1".toList := by decide
example : (SocketAddr.v4 ⟨192, 0, 2, 1⟩ 5060).bytes = ascii "192.0.2.1:5060".toList := by decide

/-! ## `inet_pton` -/

-- Decimal digits without a leading zero, at most 255.
def readOctet (digits : List UInt8) : Option UInt8 :=
  if digits ≠ [] ∧ (digits.all fun b => 48 ≤ b && b ≤ 57) ∧ digits.length ≤ 3 ∧
      (digits.head? = some 48 → digits.length = 1) then
    let value := digits.foldl (fun n b => 10 * n + (b.toNat - 48)) 0
    if value < 256 then some (UInt8.ofNat value) else none
  else none

def inetPton4 (text : List UInt8) : Option Ipv4 :=
  match text.splitOn 0x2E with
  | [a, b, c, d] => do return ⟨← readOctet a, ← readOctet b, ← readOctet c, ← readOctet d⟩
  | _ => none

-- The main loop of `inet_pton` for IPv6: the bytes written, whether `::` has been seen and the
-- digits of the current group. `group` is where the group starts, for a trailing IPv4 address.
def scanIpv6 (written : Nat) (colons : Bool) (digits : Nat) (group : List UInt8) :
    List UInt8 → Option (Nat × Bool × Nat)
  | [] => some (written, colons, digits)
  | b :: rest =>
      if isHexDigit b then
        if digits = 4 then none else scanIpv6 written colons (digits + 1) group rest
      else if b = 0x3A then
        if digits = 0 then if colons then none else scanIpv6 written true 0 rest rest
        else if rest = [] ∨ 16 < written + 2 then none
        else scanIpv6 (written + 2) colons 0 rest rest
      else if b = 0x2E ∧ written + 4 ≤ 16 ∧ (inetPton4 group).isSome then
        some (written + 4, colons, 0)
      else none

def inetPton6 (text : List UInt8) : Bool :=
  -- a leading colon is the first half of `::`
  let start := if text.head? = some 0x3A then text.tail else text
  if text = [] ∨ (text.head? = some 0x3A ∧ start.head? ≠ some 0x3A) then false
  else
    match scanIpv6 0 false 0 start start with
    | none => false
    | some (written, colons, digits) =>
        let total := if 0 < digits then written + 2 else written
        if colons then total < 16 else total = 16

example : inetPton6 (ascii "2001:db8::1:0:0:1".toList) = true := by decide
example : inetPton6 (ascii "::ffff:192.0.2.1".toList) = true := by decide
example : inetPton6 (ascii "[2001:db8::1]:5061".toList) = false := by decide

/-! ## Texts that are told apart -/

def separator (text : List UInt8) : Option UInt8 := text.find? fun b => !isHexDigit b

theorem separator_append (a b : List UInt8) : separator (a ++ b) = (separator a).or (separator b) :=
  List.find?_append

theorem isHexDigit_hexDigit {digit : Nat} (small : digit < 16) :
    isHexDigit (hexDigit false digit) = true := by
  have table : ∀ digit < 16, isHexDigit (hexDigit false digit) = true := by decide
  exact table digit small

theorem isHexDigit_hexText {n : UInt16} {b : UInt8} (member : b ∈ hexText n) :
    isHexDigit b = true := by
  have bound := n.toNat_lt
  obtain ⟨digit, isDigit, rfl⟩ := List.mem_map.mp member
  apply isHexDigit_hexDigit
  rcases List.mem_append.mp isDigit with upper | last
  · have nibble := (List.dropWhile_sublist _).subset upper
    simp only [List.mem_cons, List.not_mem_nil, or_false] at nibble
    omega
  · rw [List.mem_singleton.mp last]
    omega

theorem separator_eq_none {text : List UInt8} (digits : ∀ b ∈ text, isHexDigit b = true) :
    separator text = none := by
  apply List.find?_eq_none.mpr
  intro b member
  simp [digits b member]

theorem separator_ipv4 (ip : Ipv4) (rest : List UInt8) : separator (ip.bytes ++ rest) = some 0x2E := by
  rw [Ipv4.bytes, List.intercalate_cons_cons, List.append_assoc, List.append_assoc, separator_append,
    separator_eq_none fun b => isHexDigit_decimal]
  rfl

theorem separator_joinSegments (segments : List UInt16) (rest : List UInt8) :
    separator (joinSegments segments ++ 0x3A :: rest) = some 0x3A := by
  cases segments with
  | nil => rfl
  | cons first more =>
      cases more with
      | nil =>
          rw [joinSegments, List.map_cons, List.map_nil, List.intercalate_singleton, separator_append,
            separator_eq_none fun b => isHexDigit_hexText]
          rfl
      | cons second more =>
          rw [joinSegments, List.map_cons, List.map_cons, List.intercalate_cons_cons,
            List.append_assoc, List.append_assoc, separator_append,
            separator_eq_none fun b => isHexDigit_hexText]
          rfl

theorem separator_ipv6 (ip : Ipv6) : separator ip.bytes = some 0x3A := by
  unfold Ipv6.bytes
  cases mappedIpv4 ip.segments with
  | some v4 => rfl
  | none =>
      dsimp only
      split
      · rw [List.append_assoc]
        exact separator_joinSegments _ _
      · obtain ⟨segments, eight⟩ := ip
        match segments, eight with
        | first :: second :: more, _ =>
            rw [joinSegments, List.map_cons, List.map_cons, List.intercalate_cons_cons,
              List.append_assoc, separator_append, separator_eq_none fun b => isHexDigit_hexText]
            rfl

theorem readOctet_decimal (octet : UInt8) : readOctet (decimal octet.toNat) = some octet := by
  have table : ∀ n < 256, readOctet (decimal n) = some (UInt8.ofNat n) := by decide +kernel
  rw [table octet.toNat octet.toNat_lt, UInt8.ofNat_toNat]

theorem inetPton4_bytes (ip : Ipv4) : inetPton4 ip.bytes = some ip := by
  have parts : ip.bytes.splitOn 0x2E =
      [decimal ip.a.toNat, decimal ip.b.toNat, decimal ip.c.toNat, decimal ip.d.toNat] := by
    apply List.splitOn_intercalate
    · intro part member dot
      simp only [List.mem_cons, List.not_mem_nil, or_false] at member
      rcases member with rfl | rfl | rfl | rfl
      all_goals exact absurd (isHexDigit_decimal dot) (by decide)
    · exact List.cons_ne_nil _ _
  simp only [inetPton4, parts, readOctet_decimal]
  rfl

theorem ipv4_bytes_injective : Function.Injective Ipv4.bytes := by
  intro a b equal
  have parsed := congrArg inetPton4 equal
  rw [inetPton4_bytes, inetPton4_bytes] at parsed
  exact Option.some.inj parsed

theorem mem_ipv4_bytes {ip : Ipv4} {b : UInt8} (member : b ∈ ip.bytes) :
    b = 0x2E ∨ (48 ≤ b ∧ b ≤ 57) := by
  simp only [Ipv4.bytes, List.intercalate_cons_cons, List.intercalate_singleton, List.mem_append,
    List.mem_singleton] at member
  rcases member with (digit | dot) | (digit | dot) | (digit | dot) | digit
  · exact .inr (mem_decimal digit)
  · exact .inl dot
  · exact .inr (mem_decimal digit)
  · exact .inl dot
  · exact .inr (mem_decimal digit)
  · exact .inl dot
  · exact .inr (mem_decimal digit)

theorem eq_v4_of_bytes {v4 : Ipv4} {ip : IpAddr} (equal : v4.bytes = ip.bytes) : ip = .v4 v4 := by
  cases ip with
  | v4 other => rw [ipv4_bytes_injective equal]
  | v6 other =>
      have separators := congrArg separator equal
      have dot := separator_ipv4 v4 []
      rw [List.append_nil] at dot
      rw [dot, IpAddr.bytes, separator_ipv6] at separators
      cases separators

theorem socketAddr_bytes_ne (addr : SocketAddr) (ip : IpAddr) : addr.bytes ≠ ip.bytes := by
  intro equal
  have separators := congrArg separator equal
  have dot (v4 : Ipv4) : separator v4.bytes = some 0x2E := by
    simpa using separator_ipv4 v4 []
  cases addr with
  | v4 v4 port =>
      rw [SocketAddr.bytes, separator_ipv4] at separators
      cases ip with
      | v4 other =>
          have colon : 0x3A ∈ other.bytes := by
            change _ = other.bytes at equal
            rw [← equal]
            simp [SocketAddr.bytes]
          exact absurd (mem_ipv4_bytes colon) (by decide)
      | v6 other =>
          rw [IpAddr.bytes, separator_ipv6] at separators
          cases separators
  | v6 v6 port scopeId =>
      change some 0x5B = _ at separators
      cases ip with
      | v4 other =>
          rw [IpAddr.bytes, dot] at separators
          cases separators
      | v6 other =>
          rw [IpAddr.bytes, separator_ipv6] at separators
          cases separators

/-! ## Texts as C strings -/

theorem joinSegments_plain (segments : List UInt16) : Plain (joinSegments segments) := by
  induction segments with
  | nil => exact fun b member => absurd member List.not_mem_nil
  | cons first more ih =>
      have own : Plain (hexText first) := plain_of_hexDigits fun _ => isHexDigit_hexText
      cases more with
      | nil =>
          rw [joinSegments, List.map_cons, List.map_nil, List.intercalate_singleton]
          exact own
      | cons second more =>
          rw [joinSegments, List.map_cons, List.map_cons, List.intercalate_cons_cons]
          exact (own.append (by decide)).append ih

theorem ipv4_plain (ip : Ipv4) : Plain ip.bytes := by
  simp only [Ipv4.bytes, List.intercalate_cons_cons, List.intercalate_singleton]
  have part (n : Nat) : Plain (decimal n ++ [0x2E]) := (decimal_plain n).append (by decide)
  exact (part _).append ((part _).append ((part _).append (decimal_plain _)))

theorem ipv6_plain (ip : Ipv6) : Plain ip.bytes := by
  unfold Ipv6.bytes
  cases mappedIpv4 ip.segments with
  | some v4 =>
      have literal : Plain (ascii "::ffff:".toList) := by decide
      exact literal.append (ipv4_plain v4)
  | none =>
      have literal : Plain (ascii "::".toList) := by decide
      dsimp only
      split
      · exact ((joinSegments_plain _).append literal).append (joinSegments_plain _)
      · exact joinSegments_plain _

theorem ipAddr_plain (ip : IpAddr) : Plain ip.bytes := by
  cases ip with
  | v4 ip => exact ipv4_plain ip
  | v6 ip => exact ipv6_plain ip

theorem socketAddr_plain (addr : SocketAddr) : Plain addr.bytes := by
  cases addr with
  | v4 ip port => exact (ipv4_plain ip).append (.cons (by decide) (decimal_plain _))
  | v6 ip port scopeId =>
      have closing : Plain (0x5D :: 0x3A :: decimal port.toNat) :=
        .cons (by decide) (.cons (by decide) (decimal_plain _))
      have scope : Plain (if scopeId = 0 then [] else 0x25 :: decimal scopeId.toNat) := by
        split
        · decide
        · exact .cons (by decide) (decimal_plain _)
      exact .cons (by decide) (((ipv6_plain ip).append scope).append closing)

def IpAddr.text (ip : IpAddr) : CStr := ⟨ip.bytes, (ipAddr_plain ip).noNul⟩

def SocketAddr.text (addr : SocketAddr) : CStr := ⟨addr.bytes, (socketAddr_plain addr).noNul⟩

end SentryPeer.Lib
