import MediaTransport.Text.Numeral

/-!
# Network addresses

IP addresses of both versions with their texts, and endpoints: an address with a
port. An IPv6 address is written with its first longest run of at least two zero
groups left out; an address that embeds an IPv4 address under `::ffff:` shows it in
dotted form. Its zone follows behind a percent sign, unless it is the default zone.

Reading accepts every form of RFC 4291 and no more: octets without leading zeros, at
most four digits to a group, at most one `::`, which stands for at least one group,
and an IPv4 address in place of the last two groups. Only in an endpoint may an
address name its zone.
-/

namespace MediaTransport.Net

structure Ipv4 where
  (a b c d : UInt8)
  deriving DecidableEq

structure Ipv6 where
  groups : List UInt16
  length_groups : groups.length = 8
  /-- The zone in which the address holds; zero is the default zone. -/
  zone : UInt32 := 0
  deriving DecidableEq

inductive IpAddress
  | v4 (address : Ipv4)
  | v6 (address : Ipv6)
  deriving DecidableEq

/-- The address alone, without the zone in which it holds. -/
def IpAddress.unzoned : IpAddress → IpAddress
  | .v4 x => .v4 x
  | .v6 x => .v6 { x with zone := 0 }

theorem IpAddress.unzoned_unzoned (x : IpAddress) : x.unzoned.unzoned = x.unzoned := by
  cases x <;> rfl

/-- An IP address with a port. -/
structure Endpoint where
  address : IpAddress
  /-- The port; zero asks for any. -/
  port : UInt16
  deriving DecidableEq

/-! ### Writing -/

def Ipv4.text (x : Ipv4) : String :=
  s!"{x.a}.{x.b}.{x.c}.{x.d}"

namespace Ipv6

/-- The address of eight groups. -/
def ofGroups? (groups : List UInt16) : Option Ipv6 :=
  if h : groups.length = 8 then some { groups, length_groups := h } else none

/-- Where the first longest run of zero groups starts, and how long it is. The run
that ends in front of `groups` has `current` groups, `index` is the place of the
first of them, and `best` is the longest run so far. -/
def longestZeros (index current : Nat) (best : Nat × Nat) : List UInt16 → Nat × Nat
  | [] => best
  | g :: groups =>
      if g = 0 then
        let run := (index - current, current + 1)
        longestZeros (index + 1) (current + 1) (if best.2 < run.2 then run else best) groups
      else longestZeros (index + 1) 0 best groups

/-- Groups in hexadecimal with colons between them. -/
def groupsText (groups : List UInt16) : String :=
  String.intercalate ":" (groups.map fun g => Text.hex g.toNat)

/-- The IPv4 address that the address embeds, if it does. -/
def mapped? (x : Ipv6) : Option Ipv4 :=
  match x.groups with
  | [0, 0, 0, 0, 0, 0xFFFF, high, low] =>
      some ⟨UInt8.ofNat (high.toNat / 256), UInt8.ofNat high.toNat,
        UInt8.ofNat (low.toNat / 256), UInt8.ofNat low.toNat⟩
  | _ => none

/-- The shortest form, without the zone. -/
def textWithoutZone (x : Ipv6) : String :=
  match x.mapped? with
  | some y => "::ffff:" ++ y.text
  | none =>
      let (start, length) := longestZeros 0 0 (0, 0) x.groups
      if 1 < length then
        groupsText (x.groups.take start) ++ "::" ++ groupsText (x.groups.drop (start + length))
      else groupsText x.groups

/-- The shortest form. -/
def text (x : Ipv6) : String :=
  if x.zone = 0 then x.textWithoutZone else s!"{x.textWithoutZone}%{x.zone}"

end Ipv6

def IpAddress.text : IpAddress → String
  | .v4 x => x.text
  | .v6 x => x.text

/-- The text of an endpoint; an IPv6 address stands in brackets. -/
def Endpoint.text (e : Endpoint) : String :=
  match e.address with
  | .v4 x => s!"{x.text}:{e.port}"
  | .v6 x => s!"[{x.text}]:{e.port}"

/-! ### Reading -/

/-- The rest of a text that starts with `c`. -/
def afterChar? (c : Char) : List Char → Option (List Char)
  | d :: rest => if c = d then some rest else none
  | [] => none

/-- The number at the front of a text, in one to `width` digits of which `value?` gives
the values, and the rest. -/
def readNumber? (base width : Nat) (value? : Char → Option Nat) (text : List Char) :
    Option (Nat × List Char) :=
  let digits := text.takeWhile fun c => (value? c).isSome
  if digits.isEmpty ∨ width < digits.length then none
  else (Text.readDigits base value? digits).map (·, text.drop digits.length)

/-- An octet in decimal without leading zeros. -/
def readOctet? (text : List Char) : Option (UInt8 × List Char) :=
  match readNumber? 10 3 Text.decimalDigit? text with
  | none => none
  | some (n, rest) =>
      if text.head? = some '0' ∧ rest.length + 1 < text.length then none
      else if n < 256 then some (UInt8.ofNat n, rest)
      else none

/-- A group in hexadecimal. -/
def readGroup? (text : List Char) : Option (UInt16 × List Char) :=
  (readNumber? 16 4 Text.hexDigit? text).map fun (n, rest) => (UInt16.ofNat n, rest)

/-- The IPv4 address at the front of a text. -/
def readIpv4? (text : List Char) : Option (Ipv4 × List Char) := do
  let (a, text) ← readOctet? text
  let (b, text) ← readOctet? (← afterChar? '.' text)
  let (c, text) ← readOctet? (← afterChar? '.' text)
  let (d, text) ← readOctet? (← afterChar? '.' text)
  return (⟨a, b, c, d⟩, text)

/-- Up to so many groups at the front of a text, each but the very first after a
colon; whether they end in an IPv4 address, which ends them; and the rest. -/
def readGroups : Nat → Bool → List Char → List UInt16 × Bool × List Char
  | 0, _, text => ([], false, text)
  | n + 1, first, text =>
      let start? := if first then some text else afterChar? ':' text
      let dotted? := if n = 0 then none else start?.bind readIpv4?
      match dotted? with
      | some (x, rest) =>
          ([UInt16.ofNat (x.a.toNat * 256 + x.b.toNat),
            UInt16.ofNat (x.c.toNat * 256 + x.d.toNat)], true, rest)
      | none =>
          match start?.bind readGroup? with
          | none => ([], false, text)
          | some (g, rest) =>
              let (groups, dotted, rest) := readGroups n false rest
              (g :: groups, dotted, rest)

/-- The IPv6 address at the front of a text. -/
def readIpv6? (text : List Char) : Option (Ipv6 × List Char) := do
  let (front, dotted, rest) := readGroups 8 true text
  if front.length = 8 then
    return (← Ipv6.ofGroups? front, rest)
  else if dotted then none
  else
    let rest ← afterChar? ':' (← afterChar? ':' rest)
    let (back, _, rest) := readGroups (7 - front.length) true rest
    let zeros := List.replicate (8 - front.length - back.length) 0
    return (← Ipv6.ofGroups? (front ++ zeros ++ back), rest)

/-- A value that takes up the whole text. -/
def whole? {α : Type} : Option (α × List Char) → Option α
  | some (a, []) => some a
  | _ => none

def IpAddress.ofText? (text : String) : Option IpAddress :=
  match readIpv4? text.toList with
  | some (x, rest) => whole? (some (.v4 x, rest))
  | none => whole? ((readIpv6? text.toList).map fun (x, rest) => (.v6 x, rest))

/-- The port at the end of a text, after a colon. -/
def readPort? (text : List Char) : Option UInt16 := do
  let n ← Text.decimal? (← afterChar? ':' text)
  if n < 65536 then some (UInt16.ofNat n) else none

/-- The zone at the front of a text, in decimal behind a percent sign, and the rest;
the default zone when there is no such sign. -/
def readZone? : List Char → Option (UInt32 × List Char)
  | '%' :: text => do
      let (n, rest) ← readNumber? 10 text.length Text.decimalDigit? text
      if n < 4294967296 then some (UInt32.ofNat n, rest) else none
  | text => some (0, text)

def Endpoint.ofText? (text : String) : Option Endpoint :=
  match readIpv4? text.toList with
  | some (x, rest) => (readPort? rest).map (⟨.v4 x, ·⟩)
  | none => do
      let (x, rest) ← readIpv6? (← afterChar? '[' text.toList)
      let (zone, rest) ← readZone? rest
      let port ← readPort? (← afterChar? ']' rest)
      return ⟨.v6 { x with zone }, port⟩

end MediaTransport.Net
