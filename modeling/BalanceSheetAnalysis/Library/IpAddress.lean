import Mathlib.Data.Nat.Bitwise

/-! Python's `ipaddress` module: `ip_address`, `ip_network(strict=False)` and
membership of an address in a network.  `none` stands for `ValueError`. -/
namespace Library

inductive IpVersion where
  | v4
  | v6
  deriving DecidableEq

namespace IpVersion

/-- `max_prefixlen`. -/
def maxPrefixlen : IpVersion → Nat
  | .v4 => 32
  | .v6 => 128

end IpVersion

structure IpAddress where
  version : IpVersion
  value : Nat
  /-- What follows `%` in an IPv6 literal; part of equality. -/
  scopeId : Option (List Char)
  deriving DecidableEq

structure IpNetwork where
  version : IpVersion
  networkAddress : Nat
  prefixlen : Nat
  deriving DecidableEq

namespace IpAddress

def isDecimal (text : List Char) : Bool := !text.isEmpty && text.all Char.isDigit

def decimalValue (text : List Char) : Nat :=
  text.foldl (fun value digit => 10 * value + (digit.toNat - '0'.toNat)) 0

/-- `_parse_octet`: at most three digits, no leading zero, at most 255. -/
def parseOctet (text : List Char) : Option Nat :=
  if !isDecimal text || text.length > 3 then none
  else if text ≠ ['0'] ∧ text.head? = some '0' then none
  else if decimalValue text > 255 then none
  else some (decimalValue text)

def parseV4 (text : List Char) : Option Nat :=
  match (text.splitOn '.').mapM parseOctet with
  | some [a, b, c, d] => some (((a * 256 + b) * 256 + c) * 256 + d)
  | _ => none

def hexDigit (digit : Char) : Option Nat :=
  if digit.isDigit then some (digit.toNat - '0'.toNat)
  else if 'a' ≤ digit ∧ digit ≤ 'f' then some (digit.toNat - 'a'.toNat + 10)
  else if 'A' ≤ digit ∧ digit ≤ 'F' then some (digit.toNat - 'A'.toNat + 10)
  else none

/-- `_parse_hextet`: one to four hexadecimal digits. -/
def parseHextet (text : List Char) : Option Nat :=
  if text.isEmpty || text.length > 4 then none
  else text.foldlM (fun value digit => (hexDigit digit).map (16 * value + ·)) 0

/-- `'%x'`, for the two hextets of an embedded IPv4 tail. -/
def hexText (value : Nat) : List Char := Nat.toDigits 16 value

/-- An IPv4-style last part counts as two hextets. -/
def expandTail (parts : List (List Char)) : Option (List (List Char)) :=
  match parts.getLast? with
  | some tail =>
      if '.' ∈ tail then
        (parseV4 tail).map fun v4 =>
          parts.dropLast ++ [hexText (v4 / 65536), hexText (v4 % 65536)]
      else some parts
  | none => some parts

/-- The inner positions of `parts` that are empty, where a `::` stands. -/
def skips (parts : List (List Char)) : List Nat :=
  (List.range parts.length).filter fun i =>
    1 ≤ i ∧ i + 1 < parts.length ∧ parts[i]? = some []

def joinHextets (hextets : List (List Char)) (start : Nat) : Option Nat :=
  hextets.foldlM (fun value text => (parseHextet text).map (65536 * value + ·)) start

/-- `_ip_int_from_string` of IPv6. -/
def parseV6 (text : List Char) : Option Nat := do
  if text.isEmpty || text.length > 45 then none
  let split := text.splitOn ':'
  if split.length < 3 then none
  let parts ← expandTail split
  if parts.length > 9 then none
  match skips parts with
  | [] =>
      if parts.length = 8 then joinHextets parts 0 else none
  | [skip] =>
      -- A leading or trailing empty part is legal only as half of the `::`.
      let leading := parts.head? = some []
      let trailing := parts.getLast? = some []
      let high := if leading then skip - 1 else skip
      let low := parts.length - skip - 1 - (if trailing then 1 else 0)
      if (leading ∧ high ≠ 0) ∨ (trailing ∧ low ≠ 0) then none
      else if high + low > 7 then none
      else do
        let above ← joinHextets (parts.take high) 0
        joinHextets (parts.drop (parts.length - low)) (above * 65536 ^ (8 - (high + low)))
  | _ => none

/-- `_split_scope_id`. -/
def splitScope (text : List Char) : Option (List Char × Option (List Char)) :=
  match text.splitOn '%' with
  | [address] => some (address, none)
  | [address, scope] => if scope.isEmpty then none else some (address, some scope)
  | _ => none

/-- `ipaddress.ip_address` on text: IPv4 first, then IPv6. -/
def ofText (text : List Char) : Option IpAddress :=
  match parseV4 text with
  | some value => some ⟨.v4, value, none⟩
  | none =>
      if '/' ∈ text then none
      else do
        let (address, scope) ← splitScope text
        let value ← parseV6 address
        some ⟨.v6, value, scope⟩

/-- `ipaddress.ip_address` on an integer. -/
def ofInt (value : Int) : Option IpAddress :=
  if value < 0 then none
  else if value.toNat < 2 ^ 32 then some ⟨.v4, value.toNat, none⟩
  else if value.toNat < 2 ^ 128 then some ⟨.v6, value.toNat, none⟩
  else none

end IpAddress

namespace IpNetwork

/-- The netmask with `prefixlen` leading ones. -/
def netmask (version : IpVersion) (prefixlen : Nat) : Nat :=
  (2 ^ prefixlen - 1) * 2 ^ (version.maxPrefixlen - prefixlen)

/-- `_prefix_from_prefix_string`. -/
def prefixFromDigits (version : IpVersion) (text : List Char) : Option Nat :=
  if IpAddress.isDecimal text ∧ IpAddress.decimalValue text ≤ version.maxPrefixlen then
    some (IpAddress.decimalValue text)
  else none

/-- `_prefix_from_ip_string`: a dotted netmask, or failing that a hostmask. -/
def prefixFromMask (text : List Char) : Option Nat := do
  let mask ← IpAddress.parseV4 text
  let lengths := List.range 33
  (lengths.find? fun n => netmask .v4 n = mask).or
    (lengths.find? fun n => netmask .v4 n = 2 ^ 32 - 1 - mask)

/-- Keep the leading `prefixlen` bits, as `strict=False` does. -/
def truncate (version : IpVersion) (value prefixlen : Nat) : Nat :=
  value / 2 ^ (version.maxPrefixlen - prefixlen) * 2 ^ (version.maxPrefixlen - prefixlen)

def make (version : IpVersion) (value prefixlen : Nat) : IpNetwork :=
  ⟨version, truncate version value prefixlen, prefixlen⟩

/-- `ipaddress.ip_network(text, strict=False)` for a text with a slash. -/
def ofText (text : List Char) : Option IpNetwork :=
  match text.splitOn '/' with
  | [address, mask] =>
      match IpAddress.parseV4 address,
          (prefixFromDigits .v4 mask).or (prefixFromMask mask) with
      | some value, some prefixlen => some (make .v4 value prefixlen)
      | _, _ => do
          let (address, _) ← IpAddress.splitScope address
          let value ← IpAddress.parseV6 address
          let prefixlen ← prefixFromDigits .v6 mask
          some (make .v6 value prefixlen)
  | _ => none

/-- `address in network`. -/
def contains (network : IpNetwork) (address : IpAddress) : Bool :=
  network.version = address.version &&
    truncate network.version address.value network.prefixlen == network.networkAddress

end IpNetwork

example : IpAddress.ofText "203.0.113.7".toList = some ⟨.v4, 0xCB007107, none⟩ := by decide

example : (IpNetwork.ofText "10.0.0.0/8".toList).map
    (·.contains ⟨.v4, 0x0A0B0C0D, none⟩) = some true := by decide

end Library
