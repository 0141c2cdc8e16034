import ListInvocation.Decimal.Natural
import ListInvocation.Text.Hexadecimal

/-!
Contract: socket addresses in text.

An address of four octets is written with dots; one of eight groups stands in brackets,
may leave out one run of zero groups, may end in four octets, and may name a scope. A
port follows a colon.

Owns: the types of addresses, their reading, their canonical text, and the loopback
addresses.

Does not own: whether a host has an address.
-/

namespace ListInvocation.Network

open ListInvocation.Decimal

inductive Address where
  /-- Four octets. -/
  | octets (octets : List Nat)
  /-- Eight groups of 16 bits. -/
  | groups (groups : List Nat)
deriving Repr, DecidableEq

/-- An address with a port, and a scope that is zero unless one is named. -/
structure SocketAddress where
  address : Address
  scope : Nat
  port : Nat
deriving Repr, DecidableEq

/-- Whether an address reaches the own host only. -/
def Address.isLoopback : Address → Bool
  | .octets values => values.head? == some 127
  | .groups values => values == [0, 0, 0, 0, 0, 0, 0, 1]

def expect? (expected : Char) : List Char → Option (List Char)
  | [] => none
  | character :: rest => if character = expected then some rest else none

/-- Reads a decimal number below a bound, with any leading zeros. -/
def readBelow? (bound : Nat) (text : List Char) : Option (Nat × List Char) :=
  let run := text.takeWhile isDigit
  if run.isEmpty || bound ≤ ofDigits run then none
  else some (ofDigits run, text.dropWhile isDigit)

/-- Reads an octet: up to three digits without leading zeros. -/
def readOctet? (text : List Char) : Option (Nat × List Char) :=
  let run := text.takeWhile isDigit
  if 3 < run.length || (run.head? == some '0' && 1 < run.length) then none
  else readBelow? 256 text

def readOctets? (text : List Char) : Option (List Nat × List Char) := do
  let (first, rest) ← readOctet? text
  let (second, rest) ← readOctet? (← expect? '.' rest)
  let (third, rest) ← readOctet? (← expect? '.' rest)
  let (fourth, rest) ← readOctet? (← expect? '.' rest)
  return ([first, second, third, fourth], rest)

/-- Reads a group: one to four hexadecimal digits. -/
def readGroup? (text : List Char) : Option (Nat × List Char) :=
  let run := text.takeWhile Text.isHexDigit
  if run.isEmpty || 4 < run.length then none
  else (Text.ofHexDigits? run).map fun value => (value, text.drop run.length)

def groupsOfOctets : List Nat → List Nat
  | [first, second, third, fourth] => [first * 256 + second, third * 256 + fourth]
  | _ => []

/-- A run of groups as read, and whether it ended in four octets. -/
structure GroupRun where
  groups : List Nat
  endsInOctets : Bool
  rest : List Char

/-- Reads at most `room` groups between colons, the last two of them possibly as four
octets. -/
def readGroups (first : Bool) : (room : Nat) → List Char → GroupRun
  | 0, text => ⟨[], false, text⟩
  | room + 1, text =>
      let ahead? := if first then some text else expect? ':' text
      match if 0 < room then ahead? >>= readOctets? else none with
      | some (octets, rest) => ⟨groupsOfOctets octets, true, rest⟩
      | none =>
          match ahead? >>= readGroup? with
          | none => ⟨[], false, text⟩
          | some (group, rest) =>
              let run := readGroups false room rest
              { run with groups := group :: run.groups }

/-- Reads eight groups, or fewer with one gap of zeros. -/
def readAddressGroups? (text : List Char) : Option (List Nat × List Char) := do
  let head := readGroups true 8 text
  if head.groups.length = 8 then
    return (head.groups, head.rest)
  else if head.endsInOctets then
    none
  else
    let rest ← expect? ':' (← expect? ':' head.rest)
    let tail := readGroups true (7 - head.groups.length) rest
    let gap := 8 - head.groups.length - tail.groups.length
    return (head.groups ++ List.replicate gap 0 ++ tail.groups, tail.rest)

/-- Reads a scope behind a percent sign; zero when there is none. -/
def readScope (text : List Char) : Nat × List Char :=
  match expect? '%' text >>= readBelow? (Nat.pow 2 32) with
  | some scope => scope
  | none => (0, text)

def readPort? (text : List Char) : Option (Nat × List Char) :=
  expect? ':' text >>= readBelow? (Nat.pow 2 16)

def readOctetSocket? (text : List Char) : Option (SocketAddress × List Char) := do
  let (octets, rest) ← readOctets? text
  let (port, rest) ← readPort? rest
  return (⟨.octets octets, 0, port⟩, rest)

def readGroupSocket? (text : List Char) : Option (SocketAddress × List Char) := do
  let (groups, rest) ← readAddressGroups? (← expect? '[' text)
  let (scope, rest) := readScope rest
  let (port, rest) ← readPort? (← expect? ']' rest)
  return (⟨.groups groups, scope, port⟩, rest)

def SocketAddress.read? (text : String) : Option SocketAddress :=
  match readOctetSocket? text.toList <|> readGroupSocket? text.toList with
  | some (address, []) => some address
  | _ => none

def renderOctets (octets : List Nat) : String :=
  String.intercalate "." (octets.map Nat.repr)

def renderGroupRun (groups : List Nat) : String :=
  String.intercalate ":" (groups.map fun group => String.ofList (Nat.toDigits 16 group))

def leadingZeros (groups : List Nat) : Nat :=
  (groups.takeWhile (· == 0)).length

/-- The start and the length of the first longest run of zero groups. -/
def longestZeroRun (groups : List Nat) : Nat × Nat :=
  (List.range groups.length).foldl
    (fun best start =>
      let length := leadingZeros (groups.drop start)
      if best.2 < length then (start, length) else best)
    (0, 0)

/-- Groups in canonical form: the longest run of at least two zero groups is left out,
and four octets that are written as groups appear as octets. -/
def renderGroups (groups : List Nat) : String :=
  match groups with
  | [0, 0, 0, 0, 0, 0xFFFF, high, low] =>
      "::ffff:" ++ renderOctets [high / 256, high % 256, low / 256, low % 256]
  | _ =>
      let (start, length) := longestZeroRun groups
      if 1 < length then
        renderGroupRun (groups.take start) ++ "::"
          ++ renderGroupRun (groups.drop (start + length))
      else
        renderGroupRun groups

def SocketAddress.render (socket : SocketAddress) : String :=
  match socket.address with
  | .octets octets => s!"{renderOctets octets}:{socket.port}"
  | .groups groups =>
      let scope := if socket.scope = 0 then "" else s!"%{socket.scope}"
      "[" ++ renderGroups groups ++ scope ++ "]:" ++ Nat.repr socket.port

end ListInvocation.Network
