import BindingOperator.Power

/-!
Addresses that a server can be bound to: an IP address and a port. An octet has no leading
zero; of an address of eight groups one run of zeros may be left out, and its last two may
be written as octets. The written form of an address is unique: it leaves out the first of
the longest runs of at least two zeros.
-/

namespace BindingOperator

inductive IpAddress where
  | octets (values : List Nat)
  | groups (values : List Nat) (scope : Nat)
  deriving DecidableEq, Repr, Inhabited

structure SocketAddress where
  host : IpAddress
  port : Nat
  deriving DecidableEq, Repr, Inhabited

namespace SocketAddress

def digit? (radix : Nat) (c : Char) : Option Nat :=
  let value :=
    if c.isDigit then some (c.toNat - 48)
    else if 'a' ≤ c && c ≤ 'f' then some (c.toNat - 87)
    else if 'A' ≤ c && c ≤ 'F' then some (c.toNat - 55)
    else none
  value.filter (· < radix)

def digits (radix : Nat) : List Char → List Nat × List Char
  | [] => ([], [])
  | c :: rest =>
      match digit? radix c with
      | some value =>
          let more := digits radix rest
          (value :: more.1, more.2)
      | none => ([], c :: rest)

/-- A number below a limit, of so many digits at most, and what is left of the text; leading
zeros may be refused. -/
def readNumber (radix limit : Nat) (mostDigits : Option Nat) (leadingZeros : Bool)
    (text : List Char) : Option (Nat × List Char) :=
  let (found, rest) := digits radix text
  let value := found.foldl (fun sum digit => sum * radix + digit) 0
  if found.isEmpty || mostDigits.any (· < found.length) then none
  else if !leadingZeros && found.head? = some 0 && 1 < found.length then none
  else if value < limit then some (value, rest)
  else none

def readMark (mark : Char) : List Char → Option (Unit × List Char)
  | c :: rest => if c = mark then some ((), rest) else none
  | [] => none

/-- Reads what stands behind a mark, which the first of several has not. -/
def readBehind {α : Type} (mark : Char) (first : Bool) (read : List Char → Option (α × List Char))
    (text : List Char) : Option (α × List Char) :=
  if first then read text else (readMark mark text).bind fun (_, rest) => read rest

def readOctets : Nat → Bool → List Char → Option (List Nat × List Char)
  | 0, _, text => some ([], text)
  | count + 1, first, text => do
      let (octet, rest) ← readBehind '.' first (readNumber 10 256 (some 3) false) text
      let (more, rest) ← readOctets count false rest
      return (octet :: more, rest)

def readV4 (text : List Char) : Option (List Nat × List Char) := readOctets 4 true text

def groupsOfOctets : List Nat → List Nat
  | high :: low :: rest => (high * 256 + low) :: groupsOfOctets rest
  | _ => []

/-- Reads so many groups at most. Octets end them, and it is told whether they did. -/
def readGroups : Nat → Bool → List Char → List Nat × Bool × List Char
  | 0, _, text => ([], false, text)
  | slots + 1, first, text =>
      match if 0 < slots then readBehind ':' first readV4 text else none with
      | some (octets, rest) => (groupsOfOctets octets, true, rest)
      | none =>
          match readBehind ':' first (readNumber 16 65536 (some 4) true) text with
          | some (group, rest) =>
              let (more, octets, rest) := readGroups slots false rest
              (group :: more, octets, rest)
          | none => ([], false, text)

/-- Eight groups, or fewer with two colons for the zeros that are missing. -/
def readV6 (text : List Char) : Option (List Nat × List Char) := do
  let (head, octets, rest) := readGroups 8 true text
  if head.length = 8 then return (head, rest)
  if octets then none
  let (_, rest) ← readMark ':' rest
  let (_, rest) ← readMark ':' rest
  let (tail, _, rest) := readGroups (7 - head.length) true rest
  return (head ++ List.replicate (8 - head.length - tail.length) 0 ++ tail, rest)

def readPort (text : List Char) : Option (Nat × List Char) :=
  readBehind ':' false (readNumber 10 65536 none true) text

def readScope (text : List Char) : Nat × List Char :=
  (readBehind '%' false (readNumber 10 limit32 none true) text).getD (0, text)

def read (text : List Char) : Option (SocketAddress × List Char) :=
  let withOctets : Option (SocketAddress × List Char) := do
    let (octets, rest) ← readV4 text
    let (port, rest) ← readPort rest
    return (⟨.octets octets, port⟩, rest)
  let withGroups : Option (SocketAddress × List Char) := do
    let (_, rest) ← readMark '[' text
    let (groups, rest) ← readV6 rest
    let (scope, rest) := readScope rest
    let (_, rest) ← readMark ']' rest
    let (port, rest) ← readPort rest
    return (⟨.groups groups scope, port⟩, rest)
  withOctets.or withGroups

/-- The address that a whole text is. -/
def parse? (text : String) : Option SocketAddress :=
  match read text.toList with
  | some (address, []) => some address
  | _ => none

def joined (mark : String) (parts : List String) : String := String.intercalate mark parts

def octetsText (values : List Nat) : String := joined "." (values.map Nat.repr)

def groupText (value : Nat) : String := String.ofList (Nat.toDigits 16 value)

def groupsText (values : List Nat) : String := joined ":" (values.map groupText)

def leadingRun : List Nat → Nat
  | 0 :: rest => leadingRun rest + 1
  | _ => 0

/-- Where the first of the longest runs of zeros starts, and how long it is. -/
def longestRun (place : Nat) : List Nat → Nat × Nat
  | [] => (place, 0)
  | value :: rest =>
      let here := leadingRun (value :: rest)
      let later := longestRun (place + 1) rest
      if later.2 ≤ here then (place, here) else later

def v6Text (values : List Nat) : String :=
  match values with
  | [0, 0, 0, 0, 0, 0xffff, high, low] =>
      "::ffff:" ++ octetsText [high / 256, high % 256, low / 256, low % 256]
  | _ =>
      let (start, length) := longestRun 0 values
      if 1 < length then
        groupsText (values.take start) ++ "::" ++ groupsText (values.drop (start + length))
      else groupsText values

def text (address : SocketAddress) : String :=
  let port := ":" ++ Nat.repr address.port
  match address.host with
  | .octets values => octetsText values ++ port
  | .groups values 0 => "[" ++ v6Text values ++ "]" ++ port
  | .groups values scope => "[" ++ v6Text values ++ "%" ++ Nat.repr scope ++ "]" ++ port

end SocketAddress

end BindingOperator
