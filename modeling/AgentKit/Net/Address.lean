import AgentKit.Text.Numeral
/-!
# Socket addresses

The texts of addresses: four decimal numbers with points between them, or eight hexadecimal groups
with colons, of which one run of zeros may be left out and the last two may be written as four
decimal numbers. Together with a port the second form stands in brackets.
-/
namespace AgentKit.Net

/-- An address without a port. -/
inductive Address where
  /-- Four octets. -/
  | four (octets : List Nat)
  /-- Eight groups of sixteen bits, and a number for the zone. -/
  | six (groups : List Nat) (zone : Nat)
deriving DecidableEq, Repr

/-- The number that digits of a base spell. -/
def numberOf (base : Nat) (digits : List Char) : Nat :=
  digits.foldl (fun number digit => number * base + (Numeral.hexValue? digit).getD 0) 0

/-- Read one decimal number of an address: up to three digits, no leading zero, at most 255. -/
def readOctet? (text : List Char) : Option (Nat × List Char) :=
  let digits := text.takeWhile Char.isDigit
  let number := numberOf 10 digits
  if digits = [] ∨ 3 < digits.length ∨ 255 < number then none
  else if digits.head? = some '0' ∧ 1 < digits.length then none
  else some (number, text.drop digits.length)

/-- Read further decimal numbers, each behind a point. -/
def readOctets? : Nat → List Char → Option (List Nat × List Char)
  | 0, text => some ([], text)
  | count + 1, '.' :: text => do
    let (octet, rest) ← readOctet? text
    let (octets, final) ← readOctets? count rest
    return (octet :: octets, final)
  | _ + 1, _ => none

/-- Read four decimal numbers. -/
def readFour? (text : List Char) : Option (List Nat × List Char) := do
  let (first, rest) ← readOctet? text
  let (others, final) ← readOctets? 3 rest
  return (first :: others, final)

/-- Read a group of one to four hexadecimal digits. -/
def readGroup? (text : List Char) : Option (Nat × List Char) :=
  let digits := text.takeWhile fun character => (Numeral.hexValue? character).isSome
  if digits = [] ∨ 4 < digits.length then none
  else some (numberOf 16 digits, text.drop digits.length)

/-- Pass the colon in front of every group but the first. -/
def passColon? (first : Bool) (text : List Char) : Option (List Char) :=
  if first then some text
  else
    match text with
    | ':' :: rest => some rest
    | _ => none

/-- Read groups as long as there are any, up to a number of them. Four decimal numbers count as two
groups and end the list; the answer says whether they do. -/
def readGroups (first : Bool) : Nat → List Char → List Nat × Bool × List Char
  | 0, text => ([], false, text)
  | count + 1, text =>
    match passColon? first text with
    | none => ([], false, text)
    | some behind =>
      match if count = 0 then none else readFour? behind with
      | some ([a, b, c, d], rest) => ([a * 256 + b, c * 256 + d], true, rest)
      | _ =>
        match readGroup? behind with
        | none => ([], false, text)
        | some (group, rest) =>
          let (groups, ended, final) := readGroups false count rest
          (group :: groups, ended, final)

/-- Read eight groups, or fewer around two colons. -/
def readSix? (text : List Char) : Option (List Nat × List Char) :=
  let (head, ended, rest) := readGroups true 8 text
  if head.length = 8 then some (head, rest)
  else if ended then none
  else
    match rest with
    | ':' :: ':' :: behind =>
      let (tail, _, final) := readGroups true (7 - head.length) behind
      some (head ++ List.replicate (8 - head.length - tail.length) 0 ++ tail, final)
    | _ => none

/-- Read the number of a zone, if one is given. -/
def readZone? (text : List Char) : Option (Nat × List Char) :=
  match text with
  | '%' :: rest =>
    let digits := rest.takeWhile Char.isDigit
    let number := numberOf 10 digits
    if digits = [] ∨ 0x100000000 ≤ number then none else some (number, rest.drop digits.length)
  | other => some (0, other)

/-- The address of a text as it stands in front of a port. -/
def Address.ofText? (text : List Char) : Option Address :=
  match text with
  | '[' :: inner =>
    match readSix? inner with
    | none => none
    | some (groups, rest) =>
      match readZone? rest with
      | some (zone, [']']) => some (.six groups zone)
      | _ => none
  | other =>
    match readFour? other with
    | some (octets, []) => some (.four octets)
    | _ => none

/-- Decimal numbers with points between them. -/
def fourText (octets : List Nat) : List Char := ['.'].intercalate (octets.map Numeral.natural)

/-- A group in hexadecimal digits. -/
def groupText (group : Nat) : List Char := Nat.toDigits 16 group

/-- Groups with colons between them. -/
def groupsText (groups : List Nat) : List Char := [':'].intercalate (groups.map groupText)

/-- The length of the run of zeros at the front. -/
def zeroRun (groups : List Nat) : Nat := (groups.takeWhile fun group => group == 0).length

/-- The start and the length of the first longest run of zeros. -/
def longestRun (groups : List Nat) : Nat × Nat :=
  (List.range groups.length).foldl
    (fun best start =>
      let length := zeroRun (groups.drop start)
      if best.2 < length then (start, length) else best)
    (0, 0)

/-- Eight groups. The first longest run of more than one zero is left out, and an address that
stands for four octets shows them. -/
def sixText (groups : List Nat) : List Char :=
  match groups with
  | [0, 0, 0, 0, 0, 0xFFFF, high, low] =>
    "::ffff:".toList ++ fourText [high / 256, high % 256, low / 256, low % 256]
  | _ =>
    let (start, length) := longestRun groups
    if 1 < length then
      groupsText (groups.take start) ++ [':', ':'] ++ groupsText (groups.drop (start + length))
    else groupsText groups

/-- The text of an address as it stands in front of a port. -/
def Address.text : Address → List Char
  | .four octets => fourText octets
  | .six groups zone =>
    let suffix := if zone = 0 then [] else '%' :: Numeral.natural zone
    '[' :: sixText groups ++ suffix ++ [']']

end AgentKit.Net
