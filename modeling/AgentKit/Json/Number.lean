import AgentKit.Binary64.Scaling
import AgentKit.Json.Scan
/-!
# The value of a number token

A token without point and exponent that fits into 64 bits is an integer. Every other token is a
binary64 number: the digits are taken into a significand as long as it fits into 64 bits, a dropped
digit of the whole part raises the power of ten by one and a taken digit of the fraction lowers it
by one. Minus zero is no integer.
-/
namespace AgentKit.Json

/-- The value of a digit octet. -/
def digitOf (octet : UInt8) : Nat := octet.toNat - 0x30

/-- Take digits into a number as long as it stays below a limit. -/
def takeDigits (limit : Nat) (number : Nat) : Bytes → Nat × Bytes
  | [] => (number, [])
  | octet :: rest =>
    if isDigit octet && number * 10 + digitOf octet < limit then
      takeDigits limit (number * 10 + digitOf octet) rest
    else (number, octet :: rest)

/-- The least number that a significand cannot hold. -/
def significandLimit : Nat := 0x10000000000000000

/-- The least number that an exponent cannot hold. -/
def exponentLimit : Nat := 0x80000000

/-- A token read so far: the sign, the significand and the power of ten. -/
structure NumberToken where
  negative : Bool
  significand : Nat
  exponent : Int

namespace NumberToken

/-- The number of a token, behind all of its octets. -/
def finish (token : NumberToken) (rest : Bytes) : Scan Found :=
  match Binary64.scalePattern? (Binary64.naturalPattern token.significand) token.exponent with
  | some pattern => .ok (.float (.ofPattern token.negative pattern), rest)
  | none => .error ⟨.numberOutOfRange, rest⟩

/-- The integer of a token without point, exponent and dropped digits. -/
def integer (token : NumberToken) : Found :=
  if !token.negative then .unsigned token.significand
  else if token.significand = 0 ∨ 0x8000000000000000 < token.significand then
    .float (.ofPattern true (Binary64.naturalPattern token.significand))
  else .signed (-(token.significand : Int))

/-- Read an exponent from behind its mark. One too large to be held makes zero of zero and of
every small number, and is out of range otherwise. -/
def scanExponent (token : NumberToken) (octets : Bytes) : Scan Found :=
  let negative := octets.head? == some (code '-')
  let unsigned := if negative || octets.head? == some (code '+') then octets.tail else octets
  match unsigned with
  | [] => .error ⟨.endInValue, []⟩
  | octet :: rest =>
    if !isDigit octet then .error ⟨.invalidNumber, rest⟩
    else
      let (exponent, after) := takeDigits exponentLimit 0 (octet :: rest)
      if startsWithDigit after then
        if token.significand ≠ 0 ∧ !negative then .error ⟨.numberOutOfRange, after.tail⟩
        else .ok (.float (.ofPattern token.negative 0), skipDigits after)
      else
        let shift : Int := if negative then -(exponent : Int) else exponent
        { token with exponent := token.exponent + shift }.finish after

/-- Read what may follow the digits of a token. -/
def scanExponentPart (token : NumberToken) (octets : Bytes) : Scan Found :=
  match octets with
  | mark :: rest => if isExponentMark mark then token.scanExponent rest else token.finish octets
  | [] => token.finish []

/-- Read a fraction from behind its point. -/
def scanFraction (token : NumberToken) (octets : Bytes) : Scan Found :=
  match octets with
  | [] => .error ⟨.endInValue, []⟩
  | octet :: rest =>
    if !isDigit octet then .error (.ahead .invalidNumber (octet :: rest))
    else
      let (significand, after) := takeDigits significandLimit token.significand octets
      let taken := octets.length - after.length
      { token with significand, exponent := token.exponent - taken }.scanExponentPart
        (skipDigits after)

end NumberToken

/-- Read a number from behind its minus sign, if it has one. -/
def scanNumber (negative : Bool) (octets : Bytes) : Scan Found :=
  match octets with
  | [] => .error ⟨.endInValue, []⟩
  | first :: rest =>
    if first = code '0' && startsWithDigit rest then .error (.ahead .invalidNumber rest)
    else if !isDigit first then .error ⟨.invalidNumber, rest⟩
    else
      let (significand, after) := takeDigits significandLimit 0 octets
      let behind := skipDigits after
      let token : NumberToken := ⟨negative, significand, (after.length : Int) - behind.length⟩
      match behind with
      | mark :: fraction =>
        if mark = code '.' then token.scanFraction fraction
        else if isExponentMark mark then token.scanExponent fraction
        else if after.length = behind.length then .ok (token.integer, behind)
        else token.finish behind
      | [] => if after.length = 0 then .ok (token.integer, []) else token.finish []

end AgentKit.Json
