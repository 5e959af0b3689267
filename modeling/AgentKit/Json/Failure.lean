import AgentKit.Binary64.Shortest
import AgentKit.Text.Utf8
import AgentKit.Text.Visible
/-!
# Why a text is not read

A reader works through octets from the left. When it stops it names a cause and the octets that it
has not passed; how many those are tells where in the text it stopped. Lines are counted from one.
A column is the count of octets since the last line break, so the first column of a line has
number one and zero stands for the break itself.
-/
namespace AgentKit.Json

/-- What was found in the place of something else. -/
inductive Found where
  | null
  | bool (truth : Bool)
  | unsigned (number : Nat)
  | signed (number : Int)
  | float (number : Binary64)
  | string (text : String)
  | sequence
  | map

/-- A found value in words. -/
def Found.text : Found → String
  | .null => "null"
  | .bool true => "boolean `true`"
  | .bool false => "boolean `false`"
  | .unsigned number => "integer `" ++ String.ofList (Numeral.natural number) ++ "`"
  | .signed number => "integer `" ++ String.ofList (Numeral.integer number) ++ "`"
  | .float number => "floating point `" ++ String.ofList number.text ++ "`"
  | .string text => "string " ++ Visible.quote text
  | .sequence => "sequence"
  | .map => "map"

/-- Why a reader stopped. -/
inductive Cause where
  | endInValue
  | endInString
  | endInList
  | endInObject
  | expectedValue
  | expectedWord
  | expectedColon
  | expectedListEnd
  | expectedObjectEnd
  | trailingComma
  | trailingCharacters
  | keyNotString
  | invalidNumber
  | numberOutOfRange
  | invalidEscape
  | invalidCodePoint
  | loneSurrogate
  | unfinishedPair
  | controlCharacter
  | duplicateField (name : String)
  | unexpected (found : Found) (expected : String)

/-- The three classes of causes: the text ends too early, it is no JSON, or it is JSON of another
shape. -/
inductive CauseClass where
  | eof
  | syntactic
  | data
deriving DecidableEq, Repr

namespace Cause

/-- The class of a cause. -/
def causeClass : Cause → CauseClass
  | .endInValue | .endInString | .endInList | .endInObject => .eof
  | .duplicateField _ | .unexpected _ _ => .data
  | _ => .syntactic

/-- A cause in words. -/
def text : Cause → String
  | .endInValue => "EOF while parsing a value"
  | .endInString => "EOF while parsing a string"
  | .endInList => "EOF while parsing a list"
  | .endInObject => "EOF while parsing an object"
  | .expectedValue => "expected value"
  | .expectedWord => "expected ident"
  | .expectedColon => "expected `:`"
  | .expectedListEnd => "expected `,` or `]`"
  | .expectedObjectEnd => "expected `,` or `\x7d`"
  | .trailingComma => "trailing comma"
  | .trailingCharacters => "trailing characters"
  | .keyNotString => "key must be a string"
  | .invalidNumber => "invalid number"
  | .numberOutOfRange => "number out of range"
  | .invalidEscape => "invalid escape"
  | .invalidCodePoint => "invalid unicode code point"
  | .loneSurrogate => "lone leading surrogate in hex escape"
  | .unfinishedPair => "unexpected end of hex escape"
  | .controlCharacter => "control character (\\u0000-\\u001F) found while parsing a string"
  | .duplicateField name => "duplicate field `" ++ name ++ "`"
  | .unexpected found expected => "invalid type: " ++ found.text ++ ", expected " ++ expected

end Cause

/-- Where and why a reader stopped: the cause, and the octets after the place of the report. -/
structure Failure where
  cause : Cause
  rest : Bytes

/-- The report about the octet in front of the reader: it counts as passed if there is one. -/
def Failure.ahead (cause : Cause) (octets : Bytes) : Failure := ⟨cause, octets.tail⟩

/-- A reader's result: a value and the octets after it, or a failure. -/
abbrev Scan (α : Type) := Except Failure (α × Bytes)

/-- A place in a text. -/
structure Position where
  line : Nat
  column : Nat
deriving DecidableEq, Repr

/-- The place behind an initial piece of a text. -/
def Position.after (passed : Bytes) : Position where
  line := passed.count 0x0A + 1
  column := (passed.reverse.takeWhile fun octet => octet != 0x0A).length

/-- The place of a report in the text that was read. -/
def Failure.position (failure : Failure) (octets : Bytes) : Position :=
  .after (octets.take (octets.length - failure.rest.length))

/-- The report in words: the cause and its place. -/
def Failure.message (failure : Failure) (octets : Bytes) : String :=
  let position := failure.position octets
  failure.cause.text ++ " at line " ++ String.ofList (Numeral.natural position.line) ++
    " column " ++ String.ofList (Numeral.natural position.column)

end AgentKit.Json
