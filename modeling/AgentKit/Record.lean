import AgentKit.Binary64.Shortest
import AgentKit.Json.Quote
import AgentKit.Text.Utf8
import AgentKit.Time.Timestamp
/-!
# Log records

A record is one flat JSON object on one line: `level`, `msg` and `ts`, then the caller's fields in
the order given. Collectors parse this shape, so the names of the keys and the form of the
timestamp are fixed.

Fields are merged in order. A key that is already present, reserved or not, keeps its place and
takes the new value.
-/
namespace AgentKit

/-- Severity of a record. -/
inductive Level where
  | debug
  | info
  | warn
  | error
deriving DecidableEq, Repr

/-- A destination of records. -/
inductive Stream where
  | out
  | err
deriving DecidableEq, Repr

namespace Level

/-- The name that records carry. -/
def name : Level → String
  | .debug => "debug"
  | .info => "info"
  | .warn => "warn"
  | .error => "error"

/-- Only errors go to the error stream. -/
def stream : Level → Stream
  | .error => .err
  | .debug | .info | .warn => .out

end Level

/-- A primitive value attached to a record. -/
inductive Value where
  | string (text : String)
  | int (number : Int64)
  | uint (number : UInt64)
  | float (number : Binary64)
  | bool (truth : Bool)
deriving DecidableEq

/-- The JSON text of a value. A number that is not finite has no JSON form and becomes `null`. -/
def Value.text : Value → List Char
  | .string text => Json.quote text.toList
  | .int number => Numeral.integer number.toInt
  | .uint number => Numeral.natural number.toNat
  | .float number => if number.isFinite then number.text else "null".toList
  | .bool true => "true".toList
  | .bool false => "false".toList

/-- Keys with values, in order. -/
abbrev Fields := List (String × Value)

namespace Fields

/-- Set the value of a key: in place when the key is present, at the end otherwise. -/
def put : Fields → String → Value → Fields
  | [], key, value => [(key, value)]
  | (present, old) :: rest, key, value =>
    if present = key then (present, value) :: rest else (present, old) :: put rest key value

/-- Set keys one after the other. -/
def merge (fields extras : Fields) : Fields :=
  extras.foldl (fun merged extra => merged.put extra.1 extra.2) fields

/-- The JSON object of a list of fields. -/
def text (fields : Fields) : List Char :=
  Json.object (fields.map fun field => Json.member field.1.toList field.2.text)

end Fields

/-- One call of a logger: what it says, when, and the caller's fields. -/
structure Record where
  level : Level
  message : String
  clock : Clock
  extras : Fields

namespace Record

/-- The keys that every record has, in order. -/
def reserved (record : Record) : Fields :=
  [("level", .string record.level.name),
    ("msg", .string record.message),
    ("ts", .string (String.ofList record.clock.text))]

/-- The members of a record after merging the caller's fields. -/
def members (record : Record) : Fields := Fields.merge record.reserved record.extras

/-- The text of a record without a newline. -/
def text (record : Record) : List Char := record.members.text

/-- The octets of a record and its newline. -/
def line (record : Record) : Bytes := Utf8.encode (record.text ++ ['\n'])

end Record

end AgentKit
