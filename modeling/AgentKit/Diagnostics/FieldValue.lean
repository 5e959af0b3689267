import AgentKit.Pattern.Read
/-!
# Values of fields in a filter

A directive may ask for a value of a field: a truth, a number, or anything that matches a pattern.
Truths and numbers are patterns too, except for a number with a plus sign, which is why numbers are
looked at on their own.
-/
namespace AgentKit.FieldValue

/-- Words that stand for a number. -/
def numberWords : List String := ["inf", "infinity", "nan"]

/-- A sign that may be missing, and then digits to the end. -/
def isExponent (text : List Char) : Bool :=
  let digits :=
    match text with
    | '+' :: rest | '-' :: rest => rest
    | other => other
  !digits.isEmpty && digits.all Char.isDigit

/-- Nothing, or an exponent behind its mark. -/
def isExponentPart : List Char → Bool
  | [] => true
  | mark :: rest => (mark == 'e' || mark == 'E') && isExponent rest

/-- A number without a sign: digits with a point in front of them, among them or behind them, and
perhaps an exponent. -/
def isDecimal (text : List Char) : Bool :=
  let whole := text.takeWhile Char.isDigit
  match text.drop whole.length with
  | '.' :: behind =>
    let fraction := behind.takeWhile Char.isDigit
    !(whole.isEmpty && fraction.isEmpty) && isExponentPart (behind.drop fraction.length)
  | rest => !whole.isEmpty && isExponentPart rest

/-- A number with a plus sign. -/
def isPositive : List Char → Bool
  | '+' :: number =>
    numberWords.contains (String.ofList (number.map Char.toLower)) || isDecimal number
  | _ => false

/-- A value that a directive can ask for. -/
def isUsable (text : List Char) : Bool := isPositive text || Pattern.isPattern text

/-- The value in a field of a directive: what stands behind an equals sign, up to another one. -/
def ofField? (field : List Char) : Option (List Char) :=
  match field.dropWhile fun character => character != '=' with
  | [] => none
  | _ :: rest => some (rest.takeWhile fun character => character != '=')

end AgentKit.FieldValue
