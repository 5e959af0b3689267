import AgentKit.Text.Numeral
import AgentKit.Text.Styled
/-!
# Reading a command line

Arguments are read from the left. An option takes its value behind an equals sign or from the next
argument; two dashes alone end the options, and nothing may follow them. A flag for help or the
version acts at once.

The value of an option is checked when the next option or flag starts, or at the end. An argument
that fits nowhere is reported before a value that was still to be checked; a missing value before a
repeated option, and a repeated option before its value.
-/
namespace AgentKit.CommandLine

/-- What values an option takes. -/
inductive ValueKind where
  | text
  | port
deriving DecidableEq, Repr

/-- An option with a value. -/
structure OptionRule where
  name : String
  placeholder : String
  kind : ValueKind
deriving DecidableEq, Repr

/-- An option as messages show it. -/
def OptionRule.shown (rule : OptionRule) : String :=
  "--" ++ rule.name ++ " <" ++ rule.placeholder ++ ">"

/-- What a flag asks for. -/
inductive Notice where
  | help
  | version
deriving DecidableEq, Repr

/-- The name of a flag. -/
def Notice.name : Notice → String
  | .help => "help"
  | .version => "version"

/-- The letter of a flag. -/
def Notice.letter : Notice → Char
  | .help => 'h'
  | .version => 'V'

/-- The options and flags of a program. -/
structure Rules where
  options : List OptionRule
  notices : List Notice

/-- The value of an option. -/
inductive OptionValue where
  | text (value : String)
  | port (number : Nat)
deriving DecidableEq, Repr

/-- Why a command line is refused. -/
inductive UsageError where
  | unexpectedArgument (argument : String)
  | missingValue (rule : OptionRule)
  | repeated (rule : OptionRule)
  | notText
  | invalidValue (value : String) (rule : OptionRule) (why : String)
  | unneededValue (value : String) (notice : Notice)
deriving DecidableEq, Repr

/-- What has to be typed as it stands. -/
def literal (text : String) : Styled := .looking [.bold] text

/-- What is wrong on a command line. -/
def doubtful (text : String) : Styled := .looking [.yellow] text

/-- A refusal in words. -/
def UsageError.message : UsageError → Styled
  | .unexpectedArgument argument =>
    .plain "unexpected argument '" ++ doubtful argument ++ .plain "' found"
  | .missingValue rule =>
    .plain "a value is required for '" ++ doubtful rule.shown ++ .plain "' but none was supplied"
  | .repeated rule =>
    .plain "the argument '" ++ doubtful rule.shown ++ .plain "' cannot be used multiple times"
  | .notText => .plain "invalid UTF-8 was detected in one or more arguments"
  | .invalidValue value rule why =>
    .plain "invalid value '" ++ doubtful value ++ .plain "' for '" ++ literal rule.shown ++
      .plain ("': " ++ why)
  | .unneededValue value notice =>
    .plain "unexpected value '" ++ doubtful value ++ .plain "' for '" ++
      literal ("--" ++ notice.name) ++ .plain "' found; no more were expected"

/-- Read digits as long as the number stays within a bound. -/
def readBounded (bound number : Nat) (tooFar : String) : List Char → Except String Nat
  | [] => .ok number
  | character :: rest =>
    match Numeral.digitValue? character with
    | none => .error "invalid digit found in string"
    | some digit =>
      if bound < number * 10 + digit then .error tooFar
      else readBounded bound (number * 10 + digit) tooFar rest

/-- The magnitude of the least whole number of 64 bits. The greatest one is one less. -/
def leastMagnitude : Nat := 0x8000000000000000

/-- Read a whole number of 64 bits with an optional sign. -/
def readInteger (text : List Char) : Except String Int :=
  let tooLarge := "number too large to fit in target type"
  match text with
  | [] => .error "cannot parse integer from empty string"
  | '-' :: first :: rest =>
    (readBounded leastMagnitude 0 "number too small to fit in target type" (first :: rest)).map
      fun number => -(number : Int)
  | '+' :: first :: rest =>
    (readBounded (leastMagnitude - 1) 0 tooLarge (first :: rest)).map fun number => (number : Int)
  | digits => (readBounded (leastMagnitude - 1) 0 tooLarge digits).map fun number => (number : Int)

/-- Read the number of a port. -/
def readPort (text : String) : Except String Nat :=
  match readInteger text.toList with
  | .error why => .error why
  | .ok number =>
    if 0 ≤ number ∧ number ≤ 65535 then .ok number.toNat
    else .error (String.ofList (Numeral.integer number) ++ " is not in 0..=65535")

/-- Check the value of an option. -/
def checkValue (rule : OptionRule) (value : Bytes) : Except UsageError OptionValue :=
  match Utf8.toString? value with
  | none => .error .notText
  | some text =>
    match rule.kind with
    | .text => .ok (.text text)
    | .port =>
      match readPort text with
      | .ok number => .ok (.port number)
      | .error why => .error (.invalidValue text rule why)

/-- Where the reader stands. -/
structure State where
  /-- The options read and checked. -/
  found : List (String × OptionValue)
  /-- An option whose value is not checked yet, or not there yet. -/
  pending : Option (OptionRule × Option Bytes)
  /-- Two dashes have ended the options. -/
  ended : Bool

namespace State

/-- Nothing is read yet. -/
def initial : State := ⟨[], none, false⟩

/-- Take an option with its value. -/
def accept (state : State) (rule : OptionRule) (value : Bytes) : Except UsageError State :=
  if (state.found.lookup rule.name).isSome then .error (.repeated rule)
  else (checkValue rule value).map fun checked =>
    { state with found := (rule.name, checked) :: state.found, pending := none }

/-- Check the option that is pending, if there is one. -/
def settle (state : State) : Except UsageError State :=
  match state.pending with
  | none => .ok state
  | some (rule, none) => .error (.missingValue rule)
  | some (rule, some value) => state.accept rule value

end State

/-- What reading one argument leads to. -/
inductive Progress where
  | go (state : State)
  | stop (notice : Notice)

/-- The octet of a dash. -/
def dash : UInt8 := 0x2D

/-- The octet of an equals sign. -/
def equals : UInt8 := 0x3D

/-- The name of a long option and the value behind its equals sign. -/
def splitValue (octets : Bytes) : Bytes × Option Bytes :=
  let name := octets.takeWhile fun octet => octet != equals
  match octets.drop name.length with
  | [] => (name, none)
  | _ :: value => (name, some value)

/-- A flag acts once what is pending has been checked. -/
def stopAt (state : State) (notice : Notice) : Except UsageError Progress :=
  state.settle.map fun _ => .stop notice

/-- Read an argument from behind its two dashes. -/
def readLong (rules : Rules) (state : State) (octets : Bytes) : Except UsageError Progress :=
  let (name, value) := splitValue octets
  let shown := Utf8.toStringLossy name
  let known := (Utf8.toString? name).getD ""
  match rules.options.find? fun rule => rule.name == known with
  | some rule =>
    match state.settle with
    | .error error => .error error
    | .ok settled =>
      match value with
      | some attached => (settled.accept rule attached).map .go
      | none => .ok (.go { settled with pending := some (rule, none) })
  | none =>
    match rules.notices.find? fun notice => notice.name == known with
    | none => .error (.unexpectedArgument ("--" ++ shown))
    | some notice =>
      match value with
      | some attached => .error (.unneededValue (Utf8.toStringLossy attached) notice)
      | none => stopAt state notice

/-- Read an argument from behind its single dash. Only its first letter counts, as every letter is
a flag that stops. -/
def readShort (rules : Rules) (state : State) (first : UInt8) (rest : Bytes) :
    Except UsageError Progress :=
  match Utf8.next first rest with
  | .illFormed _ =>
    .error (.unexpectedArgument ("-" ++ Utf8.toStringLossy (first :: rest)))
  | .character character _ =>
    match rules.notices.find? fun notice => notice.letter == character with
    | some notice => stopAt state notice
    | none => .error (.unexpectedArgument (String.ofList ['-', character]))

/-- Read an argument that is no option: the value that is still missing, or nothing known. -/
def readPlain (state : State) (argument : Bytes) : Except UsageError Progress :=
  match state.pending with
  | some (rule, none) => .ok (.go { state with pending := some (rule, some argument) })
  | some (_, some _) | none => .error (.unexpectedArgument (Utf8.toStringLossy argument))

/-- Read one argument. -/
def readArgument (rules : Rules) (state : State) (argument : Bytes) :
    Except UsageError Progress :=
  if state.ended then .error (.unexpectedArgument (Utf8.toStringLossy argument))
  else
    match argument with
    | first :: second :: rest =>
      if first = dash then
        if second = dash then
          match rest with
          | [] => .ok (.go { state with ended := true })
          | name => readLong rules state name
        else readShort rules state second rest
      else readPlain state argument
    | single => readPlain state single

/-- What a command line asks for. -/
inductive Request where
  | run (values : List (String × OptionValue))
  | notice (notice : Notice)

/-- Read arguments from a state on. -/
def readFrom (rules : Rules) (state : State) : List Bytes → Except UsageError Request
  | [] => state.settle.map fun settled => .run settled.found
  | argument :: later =>
    match readArgument rules state argument with
    | .error error => .error error
    | .ok (.stop notice) => .ok (.notice notice)
    | .ok (.go next) => readFrom rules next later

/-- Read a command line. -/
def read (rules : Rules) (arguments : List Bytes) : Except UsageError Request :=
  readFrom rules .initial arguments

end AgentKit.CommandLine
