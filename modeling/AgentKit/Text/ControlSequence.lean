import AgentKit.Text.Utf8
/-!
# Control sequences

Messages that quote what a caller typed leave out what would steer a terminal: single controls, and
sequences that begin with the escape character. A sequence is an escape with intermediates and a
final character, a control sequence with parameters, a command of the operating system, or a string
for a device.

A break between words shows also inside a sequence, unless that is a command or a string. What
follows it shows as well, up to the next control, behind which the sequence goes on.
-/
namespace AgentKit.ControlSequence

/-- Where in a sequence a reader stands. -/
inductive State where
  /-- Outside all sequences. -/
  | ground
  /-- Behind the escape character. -/
  | escape
  /-- Behind an intermediate of an escape. -/
  | intermediate
  /-- In the parameters of a control sequence. -/
  | parameters
  /-- In a command of the operating system. -/
  | command
  /-- At the start of what a device string begins with. -/
  | device
  /-- In the parameters of a device string. -/
  | deviceParameters
  /-- In the intermediates of a device string. -/
  | deviceIntermediate
  /-- In a string of any kind. -/
  | content
deriving DecidableEq, Repr

namespace State

/-- Behind the escape character comes the kind of the sequence, an intermediate, or its end. -/
def afterEscape (code : Nat) : State :=
  if code < 0x30 then .intermediate
  else
    match Char.ofNat code with
    | '[' => .parameters
    | ']' => .command
    | 'P' => .device
    | 'X' | '^' | '_' => .content
    | _ => .ground

/-- Pass a character below U+0080. A cancellation ends every sequence, and an escape begins another
one wherever it stands. -/
def next (state : State) (code : Nat) : State :=
  if code = 0x18 || code = 0x1A then .ground
  else if code = 0x1B then .escape
  else if code = 0x07 && state = .command then .ground
  else if code < 0x20 || code = 0x7F then state
  else
    match state with
    | .ground => .ground
    | .escape => afterEscape code
    | .intermediate => if code < 0x30 then .intermediate else .ground
    | .parameters => if code < 0x40 then .parameters else .ground
    | .command => .command
    | .device =>
      if code < 0x30 then .deviceIntermediate
      else if code < 0x40 then .deviceParameters
      else .content
    | .deviceParameters =>
      if code < 0x30 then .deviceIntermediate
      else if code < 0x3C then .deviceParameters
      else .content
    | .deviceIntermediate => if code < 0x30 then .deviceIntermediate else .content
    | .content => .content

/-- The octet that ends a string. It may be a part of a character. -/
def terminator : UInt8 := 0x9C

/-- Pass a character from U+0080 on, of which only the octets count. -/
def nextWide (state : State) (character : Char) : State :=
  if state = .content && (Utf8.encodeChar character).contains terminator then .ground else state

/-- Breaks between words are acted on here, so they show. -/
def showsBreaks : State → Bool
  | .ground | .escape | .intermediate | .parameters => true
  | .command | .device | .deviceParameters | .deviceIntermediate | .content => false

end State

/-- A tab, a line feed, a form feed or a carriage return. -/
def isBreak (code : Nat) : Bool := code == 0x09 || code == 0x0A || code == 0x0C || code == 0x0D

/-- A character below U+0080 that shows outside all sequences. -/
def isPlain (code : Nat) : Bool := (0x20 ≤ code && code < 0x7F) || isBreak code

/-- What shows of a text, for a state and whether the character before showed. -/
def shownFrom (shows : Bool) (state : State) : List Char → List Char
  | [] => []
  | character :: rest =>
    let code := character.toNat
    if 0x80 ≤ code then
      if shows || state = .ground then character :: shownFrom true .ground rest
      else shownFrom false (state.nextWide character) rest
    else if isPlain code && (shows || state = .ground || (isBreak code && state.showsBreaks)) then
      character :: shownFrom true state rest
    else shownFrom false (state.next code) rest

/-- What shows of a text. -/
def shown (text : String) : String := String.ofList (shownFrom false .ground text.toList)

end AgentKit.ControlSequence
