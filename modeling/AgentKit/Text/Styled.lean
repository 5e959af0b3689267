import AgentKit.Text.ControlSequence
/-!
# Styled text

A text for a terminal is a list of pieces with their looks. Where looks are wanted, a piece stands
between the control sequences that switch its looks on and the one that switches everything off.
Otherwise only the text of a piece is left, or what shows of all pieces when also the control
sequences in their texts are to be left out.
-/
namespace AgentKit

/-- What a piece of text may look like. -/
inductive Look where
  | bold
  | dimmed
  | italic
  | underlined
  | red
  | green
  | yellow
  | blue
deriving DecidableEq, Repr

namespace Look

/-- The parameter that stands for a look in a control sequence. -/
def parameter : Look → String
  | .bold => "1"
  | .dimmed => "2"
  | .italic => "3"
  | .underlined => "4"
  | .red => "31"
  | .green => "32"
  | .yellow => "33"
  | .blue => "34"

/-- The control sequence that sets a parameter. -/
def sequence (parameter : String) : String := "\x1b[" ++ parameter ++ "m"

end Look

/-- A piece of text with its looks. -/
structure Piece where
  looks : List Look
  text : String
deriving DecidableEq, Repr

/-- A piece between its control sequences. Without looks there are none. -/
def Piece.marked (piece : Piece) : String :=
  if piece.looks = [] then piece.text
  else
    String.join (piece.looks.map fun look => Look.sequence look.parameter) ++ piece.text ++
      Look.sequence "0"

/-- A text in pieces. -/
abbrev Styled := List Piece

namespace Styled

/-- A text without looks. -/
def plain (text : String) : Styled := [⟨[], text⟩]

/-- A text with the same looks throughout. -/
def looking (looks : List Look) (text : String) : Styled := [⟨looks, text⟩]

/-- All pieces with their control sequences. -/
def marked (styled : Styled) : String := String.join (styled.map Piece.marked)

/-- The texts of all pieces as they are. -/
def bare (styled : Styled) : String := String.join (styled.map Piece.text)

/-- What shows of all pieces where no control sequence may pass. -/
def shown (styled : Styled) : String := ControlSequence.shown styled.marked

end Styled

end AgentKit
