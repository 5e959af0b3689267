import AgentKit.Text.Hidden
import AgentKit.Text.Utf8
/-!
# Quoting for people

Messages show a string between quotes with every character visible: the common controls by a
letter, and a character that has no picture of its own by its number.
-/
namespace AgentKit.Visible

/-- A character as it appears between quotes. -/
def visible (character : Char) : List Char :=
  match character with
  | '"' => ['\\', '"']
  | '\\' => ['\\', '\\']
  | '\n' => ['\\', 'n']
  | '\t' => ['\\', 't']
  | '\r' => ['\\', 'r']
  | '\x00' => ['\\', '0']
  | other =>
    if Text.isHidden other then '\\' :: 'u' :: '{' :: Nat.toDigits 16 other.toNat ++ ['}']
    else [other]

/-- A text between quotes. -/
def quote (text : String) : String :=
  String.ofList ('"' :: text.toList.flatMap visible ++ ['"'])

/-- An octet that belongs to no character, by its number. -/
def visibleOctet (octet : UInt8) : List Char :=
  ['\\', 'x'] ++ (Nat.toDigits 16 octet.toNat).map Char.toUpper

/-- The octets of a text between quotes, read character by character. -/
def visibleOctets : Bytes → List Char
  | [] => []
  | first :: rest =>
    match _step : Utf8.next first rest with
    | .character character after => visible character ++ visibleOctets after
    | .illFormed after =>
      let part := (first :: rest).take (rest.length + 1 - after.length)
      part.flatMap visibleOctet ++ visibleOctets after
termination_by octets => octets.length
decreasing_by
  all_goals
    have bound := Utf8.next_rest_length first rest
    rw [_step] at bound
    simp only [Utf8.Decoded.rest] at bound
    simp only [List.length_cons]
    omega

/-- Any octets between quotes. -/
def quoteOctets (octets : Bytes) : String :=
  String.ofList ('"' :: visibleOctets octets ++ ['"'])

end AgentKit.Visible
