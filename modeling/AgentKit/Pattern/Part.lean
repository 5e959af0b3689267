import AgentKit.Pattern.Modes
import AgentKit.Text.Numeral
/-!
# Parts of a pattern

A part stands for one place in a text: a character, any of several characters, or an edge. Outside
brackets most characters stand for themselves; a backslash takes the meaning from a character that
has one, and gives one to some letters.
-/
namespace AgentKit.Pattern

/-- A part of a pattern. -/
inductive Part where
  /-- A character. It may be written as the number of an octet. -/
  | literal (character : Char) (octet : Bool)
  /-- Any character. -/
  | any
  /-- A digit, a blank or a character of words, or one that is not. -/
  | kind (negated : Bool)
  /-- An edge of a line or of the text. -/
  | edge
  /-- An edge of a word, or a place that is none. -/
  | wordEdge
deriving DecidableEq, Repr

/-- A part can be used outside brackets. -/
def Modes.admits (modes : Modes) : Part → Bool
  | .literal character octet =>
    if modes.wide then !modes.folded else !octet || character.toNat < 0x80
  | .any => modes.wide
  | .kind negated => !modes.wide && !negated
  | .edge => true
  | .wordEdge => !modes.wide

/-- A part can be used in brackets. -/
def Modes.admitsMember (modes : Modes) : Part → Bool
  | .literal character _ => if modes.wide then !modes.folded else character.toNat < 0x80
  | .kind negated => !modes.wide && !negated
  | .any | .edge | .wordEdge => false

/-- Read a number of hexadecimal digits. -/
def readHex (spaced : Bool) : Nat → Nat → List Char → Option (Nat × List Char)
  | 0, number, text => some (number, text)
  | count + 1, number, text =>
    match skipSpace spaced text with
    | [] => none
    | digit :: rest =>
      match Numeral.hexValue? digit with
      | none => none
      | some value => readHex spaced count (number * 16 + value) rest

theorem readHex_length {spaced : Bool} {count number found : Nat} {text rest : List Char}
    (read : readHex spaced count number text = some (found, rest)) :
    rest.length ≤ text.length := by
  fun_induction readHex spaced count number text with
  | case1 => cases read; exact Nat.le_refl _
  | case2 => cases read
  | case3 => cases read
  | case4 count number text digit tail step value _ induction =>
    have bound := skipSpace_rest_length step
    have inner := induction read
    omega

/-- Read a character by a number of hexadecimal digits. -/
def readNumber (spaced : Bool) (digits : Nat) (text : List Char) : Option (Part × List Char) :=
  match readHex spaced digits 0 text with
  | none => none
  | some (number, rest) =>
    if number.isValidChar then some (.literal (Char.ofNat number) (digits == 2), rest) else none

theorem readNumber_length {spaced : Bool} {digits : Nat} {part : Part} {text rest : List Char}
    (read : readNumber spaced digits text = some (part, rest)) : rest.length ≤ text.length := by
  unfold readNumber at read
  split at read
  · cases read
  · rename_i step
    split at read
    · cases read
      exact readHex_length step
    · cases read

/-- A character that stands for itself behind a backslash: any of ASCII but letters, digits and the
two angles. -/
def isEscapable (character : Char) : Bool :=
  character.toNat < 0x80 && !character.isAlphanum && character != '<' && character != '>'

/-- The meaning of a letter or an angle behind a backslash. Properties of characters and references
to groups have none here. -/
def meaning? (letter : Char) : Option Part :=
  match letter with
  | 'a' => some (.literal '\x07' false)
  | 'f' => some (.literal '\x0C' false)
  | 'n' => some (.literal '\n' false)
  | 'r' => some (.literal '\r' false)
  | 't' => some (.literal '\t' false)
  | 'v' => some (.literal '\x0B' false)
  | 'd' | 's' | 'w' => some (.kind false)
  | 'D' | 'S' | 'W' => some (.kind true)
  | 'A' | 'z' => some .edge
  | 'b' | 'B' | '<' | '>' => some .wordEdge
  | _ => none

/-- Read what follows a backslash. -/
def readEscape (spaced : Bool) : List Char → Option (Part × List Char)
  | [] => none
  | letter :: rest =>
    if letter = 'x' then readNumber spaced 2 rest
    else if letter = 'u' then readNumber spaced 4 rest
    else if letter = 'U' then readNumber spaced 8 rest
    else if isEscapable letter then some (.literal letter false, rest)
    else (meaning? letter).map fun part => (part, rest)

theorem readEscape_length {spaced : Bool} {part : Part} {text rest : List Char}
    (read : readEscape spaced text = some (part, rest)) : rest.length ≤ text.length := by
  unfold readEscape at read
  repeat' split at read
  · cases read
  · exact Nat.le_succ_of_le (readNumber_length read)
  · exact Nat.le_succ_of_le (readNumber_length read)
  · exact Nat.le_succ_of_le (readNumber_length read)
  · cases read
    exact Nat.le_succ _
  · simp only [Option.map_eq_some_iff, Prod.mk.injEq] at read
    obtain ⟨_, _, _, rfl⟩ := read
    exact Nat.le_succ _

/-- Read a part outside brackets. -/
def readPart (spaced : Bool) (first : Char) (rest : List Char) : Option (Part × List Char) :=
  if first = '\\' then readEscape spaced rest
  else if first = '.' then some (.any, rest)
  else if first = '^' || first = '$' then some (.edge, rest)
  else some (.literal first false, rest)

theorem readPart_length {spaced : Bool} {first : Char} {part : Part} {text rest : List Char}
    (read : readPart spaced first text = some (part, rest)) : rest.length ≤ text.length := by
  unfold readPart at read
  repeat' split at read
  · exact readEscape_length read
  all_goals cases read; exact Nat.le_refl _

/-- Read a part in brackets. -/
def readMember (spaced : Bool) (first : Char) (rest : List Char) : Option (Part × List Char) :=
  if first = '\\' then readEscape spaced rest else some (.literal first false, rest)

theorem readMember_length {spaced : Bool} {first : Char} {part : Part} {text rest : List Char}
    (read : readMember spaced first text = some (part, rest)) : rest.length ≤ text.length := by
  unfold readMember at read
  split at read
  · exact readEscape_length read
  · cases read
    exact Nat.le_refl _

end AgentKit.Pattern
