import AgentKit.Text.Blank
/-!
# Modes of a pattern

Switches in a pattern change how the rest of a group is read. Three of them matter for the question
whether the pattern can be used: blanks may stand between parts, letters may stand for both their
cases, and a pattern is wide, over all characters, or narrow, over those of ASCII.

A wide pattern is refused where it asks for a table of characters: for the cases of a character, for
the characters of words, and for digits and blanks. A narrow one has these in ASCII, and is refused
where it could match a piece of a character.
-/
namespace AgentKit.Pattern

/-- How a pattern is read from some place on. -/
structure Modes where
  /-- Blanks and comments may stand between parts. -/
  spaced : Bool
  /-- Letters stand for both their cases. -/
  folded : Bool
  /-- The pattern is about all characters, and not only about those of ASCII. -/
  wide : Bool
deriving DecidableEq, Repr

/-- How a pattern begins. -/
def Modes.initial : Modes := ⟨false, false, true⟩

/-- The letters of switches, and the dash that turns off those behind it. -/
def switchMarks : List Char := "-imsUuRx".toList

/-- What switches say about one letter. -/
def switch? (switches : List Char) (letter : Char) : Option Bool :=
  if switches.contains letter then
    some (!(switches.takeWhile fun mark => mark != letter).contains '-')
  else none

/-- The modes behind switches. -/
def Modes.switched (modes : Modes) (switches : List Char) : Modes where
  spaced := (switch? switches 'x').getD modes.spaced
  folded := (switch? switches 'i').getD modes.folded
  wide := (switch? switches 'u').getD modes.wide

/-- Read switches up to a colon or a closing parenthesis, which is given too. None is repeated, and
the dash is not the last one. -/
def readSwitches (seen : List Char) : List Char → Option (List Char × Char × List Char)
  | [] => none
  | mark :: rest =>
    if mark = ':' || mark = ')' then
      if seen.head? = some '-' then none else some (seen.reverse, mark, rest)
    else if switchMarks.contains mark && !seen.contains mark then readSwitches (mark :: seen) rest
    else none

theorem readSwitches_length {seen text switches rest : List Char} {mark : Char}
    (found : readSwitches seen text = some (switches, mark, rest)) :
    rest.length < text.length := by
  fun_induction readSwitches seen text with
  | case1 => cases found
  | case2 => cases found
  | case3 => cases found; simp
  | case4 _ _ _ _ _ induction =>
    have bound := induction found
    simp only [List.length_cons]
    omega
  | case5 => cases found

/-- The text behind blanks and comments. A comment ends with its line. -/
def behindSpace (comment : Bool) : List Char → List Char
  | [] => []
  | character :: rest =>
    if comment then behindSpace (character != '\n') rest
    else if Text.isBlank character then behindSpace false rest
    else if character = '#' then behindSpace true rest
    else character :: rest

theorem behindSpace_length (comment : Bool) (text : List Char) :
    (behindSpace comment text).length ≤ text.length := by
  fun_induction behindSpace comment text with
  | case1 => exact Nat.le_refl _
  | case2 => rename_i induction; exact Nat.le_succ_of_le induction
  | case3 => rename_i induction; exact Nat.le_succ_of_le induction
  | case4 => rename_i induction; exact Nat.le_succ_of_le induction
  | case5 => exact Nat.le_refl _

/-- The text from the next part on. -/
def skipSpace (spaced : Bool) (text : List Char) : List Char :=
  if spaced then behindSpace false text else text

theorem skipSpace_length (spaced : Bool) (text : List Char) :
    (skipSpace spaced text).length ≤ text.length := by
  unfold skipSpace
  split
  · exact behindSpace_length false text
  · exact Nat.le_refl _

theorem skipSpace_rest_length {spaced : Bool} {text rest : List Char} {first : Char}
    (step : skipSpace spaced text = first :: rest) : rest.length < text.length := by
  have bound := skipSpace_length spaced text
  rw [step, List.length_cons] at bound
  exact bound

/-- The first character that is neither a blank nor the mark of a comment. Of a comment only the
mark is passed. -/
def firstInk? (comment : Bool) : List Char → Option Char
  | [] => none
  | character :: rest =>
    if Text.isBlank character then firstInk? comment rest
    else if !comment && character = '#' then firstInk? true rest
    else some character

/-- The character that comes next, as a look ahead takes it. -/
def peek? (spaced : Bool) (text : List Char) : Option Char :=
  if spaced then (firstInk? false text).or text.head? else text.head?

end AgentKit.Pattern
