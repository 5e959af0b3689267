import AgentKit.Pattern.Modes
import AgentKit.Text.Letter
import AgentKit.Text.Number
/-!
# Groups of a pattern

Behind an opening parenthesis stands what kind of group it is: a plain one, one with a name, one
with switches for its inside, or no group at all but switches for what follows. Looking ahead or
back is no kind of group here.
-/
namespace AgentKit.Pattern

/-- What an opening parenthesis begins. -/
inductive Opening where
  /-- Switches for the rest of the group around it. -/
  | switches (switches : List Char)
  /-- A group, with switches for its inside. -/
  | group (switches : List Char) (name : Option (List Char))

/-- May stand in the name of a group. -/
def isNameCharacter (first : Bool) (character : Char) : Bool :=
  character == '_' || Text.isLetter character ||
    !first && (['.', '[', ']'].contains character || Text.isNumber character)

/-- Read the name of a group up to the angle that closes it. -/
def readName (first : Bool) : List Char → Option (List Char × List Char)
  | [] => none
  | character :: rest =>
    if character = '>' then some ([], rest)
    else if isNameCharacter first character then
      (readName false rest).map fun read => (character :: read.1, read.2)
    else none

theorem readName_length {first : Bool} {text name rest : List Char}
    (read : readName first text = some (name, rest)) : rest.length < text.length := by
  induction text generalizing first name with
  | nil => cases read
  | cons character tail induction =>
    unfold readName at read
    repeat' split at read
    · cases read
      simp
    · simp only [Option.map_eq_some_iff, Prod.mk.injEq] at read
      obtain ⟨⟨inner, after⟩, step, _, rfl⟩ := read
      exact Nat.lt_succ_of_lt (induction step)
    · cases read

/-- Read the name of a group that has to have one. -/
def readNamed (text : List Char) : Option (Opening × List Char) :=
  match readName true text with
  | none | some ([], _) => none
  | some (name, rest) => some (.group [] (some name), rest)

theorem readNamed_length {text rest : List Char} {opening : Opening}
    (read : readNamed text = some (opening, rest)) : rest.length < text.length := by
  unfold readNamed at read
  split at read
  · cases read
  · cases read
  · rename_i step
    cases read
    exact readName_length step

/-- Read what stands behind a parenthesis and a question mark. -/
def readKind (text : List Char) : Option (Opening × List Char) :=
  match text with
  | '=' :: _ | '!' :: _ | '<' :: '=' :: _ | '<' :: '!' :: _ => none
  | 'P' :: '<' :: named => readNamed named
  | '<' :: named => readNamed named
  | switched =>
    match readSwitches [] switched with
    | none => none
    | some (switches, mark, rest) =>
      if mark = ':' then some (.group switches none, rest)
      else if switches = [] then none
      else some (.switches switches, rest)

theorem readKind_length {text rest : List Char} {opening : Opening}
    (read : readKind text = some (opening, rest)) : rest.length < text.length := by
  unfold readKind at read
  split at read
  · cases read
  · cases read
  · cases read
  · cases read
  · have bound := readNamed_length read
    simp only [List.length_cons]
    omega
  · have bound := readNamed_length read
    simp only [List.length_cons]
    omega
  · split at read
    · cases read
    · rename_i step
      have bound := readSwitches_length step
      repeat' split at read
      all_goals cases read
      all_goals exact bound

/-- Read what stands behind an opening parenthesis. -/
def readOpening (spaced : Bool) (text : List Char) : Option (Opening × List Char) :=
  match skipSpace spaced text with
  | '?' :: rest => readKind rest
  | plain => some (.group [] none, plain)

theorem readOpening_length {spaced : Bool} {text rest : List Char} {opening : Opening}
    (read : readOpening spaced text = some (opening, rest)) : rest.length ≤ text.length := by
  unfold readOpening at read
  split at read
  · rename_i step
    have bound := skipSpace_rest_length step
    have inner := readKind_length read
    omega
  · cases read
    exact skipSpace_length spaced text

end AgentKit.Pattern
