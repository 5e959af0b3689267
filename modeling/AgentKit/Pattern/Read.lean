import AgentKit.Pattern.Brackets
import AgentKit.Pattern.Group
/-!
# Reading a pattern

A pattern is a row of parts, sets and groups, with bars between alternatives; a mark behind a thing
repeats it. It is read from the left in one pass. What is kept is how deeply it is built, which has
a bound, and that all of it can be used in the modes at its place.

A repetition by numbers in braces is refused: a pattern stands in braces itself, so its own could
not be closed.
-/
namespace AgentKit.Pattern

/-- A group that is being read. -/
structure Level where
  /-- The depths of the alternatives in front of the last bar. -/
  alternatives : List Nat
  /-- The depths of the things behind it, the last one first. Switches have none. -/
  row : List (Option Nat)

namespace Level

/-- An opened group. -/
def fresh : Level := ⟨[], []⟩

/-- A group with one more thing. -/
def add (level : Level) (depth : Option Nat) : Level := { level with row := depth :: level.row }

/-- The depth of the last alternative. -/
def lastDepth (level : Level) : Nat := rowDepth (level.row.map fun depth => depth.getD 0)

/-- A group behind one more bar. -/
def split (level : Level) : Level := ⟨level.lastDepth :: level.alternatives, []⟩

/-- The depth of what has been read. -/
def depth (level : Level) : Nat := rowDepth (level.lastDepth :: level.alternatives)

/-- A group whose last thing is repeated. Switches and nothing cannot be repeated. -/
def repeat? (level : Level) : Option Level :=
  match level.row with
  | some depth :: before => some { level with row := some (depth + 1) :: before }
  | _ => none

end Level

/-- The marks that repeat what stands in front of them. -/
def isRepetition (character : Char) : Bool := ['?', '*', '+'].contains character

/-- Pass the mark that makes a repetition take as little as possible. -/
def passLazy : List Char → List Char
  | '?' :: rest => rest
  | other => other

theorem passLazy_length (text : List Char) : (passLazy text).length ≤ text.length := by
  unfold passLazy
  split
  · exact Nat.le_succ _
  · exact Nat.le_refl _

/-- Read a pattern from some place on: the modes there, the group, the groups around it with the
modes in front of them, and the names of groups so far. The answer is the depth of the pattern. -/
def readFrom (modes : Modes) (level : Level) (outer : List (Modes × Level))
    (names : List (List Char)) (text : List Char) : Option Nat :=
  match _text : skipSpace modes.spaced text with
  | [] => if outer.isEmpty then some level.depth else none
  | first :: rest =>
    if first = '(' then
      match _opened : readOpening modes.spaced rest with
      | none => none
      | some (.switches switches, after) =>
        readFrom (modes.switched switches) (level.add none) outer names after
      | some (.group switches name, after) =>
        if name.any names.contains then none
        else
          readFrom (modes.switched switches) .fresh ((modes, level) :: outer) (name.toList ++ names)
            after
    else if first = ')' then
      match outer with
      | [] => none
      | (before, parent) :: further =>
        readFrom before (parent.add (some (level.depth + 1))) further names rest
    else if first = '|' then readFrom modes level.split outer names rest
    else if first = '[' then
      match _set : readSet modes rest with
      | none => none
      | some (depth, after) => readFrom modes (level.add (some depth)) outer names after
    else if isRepetition first then
      match level.repeat? with
      | none => none
      | some repeated => readFrom modes repeated outer names (passLazy rest)
    else if first = '\x7b' then none
    else
      match _part : readPart modes.spaced first rest with
      | none => none
      | some (part, after) =>
        if modes.admits part then readFrom modes (level.add (some 0)) outer names after else none
termination_by text.length
decreasing_by
  all_goals have bound := skipSpace_rest_length _text
  · have inner := readOpening_length _opened
    omega
  · have inner := readOpening_length _opened
    omega
  · omega
  · omega
  · have inner := readSet_length _set
    omega
  · have inner := passLazy_length rest
    omega
  · have inner := readPart_length _part
    omega

/-- The greatest depth of a pattern. -/
def deepest : Nat := 250

/-- A text is a pattern that can be used. -/
def isPattern (text : List Char) : Bool :=
  (readFrom .initial .fresh [] [] text).any fun depth => depth ≤ deepest

end AgentKit.Pattern
