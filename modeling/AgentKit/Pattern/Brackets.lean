import AgentKit.Pattern.Part
/-!
# Sets of characters in brackets

A set lists characters, ranges, classes with a name, and further sets, and two operands may stand
around an operator. A dash that is first or last, and a bracket that would close a set without
members, stand for themselves.

Only two things about a set are kept: that its members can be used in the modes at its place, and
how deeply it is built.
-/
namespace AgentKit.Pattern

/-- The depth of things in a row: nothing has none, one thing has its own, and more of them are
built into a row. -/
def rowDepth : List Nat → Nat
  | [] => 0
  | [single] => single
  | depths => depths.foldl max 0 + 1

/-- A set that is being read. -/
structure SetLevel where
  /-- The depth of what stands in front of the last operator. -/
  operand : Option Nat
  /-- The depths of the members behind it. -/
  members : List Nat
  /-- Nothing but dashes has been read. -/
  leading : Bool

namespace SetLevel

/-- An opened set. -/
def fresh : SetLevel := ⟨none, [], true⟩

/-- A set with one more member. -/
def add (level : SetLevel) (depth : Nat) : SetLevel :=
  { level with members := depth :: level.members, leading := false }

/-- A set with one more dash at its front. -/
def addDash (level : SetLevel) : SetLevel := { level with members := 0 :: level.members }

/-- The depth of what has been read. -/
def depth (level : SetLevel) : Nat :=
  match level.operand with
  | none => rowDepth level.members
  | some operand => max operand (rowDepth level.members) + 1

/-- A set behind an operator. -/
def split (level : SetLevel) : SetLevel := ⟨some level.depth, [], false⟩

end SetLevel

/-- The names of classes. -/
def classNames : List String :=
  ["alnum", "alpha", "ascii", "blank", "cntrl", "digit", "graph", "lower", "print", "punct",
    "space", "upper", "word", "xdigit"]

/-- Read the name of a class and the colon and the bracket behind it. -/
def readClassName? (text : List Char) : Option (List Char) :=
  let name := text.takeWhile fun character => character != ':'
  match text.drop name.length with
  | ':' :: ']' :: rest => if classNames.contains (String.ofList name) then some rest else none
  | _ => none

theorem readClassName?_length {text rest : List Char} (read : readClassName? text = some rest) :
    rest.length ≤ text.length := by
  unfold readClassName? at read
  dsimp only at read
  split at read
  · rename_i step
    have whole := congrArg List.length step
    simp only [List.length_drop, List.length_cons] at whole
    split at read
    · cases read
      omega
    · cases read
  · cases read

/-- Read a class with a name from behind its bracket. The answer says whether it is negated. -/
def readClass? : List Char → Option (Bool × List Char)
  | ':' :: '^' :: text => (readClassName? text).map fun rest => (true, rest)
  | ':' :: text => (readClassName? text).map fun rest => (false, rest)
  | _ => none

theorem readClass?_length {text rest : List Char} {negated : Bool}
    (read : readClass? text = some (negated, rest)) : rest.length < text.length := by
  unfold readClass? at read
  split at read
  · simp only [Option.map_eq_some_iff, Prod.mk.injEq] at read
    obtain ⟨_, named, _, rfl⟩ := read
    have bound := readClassName?_length named
    simp only [List.length_cons]
    omega
  · simp only [Option.map_eq_some_iff, Prod.mk.injEq] at read
    obtain ⟨_, named, _, rfl⟩ := read
    have bound := readClassName?_length named
    simp only [List.length_cons]
    omega
  · cases read

/-- A class with a name can be used. -/
def Modes.admitsClass (modes : Modes) (negated : Bool) : Bool :=
  if modes.wide then !modes.folded else !negated

/-- Pass the mark that negates a set. -/
def passNegation (modes : Modes) (text : List Char) : Option (List Char) :=
  match skipSpace modes.spaced text with
  | '^' :: rest => if modes.wide then some rest else none
  | other => some other

theorem passNegation_length {modes : Modes} {text rest : List Char}
    (passed : passNegation modes text = some rest) : rest.length ≤ text.length := by
  have bound := skipSpace_length modes.spaced text
  unfold passNegation at passed
  split at passed
  · rename_i step
    rw [step, List.length_cons] at bound
    split at passed <;> cases passed
    omega
  · cases passed
    exact bound

/-- Both ends of a range are characters, and in order. -/
def isRange : Part → Part → Bool
  | .literal first _, .literal last _ => first ≤ last
  | _, _ => false

/-- Read the end of a range whose start is given. -/
def readRangeEnd (modes : Modes) (start : Part) (text : List Char) : Option (List Char) :=
  match skipSpace modes.spaced text with
  | [] => none
  | first :: rest =>
    match readMember modes.spaced first rest with
    | none => none
    | some (final, after) =>
      if modes.admitsMember final && isRange start final then some after else none

theorem readRangeEnd_length {modes : Modes} {start : Part} {text rest : List Char}
    (read : readRangeEnd modes start text = some rest) : rest.length ≤ text.length := by
  unfold readRangeEnd at read
  split at read
  · cases read
  · rename_i step
    have bound := skipSpace_rest_length step
    split at read
    · cases read
    · rename_i inner
      have member := readMember_length inner
      split at read <;> cases read
      omega

/-- Read a member or a range. A dash makes a range unless a closing bracket or another dash comes
behind it. -/
def readRange (modes : Modes) (first : Char) (rest : List Char) : Option (List Char) :=
  match readMember modes.spaced first rest with
  | none => none
  | some (member, after) =>
    if !modes.admitsMember member then none
    else
      match skipSpace modes.spaced after with
      | '-' :: behind =>
        let ahead := peek? modes.spaced behind
        if ahead = some ']' || ahead = some '-' then some ('-' :: behind)
        else readRangeEnd modes member behind
      | other => some other

theorem readRange_length {modes : Modes} {first : Char} {text rest : List Char}
    (read : readRange modes first text = some rest) : rest.length ≤ text.length := by
  unfold readRange at read
  split at read
  · cases read
  · rename_i member after inner
    have outer := readMember_length inner
    have bound := skipSpace_length modes.spaced after
    split at read
    · cases read
    · split at read
      · rename_i step
        rw [step, List.length_cons] at bound
        dsimp only at read
        split at read
        · cases read
          simp only [List.length_cons]
          omega
        · have final := readRangeEnd_length read
          omega
      · cases read
        omega

/-- The doubled characters that stand between two operands. -/
def isOperator (first : Char) (rest : List Char) : Bool :=
  (first == '&' || first == '-' || first == '~') && rest.head? == some first

/-- Read sets up to the bracket that closes the outermost one, and give its depth. -/
def readSets (modes : Modes) (level : SetLevel) (outer : List SetLevel) (text : List Char) :
    Option (Nat × List Char) :=
  match _text : skipSpace modes.spaced text with
  | [] => none
  | first :: rest =>
    if level.leading && first = '-' then
      if modes.admitsMember (.literal '-' false) then readSets modes level.addDash outer rest
      else none
    else if level.leading && level.members.isEmpty && first = ']' then
      if modes.admitsMember (.literal ']' false) then readSets modes (level.add 0) outer rest
      else none
    else if first = ']' then
      match outer with
      | [] => some (level.depth + 1, rest)
      | parent :: further => readSets modes (parent.add (level.depth + 1)) further rest
    else if first = '[' then
      match _class : readClass? rest with
      | some (negated, after) =>
        if modes.admitsClass negated then readSets modes (level.add 0) outer after else none
      | none =>
        match _opened : passNegation modes rest with
        | some after => readSets modes .fresh (level :: outer) after
        | none => none
    else if isOperator first rest then readSets modes level.split outer rest.tail
    else
      match _range : readRange modes first rest with
      | some after => readSets modes (level.add 0) outer after
      | none => none
termination_by text.length
decreasing_by
  all_goals have bound := skipSpace_rest_length _text
  · omega
  · omega
  · omega
  · have inner := readClass?_length _class
    omega
  · have inner := passNegation_length _opened
    omega
  · rw [List.length_tail]
    omega
  · have inner := readRange_length _range
    omega

theorem readSets_length {modes : Modes} {level : SetLevel} {outer : List SetLevel} {depth : Nat}
    {text rest : List Char} (read : readSets modes level outer text = some (depth, rest)) :
    rest.length < text.length := by
  fun_induction readSets modes level outer text
  case case1 | case3 | case5 | case9 | case11 | case14 => cases read
  case case2 step _ _ induction | case4 step _ _ _ induction | case7 step _ _ induction =>
    have bound := skipSpace_rest_length step
    have inner := induction read
    omega
  case case6 step _ _ =>
    cases read
    exact skipSpace_rest_length step
  case case8 named _ step _ _ _ induction =>
    have bound := skipSpace_rest_length step
    have taken := readClass?_length named
    have inner := induction read
    omega
  case case10 opened step _ _ _ induction =>
    have bound := skipSpace_rest_length step
    have taken := passNegation_length opened
    have inner := induction read
    omega
  case case12 step _ _ _ _ _ induction =>
    have bound := skipSpace_rest_length step
    have inner := induction read
    rw [List.length_tail] at inner
    omega
  case case13 step _ _ _ _ _ _ ranged induction =>
    have bound := skipSpace_rest_length step
    have taken := readRange_length ranged
    have inner := induction read
    omega

/-- Read a set from behind its opening bracket, and give its depth. -/
def readSet (modes : Modes) (text : List Char) : Option (Nat × List Char) :=
  match passNegation modes text with
  | none => none
  | some after => readSets modes .fresh [] after

theorem readSet_length {modes : Modes} {depth : Nat} {text rest : List Char}
    (read : readSet modes text = some (depth, rest)) : rest.length < text.length := by
  unfold readSet at read
  split at read
  · cases read
  · rename_i step
    have first := passNegation_length step
    have second := readSets_length read
    omega

end AgentKit.Pattern
