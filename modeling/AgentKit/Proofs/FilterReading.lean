import AgentKit.Diagnostics.Filter
import AgentKit.Proofs.WrittenString

/-!
# Filters that are read

A piece of a filter is cut out of its octets at the positions of a reader that has left out the
blanks in front. So a cut can fall inside a character only if there are blanks in front. Without
any, the reader always stands between two characters, and the value of the variable gives a filter,
whatever else is wrong with it.
-/

namespace AgentKit

namespace Directive

/-- A position in the octets of a text that lies between two of its characters. -/
def Between (text : List Char) (position : Nat) : Prop :=
  ∃ front back, text = front ++ back ∧ position = (Utf8.encode front).length

variable {text : List Char}

/-- Such a position is no place inside a character. -/
theorem Between.isBoundary {position : Nat} (between : Between text position) :
    Directive.isBoundary (Utf8.encode text) position = true := by
  obtain ⟨front, back, rfl, rfl⟩ := between
  rw [Directive.isBoundary, Utf8.encode_append, List.getElem?_append_right (Nat.le_refl _),
    Nat.sub_self]
  cases back with
  | nil => rfl
  | cons character later =>
    obtain ⟨first, tail, octets, lead, _⟩ := Utf8.encodeChar_shape character
    rw [Utf8.encode_cons, octets]
    simp [lead]

/-- A cut between two such positions is made. -/
theorem piece_cut {start stop : Nat} (begins : Between text start) (ends : Between text stop) :
    ∃ cut, piece (Utf8.encode text) start stop = .ok cut := by
  rw [piece, begins.isBoundary, ends.isBoundary]
  exact ⟨_, rfl⟩

/-- The current piece of a reader starts between two characters. -/
def State.Placed (text : List Char) : State → Prop
  | .levelOrTarget first | .span first | .field first | .level first => Between text first
  | .start | .fields | .target => True

/-- A reader goes on with a piece that starts between two characters, or the text is malformed. -/
def GoesOn (text : List Char) : Except FilterFault (State × Directive) → Prop
  | .ok (next, _) => next.Placed text
  | .error fault => fault = .malformed

/-- The text of a field is refused as malformed, if at all. -/
theorem field_fault {text : String} {fault : FilterFault} (refused : field text = .error fault) :
    fault = .malformed := by
  rw [field] at refused
  split at refused
  · exact (Except.error.inj refused).symm
  · split at refused
    · cases refused
    · split at refused
      · cases refused
      · exact (Except.error.inj refused).symm

/-- Passing one character keeps the reader between characters. -/
theorem step_goesOn (state : State) (draft : Directive) (front back : List Char) (character : Char)
    (placed : state.Placed (front ++ character :: back)) :
    GoesOn (front ++ character :: back)
      (step (Utf8.encode (front ++ character :: back)) state draft (Utf8.encode front).length
        character) := by
  have here : Between (front ++ character :: back) (Utf8.encode front).length :=
    ⟨front, character :: back, rfl, rfl⟩
  have behind (ascii : character.toNat < 0x80) :
      Between (front ++ character :: back) ((Utf8.encode front).length + 1) := by
    refine ⟨front ++ [character], back, by simp, ?_⟩
    rw [Utf8.encode_append, List.length_append,
      Utf8.encode_ascii [character] (by simpa using ascii)]
    rfl
  cases state with
  | start =>
    rw [step]
    split
    next opens => exact behind (by rw [opens]; decide)
    · split
      · exact here
      · rfl
  | levelOrTarget start =>
    obtain ⟨cut, made⟩ := piece_cut (show Between _ start from placed) here
    rw [step, made]
    split
    next ends => exact behind (by rw [ends]; decide)
    · split
      next opens => exact behind (by rw [opens]; decide)
      · exact placed
  | span start =>
    obtain ⟨cut, made⟩ := piece_cut (show Between _ start from placed) here
    rw [step, made]
    split
    · trivial
    · split
      next opens => exact behind (by rw [opens]; decide)
      · exact placed
  | field start =>
    obtain ⟨cut, made⟩ := piece_cut (show Between _ start from placed) here
    rw [step, made]
    split
    · change GoesOn _ ((field cut).bind fun found =>
        .ok (State.fields, { draft with fields := draft.fields ++ [found] }))
      cases named : field cut with
      | error fault => exact field_fault named
      | ok found => trivial
    · exact placed
  | fields =>
    rw [step]
    split
    · trivial
    · rfl
  | target =>
    rw [step]
    split
    next ends => exact behind (by rw [ends]; decide)
    · rfl
  | level start => exact placed

/-- So does passing many.

Induct over the characters that are still to be passed, with those behind the reader in front. -/
theorem run_goesOn (back : List Char) (rest : List Char) (front : List Char) (state : State)
    (draft : Directive) (placed : state.Placed (front ++ (rest ++ back))) :
    GoesOn (front ++ (rest ++ back))
      (run (Utf8.encode (front ++ (rest ++ back))) state draft (Utf8.encode front).length
        rest) := by
  induction rest generalizing front state draft with
  | nil => exact placed
  | cons character later inductionHypothesis =>
    have first := step_goesOn state draft front (later ++ back) character placed
    rw [List.cons_append, run]
    cases passed : step (Utf8.encode (front ++ character :: (later ++ back))) state draft
        (Utf8.encode front).length character with
    | error fault =>
      rw [passed] at first
      exact first
    | ok next =>
      rw [passed] at first
      have shift : front ++ character :: (later ++ back) =
          (front ++ [character]) ++ (later ++ back) := by simp
      have length : (Utf8.encode front).length + (Utf8.encodeChar character).length =
          (Utf8.encode (front ++ [character])).length := by
        rw [Utf8.encode_append, List.length_append]
        simp [Utf8.encode]
      simp only [length]
      rw [shift] at first ⊢
      exact inductionHypothesis (front ++ [character]) next.1 next.2 first

/-- A reader between characters refuses a text as malformed, if at all. -/
theorem finish_fault {state : State} {draft : Directive} {fault : FilterFault}
    (placed : state.Placed text)
    (refused : finish (Utf8.encode text) state draft = .error fault) : fault = .malformed := by
  have ends : Between text (Utf8.encode text).length := ⟨text, [], by simp, rfl⟩
  cases state with
  | levelOrTarget start =>
    obtain ⟨cut, made⟩ := piece_cut (show Between text start from placed) ends
    rw [finish, made] at refused
    dsimp only [bind, Except.bind] at refused
    split at refused <;> cases refused
  | level start =>
    obtain ⟨cut, made⟩ := piece_cut (show Between text start from placed) ends
    rw [finish, made] at refused
    dsimp only [bind, Except.bind] at refused
    split at refused
    · cases refused
    · split at refused
      · cases refused
      · exact (Except.error.inj refused).symm
  | start => exact (Except.error.inj refused).symm
  | span start => exact (Except.error.inj refused).symm
  | field start => exact (Except.error.inj refused).symm
  | fields => exact (Except.error.inj refused).symm
  | target => cases refused

/-- Without blanks in front only blanks at the end are left out. -/
theorem trimmed_front {characters : List Char}
    (solid : ∀ character, characters.head? = some character → Text.isBlank character = false) :
    ∃ back, characters = trimmed characters ++ back := by
  have kept : characters.dropWhile Text.isBlank = characters := by
    cases characters with
    | nil => rfl
    | cons character later =>
      rw [List.dropWhile_cons, solid character rfl]
      rfl
  rw [trimmed, kept]
  obtain ⟨front, whole⟩ : characters.reverse.dropWhile Text.isBlank <:+ characters.reverse :=
    List.dropWhile_suffix _
  exact ⟨front.reverse, by simpa using congrArg List.reverse whole.symm⟩

/-- A text without blanks in front is refused as malformed, if at all. -/
theorem read_fault {text : String} {fault : FilterFault}
    (solid : ∀ character, text.toList.head? = some character → Text.isBlank character = false)
    (refused : read text = .error fault) : fault = .malformed := by
  obtain ⟨back, whole⟩ := trimmed_front solid
  have passed := run_goesOn back (trimmed text.toList) [] .start empty trivial
  rw [List.nil_append, ← whole] at passed
  change GoesOn _ (run (Utf8.ofString text) .start empty 0 (trimmed text.toList)) at passed
  rw [read] at refused
  cases ended : run (Utf8.ofString text) .start empty 0 (trimmed text.toList) with
  | error cause =>
    rw [ended] at passed refused
    exact (Except.error.inj refused).symm.trans passed
  | ok reached =>
    rw [ended] at passed refused
    exact finish_fault passed refused

end Directive

namespace Filter

/-- No piece of a text begins with a blank. -/
def Solid (text : String) : Prop :=
  ∀ piece ∈ pieces text, ∀ character, piece.head? = some character →
    Text.isBlank character = false

/-- A list is refused for the fault of one of its pieces. -/
theorem mapM_fault {α β : Type} {read : α → Except FilterFault β} {pieces : List α}
    {fault : FilterFault} (refused : pieces.mapM read = .error fault) :
    ∃ piece ∈ pieces, read piece = .error fault := by
  induction pieces with
  | nil => cases refused
  | cons piece later inductionHypothesis =>
    rw [List.mapM_cons] at refused
    cases taken : read piece with
    | error cause =>
      rw [taken] at refused
      exact ⟨piece, List.mem_cons_self, taken.trans (congrArg _ (Except.error.inj refused))⟩
    | ok value =>
      cases others : later.mapM read with
      | error cause =>
        rw [taken, others] at refused
        obtain ⟨other, member, found⟩ :=
          inductionHypothesis (others.trans (congrArg _ (Except.error.inj refused)))
        exact ⟨other, List.mem_cons_of_mem _ member, found⟩
      | ok values =>
        rw [taken, others] at refused
        cases refused

/-- A filter of which no piece begins with a blank is refused as malformed, if at all. -/
theorem read_fault {text : String} {fault : FilterFault} (solid : Solid text)
    (refused : read text = .error fault) : fault = .malformed := by
  rw [read] at refused
  cases taken : ((pieces text).filter fun piece => !piece.isEmpty).mapM
      (fun piece => Directive.read (String.ofList piece)) with
  | error cause =>
    rw [taken] at refused
    obtain ⟨piece, member, found⟩ :=
      mapM_fault (taken.trans (congrArg _ (Except.error.inj refused)))
    refine Directive.read_fault ?_ found
    rw [String.toList_ofList]
    exact solid piece (List.mem_filter.mp member).1
  | ok directives =>
    rw [taken] at refused
    cases refused

/-- The value of the variable gives a filter if no piece of it begins with a blank, whatever else is
wrong with it: if it is absent, no text, or malformed. -/
theorem ofVariable?_isSome {value : Option Bytes}
    (solid : ∀ text, value.bind Utf8.toString? = some text → Solid text) :
    (ofVariable? value).isSome := by
  cases held : value.bind Utf8.toString? with
  | none =>
    rw [ofVariable?, held]
    rfl
  | some text =>
    simp only [ofVariable?, held]
    cases taken : read text with
    | ok filter => rfl
    | error fault =>
      obtain rfl := read_fault (solid text held) taken
      rfl

end Filter

end AgentKit
