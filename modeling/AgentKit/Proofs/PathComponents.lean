import AgentKit.Proofs.PathPieces
import Mathlib.Data.List.Basic
import Mathlib.Data.Option.Basic

/-!
# Components of a path

The components of a path are its lead, which is the root or a first step on the spot, and the loud
pieces behind it, in their order. So paths with the same components differ in silent pieces only. A
name is joined to the loud pieces, and the parent leaves out the last of them; where nothing silent
stands at the end of a path, the lead and the loud pieces tell what its parent is.
-/

namespace AgentKit.Path

/-- What a path begins with, if that is a component of its own kind. -/
def lead (path : Path) : Option Component :=
  if path.isAbsolute then some .root
  else if (split path.octets).head? = some Path.here then some .here
  else none

/-- The pieces with a component of their own. -/
def loud (path : Path) : List Bytes := (split path.octets).filter fun piece => !isSilent piece

/-- The component of a loud piece. -/
def spoken (piece : Bytes) : Component := if piece = Path.above then .above else .name piece

/-- The piece that a component was made of, unless it is a lead. -/
def piece? : Component → Option Bytes
  | .root | .here => none
  | .above => some Path.above
  | .name octets => some octets

theorem piece?_spoken (piece : Bytes) : piece? (spoken piece) = some piece := by
  rw [spoken]
  split
  next up => rw [up, piece?]
  next => rfl

theorem isSilent_iff {piece : Bytes} :
    isSilent piece = true ↔ piece = [] ∨ piece = Path.here := by
  simp [isSilent]

theorem isSilent_eq_false {piece : Bytes} :
    isSilent piece = false ↔ piece ≠ [] ∧ piece ≠ Path.here := by
  simp [isSilent]

/-- A piece has the component that it speaks, unless it is silent. -/
theorem component?_eq (piece : Bytes) :
    component? piece = if isSilent piece then none else some (spoken piece) := by
  simp only [component?, spoken, isSilent_iff]
  repeat' split
  all_goals rfl

/-- The components of pieces are those of the loud ones. -/
theorem filterMap_component? (pieces : List Bytes) :
    pieces.filterMap component? =
      (pieces.filter fun piece => !isSilent piece).map spoken := by
  induction pieces with
  | nil => rfl
  | cons piece later inductionHypothesis =>
    rw [List.filterMap_cons, component?_eq, List.filter_cons, inductionHypothesis]
    cases isSilent piece <;> rfl

/-- The lead, told from the pieces. -/
theorem lead_eq {path : Path} {first : Bytes} {later : List Bytes}
    (pieces : split path.octets = first :: later) :
    path.lead = if first = [] ∧ later ≠ [] then some .root
      else if first = Path.here then some .here else none := by
  have absolute : path.isAbsolute = true ↔ first = [] ∧ later ≠ [] := by
    rw [isAbsolute_iff, pieces]
    constructor
    · rintro ⟨_, some, same⟩
      cases same
      exact ⟨rfl, some⟩
    · rintro ⟨rfl, some⟩
      exact ⟨later, some, rfl⟩
  simp only [lead, absolute, pieces, List.head?_cons, Option.some.injEq]

/-- An absolute path is one that the root leads. -/
theorem lead_eq_root (path : Path) : path.lead = some .root ↔ path.isAbsolute = true := by
  unfold lead
  repeat' split
  all_goals simp_all

/-- The components are the lead and then those of the loud pieces. -/
theorem components_eq (path : Path) :
    path.components = path.lead.toList ++ path.loud.map spoken := by
  cases pieces : split path.octets with
  | nil => exact absurd pieces (split_ne_nil _)
  | cons first later =>
    rw [loud, ← filterMap_component?, components, lead, pieces]
    simp only [List.head?_cons, Option.some.injEq, List.filterMap_cons]
    by_cases absolute : path.isAbsolute = true
    · obtain ⟨_, _, same⟩ := (isAbsolute_iff path).mp absolute
      rw [pieces] at same
      cases same
      simp [absolute, component?]
    · by_cases spot : first = Path.here
      · simp [absolute, spot, component?]
      · rw [if_neg absolute, if_neg spot, if_neg absolute, if_neg spot]
        cases component? first <;> rfl

/-- The loud pieces, told from the components. -/
theorem filterMap_piece? (path : Path) : path.components.filterMap piece? = path.loud := by
  have lead : path.lead.toList.filterMap piece? = [] := by
    unfold lead
    repeat' split
    all_goals rfl
  rw [components_eq, List.filterMap_append, lead, List.filterMap_map, List.nil_append,
    show piece? ∘ spoken = some from funext piece?_spoken, List.filterMap_some]

/-- The lead, told from the components. -/
theorem find?_components (path : Path) :
    path.components.find? (fun component => (piece? component).isNone) = path.lead := by
  have found : path.lead.toList.find? (fun component => (piece? component).isNone) =
      path.lead := by
    unfold lead
    repeat' split
    all_goals rfl
  have others : path.loud.find? ((fun component => (piece? component).isNone) ∘ spoken) =
      none := List.find?_eq_none.mpr fun piece _ => by simp [piece?_spoken]
  rw [components_eq, List.find?_append, found, List.find?_map, others]
  exact Option.or_none

/-- Paths have the same components exactly when they agree in the lead and in the loud pieces. -/
theorem components_inj {left right : Path} :
    left.components = right.components ↔ left.lead = right.lead ∧ left.loud = right.loud := by
  constructor
  · intro same
    constructor
    · rw [← find?_components, ← find?_components, same]
    · rw [← filterMap_piece?, ← filterMap_piece?, same]
  · rintro ⟨lead, loud⟩
    rw [components_eq, components_eq, lead, loud]

/-- A path without components is empty. -/
theorem octets_eq_nil_iff (path : Path) : path.octets = [] ↔ path.lead = none ∧ path.loud = [] := by
  constructor
  · obtain ⟨octets⟩ := path
    rintro rfl
    exact ⟨rfl, rfl⟩
  · rintro ⟨lead, loud⟩
    cases pieces : split path.octets with
    | nil => exact absurd pieces (split_ne_nil _)
    | cons first later =>
      have silent := List.filter_eq_nil_iff.mp loud first (by simp [pieces])
      rw [lead_eq pieces] at lead
      have whole := unsplit_split path.octets
      by_cases empty : first = []
      · by_cases alone : later = []
        · rw [← whole, pieces, empty, alone, unsplit]
        · simp [empty, alone] at lead
      · have spot : first = Path.here := by simpa [isSilent, empty] using silent
        simp [spot, Path.here] at lead

/-- An octet other than the slash stands in one of the pieces. -/
theorem mem_unsplit (pieces : List Bytes) {octet : UInt8} (plain : octet ≠ slash) :
    octet ∈ unsplit pieces ↔ ∃ piece ∈ pieces, octet ∈ piece := by
  induction pieces with
  | nil => simp [unsplit]
  | cons piece later inductionHypothesis =>
    cases later with
    | nil => simp [unsplit]
    | cons second rest =>
      rw [unsplit, List.mem_append, List.mem_cons, inductionHypothesis]
      · simp [plain]
      · exact List.cons_ne_nil _ _

/-- A zero octet stands in a loud piece. -/
theorem zero_mem_iff (path : Path) : 0 ∈ path.octets ↔ ∃ piece ∈ path.loud, 0 ∈ piece := by
  have plain : (0 : UInt8) ≠ slash := by decide
  have whole := mem_unsplit (split path.octets) plain
  rw [unsplit_split] at whole
  rw [whole]
  constructor
  · rintro ⟨piece, member, zero⟩
    refine ⟨piece, List.mem_filter.mpr ⟨member, ?_⟩, zero⟩
    by_contra silent
    rw [Bool.not_eq_true', Bool.not_eq_false, isSilent_iff] at silent
    rcases silent with rfl | rfl
    · cases zero
    · exact absurd zero (by decide)
  · rintro ⟨piece, member, zero⟩
    exact ⟨piece, (List.mem_filter.mp member).1, zero⟩

/-- A path at whose end nothing silent stands, unless there is nothing else in it. -/
def Trimmed (path : Path) : Prop :=
  path.octets ∈ [[], [slash], Path.here] ∨
    ∃ front last, split path.octets = front ++ [last] ∧ isSilent last = false

/-- Loud pieces in front of a last one. -/
theorem loud_of_split {path : Path} {front : List Bytes} {last : Bytes}
    (pieces : split path.octets = front ++ [last]) (spoken : isSilent last = false) :
    path.loud = (front.filter fun piece => !isSilent piece) ++ [last] := by
  rw [loud, pieces, List.filter_append]
  simp [spoken]

/-- A trimmed path is one of three without a loud piece, or its last piece is the last loud one. -/
theorem Trimmed.cases {path : Path} (trimmed : path.Trimmed) :
    path.loud = [] ∧ (path = ⟨[]⟩ ∨ path = ⟨[slash]⟩ ∨ path = ⟨Path.here⟩) ∨
      ∃ front last, path.loud = (front.filter fun piece => !isSilent piece) ++ [last] ∧
        split path.octets = front ++ [last] ∧ isSilent last = false := by
  rcases trimmed with short | ⟨front, last, pieces, spoken⟩
  · left
    obtain ⟨octets⟩ := path
    have cases : octets = [] ∨ octets = [slash] ∨ octets = Path.here := by simpa using short
    rcases cases with rfl | rfl | rfl
    · exact ⟨rfl, .inl rfl⟩
    · exact ⟨rfl, .inr (.inl rfl)⟩
    · exact ⟨rfl, .inr (.inr rfl)⟩
  · right
    exact ⟨front, last, loud_of_split pieces spoken, pieces, spoken⟩

/-- The last loud piece of a trimmed path is its last piece. -/
theorem Trimmed.split_eq {path : Path} (trimmed : path.Trimmed) {before : List Bytes} {last : Bytes}
    (loud : path.loud = before ++ [last]) : isSilent last = false ∧
    ∃ front, split path.octets = front ++ [last] ∧
      front.filter (fun piece => !isSilent piece) = before := by
  rcases trimmed.cases with ⟨none, _⟩ | ⟨front, other, whole, pieces, spoken⟩
  · exact absurd (none.symm.trans loud) (by simp)
  · obtain ⟨same, final⟩ := List.append_inj' (whole.symm.trans loud) rfl
    cases final
    exact ⟨spoken, front, pieces, same⟩

/-- Trimmed paths without a loud piece are told apart by their leads. -/
theorem Trimmed.eq_of_lead {left right : Path} (trimmed : left.Trimmed) (also : right.Trimmed)
    (lead : left.lead = right.lead) (quiet : left.loud = []) (alsoQuiet : right.loud = []) :
    left = right := by
  rcases trimmed.cases with ⟨_, short⟩ | ⟨_, _, some, _⟩
  · rcases also.cases with ⟨_, alsoShort⟩ | ⟨_, _, some, _⟩
    · rcases short with rfl | rfl | rfl <;> rcases alsoShort with rfl | rfl | rfl <;>
        first | rfl | exact absurd lead (by decide)
    · exact absurd (some.symm.trans alsoQuiet) (by simp)
  · exact absurd (some.symm.trans quiet) (by simp)

/-- All loud pieces are kept. -/
theorem filter_kept (pieces : List Bytes) :
    (kept pieces).filter (fun piece => !isSilent piece) =
      pieces.filter fun piece => !isSilent piece := by
  obtain ⟨silent, whole, quiet⟩ := kept_prefix pieces
  have dropped : silent.filter (fun piece => !isSilent piece) = [] :=
    List.filter_eq_nil_iff.mpr fun piece member => by simp [quiet piece member]
  conv_rhs => rw [whole, List.filter_append, dropped, List.append_nil]

/-- What the parent of a path with a loud last piece is. -/
theorem parent?_eq {path : Path} {first : Bytes} {later : List Bytes} {last : Bytes}
    (pieces : split path.octets = first :: later ++ [last]) (spoken : isSilent last = false) :
    path.parent? = if first = [] ∧ kept later = [] then some ⟨[slash]⟩
      else some ⟨unsplit (first :: kept later)⟩ := by
  have cut : (later ++ [last]).reverse.dropWhile isSilent = last :: later.reverse := by
    rw [List.reverse_append, List.reverse_singleton, List.singleton_append,
      List.dropWhile_cons_of_neg (by simp [spoken])]
  have absolute : path.isAbsolute = true ↔ first = [] := by
    rw [isAbsolute_iff, pieces]
    simp
  rw [parent?, pieces, List.cons_append]
  simp only [cut, Bool.and_eq_true, absolute, List.isEmpty_iff]
  rfl

/-- The first piece of a path and those kept of the others are the pieces of a path. -/
theorem split_kept {path : Path} {first : Bytes} {later : List Bytes} {last : Bytes}
    (pieces : split path.octets = first :: later ++ [last]) :
    split (unsplit (first :: kept later)) = first :: kept later := by
  obtain ⟨silent, whole, _⟩ := kept_prefix later
  apply split_unsplit _ (List.cons_ne_nil _ _)
  intro piece member
  apply slash_not_mem_split path.octets
  rw [pieces, whole]
  exact List.mem_append_left _ (List.mem_append_left silent member)

/-- A path is trimmed when silent pieces are left out behind its first one. -/
theorem trimmed_kept {path : Path} {first : Bytes} {later : List Bytes}
    (pieces : split path.octets = first :: kept later) (some : first ≠ [] ∨ kept later ≠ []) :
    path.Trimmed := by
  rcases kept_cases later with none | ⟨inner, last, same, spoken⟩
  · rw [none] at pieces some
    by_cases silent : isSilent first = true
    · left
      have spot : first = Path.here :=
        (isSilent_iff.mp silent).resolve_left (some.resolve_right fun more => more rfl)
      rw [← unsplit_split path.octets, pieces, spot]
      simp [unsplit]
    · right
      exact ⟨[], first, pieces, Bool.eq_false_iff.mpr silent⟩
  · right
    exact ⟨first :: inner, last, by rw [pieces, same, List.cons_append], spoken⟩

/-- The parent of a path with a loud last piece has the same lead and all loud pieces but that one,
and it is trimmed. -/
theorem parent?_of_split {path : Path} {front : List Bytes} {last : Bytes}
    (pieces : split path.octets = front ++ [last]) (spoken : isSilent last = false) :
    ∃ parent, path.parent? = some parent ∧ parent.lead = path.lead ∧
      parent.loud = (front.filter fun piece => !isSilent piece) ∧ parent.Trimmed := by
  cases front with
  | nil =>
    obtain ⟨some, other⟩ := isSilent_eq_false.mp spoken
    refine ⟨⟨[]⟩, ?_, ?_, rfl, .inl (by decide)⟩
    · simp [parent?, pieces, some]
    · rw [lead_eq pieces, if_neg (by simp), if_neg other]
      rfl
  | cons first later =>
    have above := parent?_eq pieces spoken
    have again := split_kept pieces
    have lead : path.lead = _ := lead_eq pieces
    by_cases root : first = [] ∧ kept later = []
    · rw [if_pos root] at above
      refine ⟨⟨[slash]⟩, above, ?_, ?_, .inl (by decide)⟩
      · rw [lead, if_pos ⟨root.1, by simp⟩]
        rfl
      · rw [List.filter_cons, ← filter_kept, root.1, root.2]
        rfl
    · rw [if_neg root] at above
      refine ⟨⟨unsplit (first :: kept later)⟩, above, ?_, ?_, ?_⟩
      · have parentLead : (⟨unsplit (first :: kept later)⟩ : Path).lead = _ := lead_eq again
        rw [lead, parentLead]
        simp [and_iff_left_of_imp (not_and.mp root)]
      · rw [loud, again, List.filter_cons, filter_kept, List.filter_cons]
      · exact trimmed_kept again (not_and_or.mp root)

/-- The parent of a trimmed path with loud pieces leaves out the last of them. -/
theorem Trimmed.parent?_eq {path : Path} (trimmed : path.Trimmed) {before : List Bytes}
    {last : Bytes} (loud : path.loud = before ++ [last]) :
    ∃ parent, path.parent? = some parent ∧ parent.lead = path.lead ∧ parent.loud = before ∧
      parent.Trimmed := by
  obtain ⟨spoken, front, pieces, kept⟩ := trimmed.split_eq loud
  obtain ⟨parent, above, lead, loud, again⟩ := parent?_of_split pieces spoken
  exact ⟨parent, above, lead, loud.trans kept, again⟩

/-- A name that is joined to a path is its last piece, behind the pieces of the path; of those an
empty one at the end gives way to it. -/
theorem split_join (path : Path) {name : Bytes} (plain : slash ∉ name) :
    ∃ front, split (path.join name).octets = front ++ [name] ∧
      (split path.octets = front ∧ path.octets ≠ [] ∨ split path.octets = front ++ [[]]) := by
  have alone := split_plain name plain
  by_cases empty : path.octets = []
  · refine ⟨[], ?_, .inr ?_⟩
    · simp [join, empty, alone]
    · simp [empty, split]
  · by_cases ended : path.endsInSlash = true
    · obtain ⟨front, whole⟩ : ∃ front, path.octets = front ++ [slash] :=
        List.getLast?_eq_some_iff.mp (by simpa [endsInSlash] using ended)
      refine ⟨split front, ?_, .inr ?_⟩
      · rw [join, if_pos (by simp [ended])]
        change split (path.octets ++ name) = _
        rw [whole, List.append_assoc, List.singleton_append, split_append_slash, alone]
      · rw [whole, split_append_slash]
        rfl
    · refine ⟨split path.octets, ?_, .inl ⟨rfl, empty⟩⟩
      rw [join, if_neg (by simp [empty, ended])]
      change split (path.octets ++ slash :: name) = _
      rw [split_append_slash, alone]

/-- A joined name is one loud piece more, and the end of a trimmed path. -/
theorem join_loud (path : Path) {name : Bytes} (plain : slash ∉ name)
    (spoken : isSilent name = false) :
    (path.join name).lead = path.lead ∧ (path.join name).loud = path.loud ++ [name] ∧
      (path.join name).Trimmed := by
  obtain ⟨front, pieces, own⟩ := split_join path plain
  refine ⟨?_, ?_, .inr ⟨front, name, pieces, spoken⟩⟩
  · obtain ⟨some, other⟩ := isSilent_eq_false.mp spoken
    cases front with
    | nil =>
      rcases own with ⟨none, _⟩ | empty
      · exact absurd none (split_ne_nil _)
      · have rootLead : path.lead = _ := lead_eq empty
        rw [lead_eq pieces, rootLead, if_neg (by simp), if_neg other]
        rfl
    | cons first later =>
      rw [lead_eq pieces]
      rcases own with ⟨same, named⟩ | longer
      · have more : first = [] → later ≠ [] := by
          rintro rfl rfl
          have whole := unsplit_split path.octets
          rw [same] at whole
          exact named whole.symm
        rw [lead_eq same]
        simp [and_iff_left_of_imp more]
      · have rootLead : path.lead = _ := lead_eq longer
        rw [rootLead]
        simp
  · rw [loud_of_split pieces spoken, loud]
    rcases own with ⟨same, _⟩ | longer
    · rw [same]
    · rw [longer, List.filter_append]
      simp [isSilent]

end AgentKit.Path
