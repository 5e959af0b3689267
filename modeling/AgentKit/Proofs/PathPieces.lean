import AgentKit.Path
import Mathlib.Data.List.TakeWhile
import Mathlib.Logic.Relation
/-!
# Pieces of a path

Cutting a path at its slashes loses nothing: the pieces hold no slash, and put together again they
are the octets. The parent of a path keeps the first pieces and leaves out the others, of which one
at least has a component of its own; so a parent is a front of its path, and so is everything that
taking parents leads to.
-/

namespace AgentKit.Path

theorem split_ne_nil (octets : Bytes) : split octets ≠ [] := by
  cases octets with
  | nil => simp [split]
  | cons octet rest =>
    simp only [split]
    split
    · simp
    · split <;> simp

/-- An octet that is no slash belongs to the first piece. -/
theorem split_cons_plain (octet : UInt8) (rest : Bytes) (plain : octet ≠ slash) :
    ∃ first later, split rest = first :: later ∧
      split (octet :: rest) = (octet :: first) :: later := by
  cases cut : split rest with
  | nil => exact absurd cut (split_ne_nil rest)
  | cons first later => exact ⟨first, later, rfl, by simp [split, plain, cut]⟩

/-- No piece holds a slash. -/
theorem slash_not_mem_split (octets : Bytes) : ∀ piece ∈ split octets, slash ∉ piece := by
  induction octets with
  | nil => simp [split]
  | cons octet rest inductionHypothesis =>
    by_cases cut : octet = slash
    · rw [split, if_pos cut]
      intro piece member
      rcases List.mem_cons.mp member with rfl | member
      · exact List.not_mem_nil
      · exact inductionHypothesis piece member
    · obtain ⟨first, later, pieces, longer⟩ := split_cons_plain octet rest cut
      rw [longer]
      rw [pieces] at inductionHypothesis
      intro piece member
      rcases List.mem_cons.mp member with rfl | member
      · have inner := inductionHypothesis first List.mem_cons_self
        simp only [List.mem_cons, not_or]
        exact ⟨fun same => cut same.symm, inner⟩
      · exact inductionHypothesis piece (List.mem_cons_of_mem _ member)

/-- A slash ends one piece and begins another, whatever stands around it. -/
theorem split_append_slash (front back : Bytes) :
    split (front ++ slash :: back) = split front ++ split back := by
  induction front with
  | nil => simp [split]
  | cons octet rest inductionHypothesis =>
    by_cases cut : octet = slash
    · simp [split, cut, inductionHypothesis]
    · obtain ⟨first, later, pieces, longer⟩ := split_cons_plain octet rest cut
      rw [longer, List.cons_append, split, if_neg cut, inductionHypothesis, pieces]
      rfl

/-- Octets without a slash are one piece. -/
theorem split_plain (piece : Bytes) (plain : slash ∉ piece) : split piece = [piece] := by
  induction piece with
  | nil => rfl
  | cons octet rest inductionHypothesis =>
    obtain ⟨head, tail⟩ := not_or.mp (mt List.mem_cons.mpr plain)
    rw [split, if_neg (Ne.symm head), inductionHypothesis tail]

/-- Pieces on both sides of a slash. -/
theorem unsplit_append (front back : List Bytes) (before : front ≠ []) (behind : back ≠ []) :
    unsplit (front ++ back) = unsplit front ++ slash :: unsplit back := by
  induction front with
  | nil => exact absurd rfl before
  | cons piece later inductionHypothesis =>
    cases later with
    | nil =>
      cases back with
      | nil => exact absurd rfl behind
      | cons second rest => rfl
    | cons second rest =>
      have inner := inductionHypothesis (List.cons_ne_nil second rest)
      simp only [List.cons_append] at inner
      simp [unsplit, inner]

/-- The pieces put together again are the octets. -/
theorem unsplit_split (octets : Bytes) : unsplit (split octets) = octets := by
  induction octets with
  | nil => rfl
  | cons octet rest inductionHypothesis =>
    by_cases cut : octet = slash
    · have whole := unsplit_append [[]] (split rest) (List.cons_ne_nil _ _) (split_ne_nil rest)
      rw [split, if_pos cut, cut]
      rw [inductionHypothesis] at whole
      exact whole
    · obtain ⟨first, later, pieces, longer⟩ := split_cons_plain octet rest cut
      rw [longer, ← inductionHypothesis, pieces]
      cases later <;> simp [unsplit]

/-- Pieces without slashes are found again. -/
theorem split_unsplit (pieces : List Bytes) (some : pieces ≠ [])
    (plain : ∀ piece ∈ pieces, slash ∉ piece) : split (unsplit pieces) = pieces := by
  induction pieces with
  | nil => exact absurd rfl some
  | cons piece later inductionHypothesis =>
    have head := split_plain piece (plain piece List.mem_cons_self)
    cases later with
    | nil => exact head
    | cons second rest =>
      have tail := inductionHypothesis (List.cons_ne_nil second rest)
        fun inner member => plain inner (List.mem_cons_of_mem _ member)
      rw [unsplit, split_append_slash, head, tail]
      · rfl
      · simp

/-- A path is absolute exactly when its first piece is empty and others follow. -/
theorem isAbsolute_iff (path : Path) :
    path.isAbsolute = true ↔ ∃ later, later ≠ [] ∧ split path.octets = [] :: later := by
  obtain ⟨octets⟩ := path
  cases octets with
  | nil => simp [isAbsolute, split]
  | cons octet rest =>
    by_cases cut : octet = slash
    · simp [isAbsolute, split, cut, split_ne_nil]
    · obtain ⟨first, later, pieces, longer⟩ := split_cons_plain octet rest cut
      simp [isAbsolute, longer, cut]

/-- The pieces in front of the silent ones at the end. -/
def kept (pieces : List Bytes) : List Bytes := (pieces.reverse.dropWhile isSilent).reverse

/-- What is not kept is silent. -/
theorem kept_prefix (pieces : List Bytes) : ∃ silent, pieces = kept pieces ++ silent ∧
    ∀ piece ∈ silent, isSilent piece = true := by
  refine ⟨(pieces.reverse.takeWhile isSilent).reverse, ?_, ?_⟩
  · rw [kept, ← List.reverse_append, List.takeWhile_append_dropWhile, List.reverse_reverse]
  · intro piece member
    exact List.mem_takeWhile_imp (List.mem_reverse.mp member)

/-- The last piece that is kept is loud. -/
theorem kept_cases (pieces : List Bytes) : kept pieces = [] ∨
    ∃ front last, kept pieces = front ++ [last] ∧ isSilent last = false := by
  have head := List.head?_dropWhile_not isSilent pieces.reverse
  rw [kept]
  cases behind : pieces.reverse.dropWhile isSilent with
  | nil => exact .inl rfl
  | cons last before =>
    rw [behind] at head
    exact .inr ⟨before.reverse, last, List.reverse_cons, by simpa using head⟩

/-- The last piece with a component is left out of a list, with all that stands behind it and the
silent pieces in front of it. -/
theorem cut_last (pieces before : List Bytes) (last : Bytes)
    (loud : pieces.reverse.dropWhile isSilent = last :: before) :
    ∃ left, pieces = (before.dropWhile isSilent).reverse ++ left ∧
      ∃ name ∈ left, isSilent name = false := by
  have spoken : isSilent last = false := by
    have head := List.head?_dropWhile_not isSilent pieces.reverse
    rw [loud] at head
    simpa using head
  obtain ⟨behind, whole, _⟩ := kept_prefix pieces
  obtain ⟨between, inner, _⟩ := kept_prefix before.reverse
  rw [kept, loud, List.reverse_cons, inner] at whole
  rw [kept, List.reverse_reverse] at whole
  refine ⟨between ++ [last] ++ behind, ?_, last, by simp, spoken⟩
  rw [whole, List.append_assoc, List.append_assoc, List.append_assoc]

/-- What taking the parent does: the pieces are cut into those that are kept and those that are left
out, and one that is left out has a component. Three parents are possible: the kept pieces, the root
where only its own empty piece is kept, and the empty path where nothing is kept. -/
theorem parent?_cases {path parent : Path} (above : path.parent? = some parent) :
    parent.octets = [] ∨ ∃ kept left, split path.octets = kept ++ left ∧ kept ≠ [] ∧
      (∃ name ∈ left, isSilent name = false) ∧
      (parent.octets = unsplit kept ∧ kept ≠ [[]] ∨
        path.isAbsolute = true ∧ kept = [[]] ∧ parent.octets = [slash]) := by
  unfold parent? at above
  split at above
  · cases above
  · rename_i first later pieces
    split at above
    · left
      split at above
      · cases above
      · cases above
        rfl
    · rename_i last before loud
      right
      obtain ⟨left, whole, spoken⟩ := cut_last later before last loud
      have behind : later ≠ [] := by
        rintro rfl
        cases loud
      have top : path.isAbsolute = true ↔ first = [] := by
        rw [isAbsolute_iff, pieces]
        simp [behind]
      refine ⟨first :: (before.dropWhile isSilent).reverse, left, ?_, List.cons_ne_nil _ _,
        spoken, ?_⟩
      · rw [pieces, List.cons_append, ← whole]
      · dsimp only at above
        split at above <;> cases above
        · rename_i root
          obtain ⟨absolute, none⟩ := Bool.and_eq_true_iff.mp root
          right
          exact ⟨absolute, by rw [top.mp absolute, List.isEmpty_iff.mp none], rfl⟩
        · rename_i inside
          left
          refine ⟨rfl, ?_⟩
          intro only
          obtain ⟨empty, none⟩ := List.cons.inj only
          apply inside
          rw [none, top.mpr empty]
          rfl

/-- A path without a parent is empty or consists of silent pieces behind the root. -/
theorem silent_of_parent?_none {path : Path} (top : path.parent? = none)
    (some : path.octets ≠ []) :
    path.isAbsolute = true ∧ ∀ piece ∈ split path.octets, isSilent piece = true := by
  unfold parent? at top
  split at top
  · rename_i none
    exact absurd none (split_ne_nil _)
  · rename_i first later pieces
    split at top
    · rename_i silent
      split at top
      · rename_i empty
        have behind : later ≠ [] := by
          rintro rfl
          have whole := unsplit_split path.octets
          rw [pieces, empty] at whole
          exact some whole.symm
        refine ⟨(isAbsolute_iff path).mpr ⟨later, behind, by rw [pieces, empty]⟩, ?_⟩
        intro piece member
        rw [pieces, empty] at member
        rcases List.mem_cons.mp member with rfl | member
        · rfl
        · exact List.dropWhile_eq_nil_iff.mp silent piece (List.mem_reverse.mpr member)
      · cases top
    · dsimp only at top
      split at top <;> cases top

/-- A path and those above it: itself, its parent, the parent of that, and so on. -/
def Ancestor (path ancestor : Path) : Prop :=
  Relation.ReflTransGen (fun below above => below.parent? = some above) path ancestor

namespace Ancestor

/-- Every path is above itself. -/
theorem itself (path : Path) : path.Ancestor path := .refl

/-- What is above the parent is above the path. -/
theorem of_parent {path parent ancestor : Path} (above : path.parent? = some parent)
    (further : parent.Ancestor ancestor) : path.Ancestor ancestor :=
  .head above further

end Ancestor

/-- The parent is a front of its path. -/
theorem parent?_front {path parent : Path} (above : path.parent? = some parent) :
    parent.octets <+: path.octets := by
  rcases parent?_cases above with empty | ⟨kept, left, pieces, some, loud, cases⟩
  · rw [empty]
    exact List.nil_prefix
  · have behind : left ≠ [] := by
      rintro rfl
      obtain ⟨name, member, _⟩ := loud
      cases member
    have whole := unsplit_append kept left some behind
    rw [← pieces, unsplit_split] at whole
    rw [whole]
    rcases cases with ⟨inner, _⟩ | ⟨_, rfl, root⟩
    · rw [inner]
      exact List.prefix_append _ _
    · rw [root]
      exact List.prefix_append [slash] _

end AgentKit.Path
