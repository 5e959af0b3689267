import AgentKit.Text.Utf8
/-!
# Paths

A path is a list of octets in which the slash separates segments. Joining and taking the parent
work on the octets and change nothing else. Two paths are compared by their components: empty
segments and inner `.` segments say nothing, a leading `.` and every `..` are kept.
-/
namespace AgentKit

/-- A path, as octets. -/
structure Path where
  octets : Bytes
deriving DecidableEq, Repr

namespace Path

/-- The octet that separates segments. -/
def slash : UInt8 := 0x2F

/-- The segment that stands for the directory itself. -/
def here : Bytes := [0x2E]

/-- The segment that stands for the directory above. -/
def above : Bytes := [0x2E, 0x2E]

/-- The path with the octets of a string. -/
def ofString (text : String) : Path := ⟨Utf8.ofString text⟩

/-- A path as text for people, ill-formed parts replaced. -/
def display (path : Path) : String := Utf8.toStringLossy path.octets

/-- The pieces between slashes, empty ones included. -/
def split : Bytes → List Bytes
  | [] => [[]]
  | octet :: rest =>
    if octet = slash then [] :: split rest
    else
      match split rest with
      | first :: later => (octet :: first) :: later
      | [] => [[octet]]

/-- Pieces with slashes between them. -/
def unsplit : List Bytes → Bytes
  | [] => []
  | [piece] => piece
  | piece :: later => piece ++ slash :: unsplit later

/-- The octets that pieces take, each with a slash. -/
def extent : List Bytes → Nat
  | [] => 0
  | piece :: later => piece.length + 1 + extent later

theorem extent_append (left right : List Bytes) :
    extent (left ++ right) = extent left + extent right := by
  induction left with
  | nil => simp [extent]
  | cons piece later induction =>
    simp only [List.cons_append, extent]
    omega

theorem extent_reverse (pieces : List Bytes) : extent pieces.reverse = extent pieces := by
  induction pieces with
  | nil => rfl
  | cons piece later induction =>
    simp only [List.reverse_cons, extent_append, extent]
    omega

theorem extent_dropWhile (drops : Bytes → Bool) (pieces : List Bytes) :
    extent (pieces.dropWhile drops) ≤ extent pieces := by
  have whole := congrArg extent (List.takeWhile_append_dropWhile (p := drops) (l := pieces))
  rw [extent_append] at whole
  omega

theorem extent_split (octets : Bytes) : extent (split octets) = octets.length + 1 := by
  induction octets with
  | nil => rfl
  | cons octet rest induction =>
    simp only [split]
    split
    · simp only [extent, List.length_nil, List.length_cons]
      omega
    · split
      · rename_i first later step
        rw [step] at induction
        simp only [extent, List.length_cons] at *
        omega
      · rename_i step
        rw [step] at induction
        simp [extent] at induction

theorem length_unsplit (first : Bytes) (later : List Bytes) :
    (unsplit (first :: later)).length + 1 = extent (first :: later) := by
  induction later generalizing first with
  | nil => simp [unsplit, extent]
  | cons second rest induction =>
    have step := induction second
    simp only [unsplit, extent, List.length_append, List.length_cons] at *
    omega

/-- A path that starts at the root. -/
def isAbsolute (path : Path) : Bool := path.octets.head? == some slash

/-- A path that ends in a slash. -/
def endsInSlash (path : Path) : Bool := path.octets.getLast? == some slash

/-- A path with one more name. A slash is put between them unless the path is empty or ends in
one already. -/
def join (path : Path) (name : Bytes) : Path :=
  if path.octets.isEmpty || path.endsInSlash then ⟨path.octets ++ name⟩
  else ⟨path.octets ++ slash :: name⟩

/-- One step of a path. -/
inductive Component where
  | root
  | here
  | above
  | name (octets : Bytes)
deriving DecidableEq, Repr

/-- The component of a segment that is not the first one of a relative path. -/
def component? (segment : Bytes) : Option Component :=
  if segment = [] ∨ segment = Path.here then none
  else if segment = Path.above then some .above
  else some (.name segment)

/-- The components of a path, in order. -/
def components (path : Path) : List Component :=
  match split path.octets with
  | [] => []
  | first :: later =>
    let lead :=
      if path.isAbsolute then some .root
      else if first = Path.here then some .here
      else component? first
    lead.toList ++ later.filterMap component?

/-- Two paths with the same components. -/
def sameComponents (left right : Path) : Bool := left.components == right.components

/-- A segment without a component of its own. -/
def isSilent (segment : Bytes) : Bool := segment == [] || segment == Path.here

/-- The path without its last component, and without the silent segments around it. The root and
the empty path have no parent; a path of one component has the empty one. -/
def parent? (path : Path) : Option Path :=
  match split path.octets with
  | [] => none
  | first :: later =>
    match later.reverse.dropWhile isSilent with
    | [] => if first = [] then none else some ⟨[]⟩
    | _ :: before =>
      let kept := (before.dropWhile isSilent).reverse
      if path.isAbsolute && kept.isEmpty then some ⟨[slash]⟩
      else some ⟨unsplit (first :: kept)⟩

/-- Taking the parent shortens a path, so going up ends. -/
theorem parent?_length {path parent : Path} (above : path.parent? = some parent) :
    parent.octets.length < path.octets.length := by
  have whole := extent_split path.octets
  unfold parent? at above
  split at above
  · cases above
  · rename_i first later cut
    rw [cut, extent] at whole
    split at above
    · split at above
      · cases above
      · rename_i named
        cases above
        have := List.length_pos_iff.mpr named
        simp only [List.length_nil]
        omega
    · rename_i last before step
      have spoken : isSilent last = false := by
        have := List.head?_dropWhile_not isSilent later.reverse
        rw [step] at this
        simpa using this
      have named : 0 < last.length := by
        rcases last with _ | _
        · simp [isSilent] at spoken
        · simp
      have reversed := extent_dropWhile isSilent later.reverse
      rw [step, extent, extent_reverse] at reversed
      have kept := extent_dropWhile isSilent before
      dsimp only at above
      split at above
      · cases above
        simp only [List.length_singleton]
        omega
      · cases above
        have length := length_unsplit first (before.dropWhile isSilent).reverse
        rw [extent, extent_reverse] at length
        simp only
        omega

end Path

end AgentKit
