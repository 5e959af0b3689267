import AgentKit.Proofs.PathComponents
import AgentKit.Proofs.WorkspaceCreation

/-!
# Directories one step below a root

A name that is joined to a path is one component more, whatever the path ends in: of the slash and
the silent pieces in front of the name nothing is seen in the components. So the components of a
joined name tell those of the path and the name. Taking the parent leads back to the components of
the path, though not always to its octets, since silent pieces at its end are left out.

The directories of a workspace are its root with three names. They are different paths, each one
step below the root, for every root; the empty root and a root of slashes are no exceptions. Each of
them tells the components of the root.
-/

namespace AgentKit

namespace Path

theorem spoken_injective : Function.Injective spoken := by
  intro name other same
  apply Option.some.inj
  rw [← piece?_spoken, same, piece?_spoken]

/-- A joined name is one component more, behind those of the path. -/
theorem join_components (path : Path) {name : Bytes} (plain : slash ∉ name)
    (loud : isSilent name = false) :
    (path.join name).components = path.components ++ [spoken name] := by
  obtain ⟨lead, pieces, _⟩ := join_loud path plain loud
  rw [components_eq, components_eq, lead, pieces, List.map_append, List.map_singleton,
    List.append_assoc]

/-- Joined names have the same components exactly when the paths have the same components and the
names are equal. -/
theorem join_components_inj {path other : Path} {name otherName : Bytes} (plain : slash ∉ name)
    (loud : isSilent name = false) (alsoPlain : slash ∉ otherName)
    (alsoLoud : isSilent otherName = false) :
    (path.join name).components = (other.join otherName).components ↔
      path.components = other.components ∧ name = otherName := by
  rw [join_components path plain loud, join_components other alsoPlain alsoLoud]
  constructor
  · intro same
    obtain ⟨front, last⟩ := List.append_inj' same rfl
    exact ⟨front, spoken_injective (List.singleton_inj.mp last)⟩
  · rintro ⟨front, rfl⟩
    rw [front]

/-- The parent of a joined name has the components of the path. -/
theorem join_parent? (path : Path) {name : Bytes} (plain : slash ∉ name)
    (loud : isSilent name = false) :
    (path.join name).parent?.map components = some path.components := by
  obtain ⟨lead, pieces, trimmed⟩ := join_loud path plain loud
  obtain ⟨parent, above, parentLead, parentPieces, _⟩ := trimmed.parent?_eq pieces
  have same : parent.components = path.components :=
    components_inj.mpr ⟨parentLead.trans lead, parentPieces⟩
  rw [above, Option.map_some, same]

/-- The parent has other octets than the path where something silent stood at its end. -/
example : ((ofString "a/./").join (Utf8.ofString "data")).parent? = some (ofString "a") := by
  decide

/-- A directory one step below a root: the name is the only component more, and the parent has the
components of the root again. -/
structure Child (root : Path) (name : Bytes) (directory : Path) : Prop where
  components : directory.components = root.components ++ [.name name]
  parent : directory.parent?.map Path.components = some root.components

end Path

namespace Workspace

/-- No name of a directory stands for the directory above. -/
theorem names_spoken : ∀ name ∈ names, Path.spoken name = .name name := by decide

theorem names_nodup : names.Nodup := by decide

/-- A name of a directory, joined to a root, is one step below it. -/
theorem child_join (root : Path) {name : Bytes} (member : name ∈ names) :
    root.Child name (root.join name) := by
  obtain ⟨plain, loud⟩ := names_plain name member
  constructor
  · rw [Path.join_components root plain loud, names_spoken name member]
  · exact Path.join_parent? root plain loud

/-- Directories under two roots have the same components exactly when the roots have and the names
of the directories are equal. -/
theorem join_names_inj {root other : Path} {name otherName : Bytes} (member : name ∈ names)
    (also : otherName ∈ names) :
    (root.join name).components = (other.join otherName).components ↔
      root.components = other.components ∧ name = otherName := by
  obtain ⟨plain, loud⟩ := names_plain name member
  obtain ⟨alsoPlain, alsoLoud⟩ := names_plain otherName also
  exact Path.join_components_inj plain loud alsoPlain alsoLoud

end Workspace

namespace WorkspacePaths

open Workspace

/-- The directories of a workspace are different paths one step below its root, and each of them has
the components of the same directory of another workspace exactly when the roots have the same
components. -/
theorem directories_below_root (root : Path) :
    let paths := ofRoot root
    (root.Child (Utf8.ofString "data") paths.dataDirectory ∧
      root.Child (Utf8.ofString "output") paths.outputDirectory ∧
      root.Child (Utf8.ofString ".cache") paths.cacheDirectory) ∧
    paths.subdirectories.Pairwise (fun left right => left.components ≠ right.components) ∧
    ∀ other : Path,
      let others := ofRoot other
      (paths.dataDirectory.components = others.dataDirectory.components ↔
        root.components = other.components) ∧
      (paths.outputDirectory.components = others.outputDirectory.components ↔
        root.components = other.components) ∧
      (paths.cacheDirectory.components = others.cacheDirectory.components ↔
        root.components = other.components) := by
  have data : Utf8.ofString "data" ∈ names := by decide
  have output : Utf8.ofString "output" ∈ names := by decide
  have cache : Utf8.ofString ".cache" ∈ names := by decide
  refine ⟨⟨child_join root data, child_join root output, child_join root cache⟩, ?_, ?_⟩
  · rw [subdirectories_eq, List.pairwise_map]
    refine names_nodup.imp_of_mem ?_
    intro name otherName member also distinct same
    exact distinct ((join_names_inj member also).mp same).2
  · intro other
    have told {name : Bytes} (member : name ∈ names) :
        (root.join name).components = (other.join name).components ↔
          root.components = other.components :=
      (join_names_inj member member).trans (and_iff_left rfl)
    exact ⟨told data, told output, told cache⟩

end WorkspacePaths

end AgentKit
