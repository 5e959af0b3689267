import AgentKit.Proofs.PathComponents
import AgentKit.Proofs.RequestService
import AgentKit.Proofs.Utf8Replacement

/-!
# Directories that a root shows

Making the directories of a workspace joins their names to its root, and the status page opens the
root itself. The two agree on what the root is, wherever it leads, as long as the root has octets at
all: a walk to a directory under the root passes through the root. The empty root is the exception.
A name joined to it is a relative path of its own, so its directories are made in the working
directory, but nothing can be opened under the empty path itself, and the page shows no names.
-/

namespace AgentKit

/-- Octets of a text are read as that text. -/
theorem Utf8.toStringLossy_ofString (text : String) : toStringLossy (ofString text) = text := by
  have read : text.toList = decodeLossy (ofString text) :=
    (replaced_encode text.toList).eq_decodeLossy
  rw [toStringLossy, ← read, String.ofList_toList]

namespace Path

/-- A path is the front of what is joined to it. -/
theorem join_front (path : Path) (name : Bytes) : path.octets <+: (path.join name).octets := by
  unfold join
  split <;> exact List.prefix_append _ _

/-- The names to follow to a joined name are those of the path and then that one. -/
theorem names_join (path : Path) {name : Bytes} (plain : slash ∉ name) (some : name ≠ []) :
    (Route.ofOctets (path.join name).octets).names =
      (Route.ofOctets path.octets).names ++ [name] := by
  obtain ⟨front, pieces, own⟩ := split_join path plain
  rw [Route.ofOctets, Route.ofOctets, pieces, List.filter_append]
  rcases own with ⟨same, _⟩ | longer
  · simp [same, some]
  · simp [longer, some]

/-- A joined name and the path itself start in one place. -/
theorem absolute_join (path : Path) {name : Bytes} (plain : slash ∉ name)
    (spoken : isSilent name = false) :
    (Route.ofOctets (path.join name).octets).absolute = (Route.ofOctets path.octets).absolute := by
  change (path.join name).isAbsolute = path.isAbsolute
  rw [Bool.eq_iff_iff, ← lead_eq_root, ← lead_eq_root, (join_loud path plain spoken).1]

end Path

namespace Files

/-- A directory under a path is listed there by its name, unless the path is empty. -/
theorem mem_listing_of_join {files : Files} {root : Path} (some : root.octets ≠ []) {name : Bytes}
    (plain : Path.slash ∉ name) (real : isStep name = false) (named : name ≠ [])
    (found : files.isDirectory (root.join name) = true) :
    Utf8.toStringLossy name ∈ files.listing root := by
  obtain ⟨directory, reached⟩ := Option.isSome_iff_exists.mp found
  obtain ⟨route, remaining, routed, walked⟩ := directory?_eq_some.mp reached
  obtain ⟨zero, _, short, rfl⟩ := Path.route_eq_ok.mp routed
  have front := root.join_front name
  have routes : root.route = .ok (.ofOctets root.octets) :=
    Path.route_eq_ok.mpr ⟨fun member => zero (front.subset member), some,
      front.length_le.trans short, rfl⟩
  have spoken : Path.isSilent name = false :=
    Path.isSilent_eq_false.mpr ⟨named, (isStep_false.mp real).1⟩
  rw [Route.lookupNames_eq, Path.names_join root plain named, List.append_assoc, start,
    Path.absolute_join root plain spoken] at walked
  obtain ⟨between, left, first, rest⟩ := follow_append_ok.mp walked
  cases between with
  | none => exact absurd (follow_none rest) (by simp)
  | some above =>
    obtain ⟨entry, looked⟩ := follow_name_ok real rest
    obtain ⟨members, around, rfl, _, held⟩ := Directory.look_ok looked
    have opened : files.directory? root = Option.some (.standing members around) := by
      refine directory?_eq_some.mpr ⟨_, left, routes, ?_⟩
      rw [Route.lookupNames_eq]
      exact follow_append_ok.mpr ⟨_, _, first, follow_slash files left _ _⟩
    obtain ⟨before, behind, whole, _⟩ := List.lookup_eq_some_iff.mp held
    rw [listing, opened]
    refine List.mem_mergeSort.mpr (List.mem_map_of_mem ?_)
    change name ∈ members.map Prod.fst
    rw [whole]
    simp

/-- Nothing is listed under the empty path. -/
theorem listing_empty (files : Files) : files.listing ⟨[]⟩ = [] := by
  rw [listing, directory?, locate]
  rfl

end Files

namespace StatusPage

/-- A part stands between separators as it is. -/
theorem infix_intercalate (separator : List Char) {parts : List (List Char)} {part : List Char}
    (member : part ∈ parts) : part <:+: separator.intercalate parts := by
  induction parts with
  | nil => cases member
  | cons first later inductionHypothesis =>
    cases later with
    | nil =>
      cases List.mem_singleton.mp member
      exact ⟨[], [], by simp⟩
    | cons second rest =>
      rw [List.intercalate_cons_cons]
      rcases List.mem_cons.mp member with rfl | behind
      · exact (List.prefix_append _ _).isInfix.trans (List.prefix_append _ _).isInfix
      · exact (inductionHypothesis behind).trans (List.suffix_append _ _).isInfix

/-- A name without markup is shown as it is. -/
theorem infix_namesText {page : StatusPage} {name : String} (member : name ∈ page.names)
    (plain : escapeName name = name.toList) : name.toList <:+: page.namesText := by
  have escaped : name.toList ∈ page.names.map escapeName :=
    List.mem_map.mpr ⟨name, member, plain⟩
  rw [namesText]
  split
  · rename_i none
    rw [none] at member
    cases member
  · exact infix_intercalate _ escaped

end StatusPage

namespace Workspace

/-- The directories of a workspace are listed in its root, and every page that an agent with that
root makes of these files shows them and does not call the root empty. -/
structure Listed (root : Path) (files : Files) : Prop where
  names : ∀ name ∈ ["data", "output", ".cache"], name ∈ files.listing root
  pages : ∀ (agent : Layout) (host : Host) (page : StatusPage), host.files = files →
    (select agent host).root = root → Http.Server.IsPage agent host page →
      (∀ name ∈ ["data", "output", ".cache"], name.toList <:+: page.namesText) ∧
        page.namesText ≠ "(empty)".toList

/-- Pages show what is listed. -/
theorem Listed.of_names {root : Path} {files : Files}
    (names : ∀ name ∈ ["data", "output", ".cache"], name ∈ files.listing root) :
    Listed root files := by
  refine ⟨names, ?_⟩
  rintro agent host page rfl rfl made
  have shown : ∀ name ∈ ["data", "output", ".cache"], name.toList <:+: page.namesText := by
    intro name member
    apply StatusPage.infix_namesText
    · rw [made.names]
      exact names name member
    · have plain : ∀ name ∈ ["data", "output", ".cache"],
          StatusPage.escapeName name = name.toList := by decide
      exact plain name member
  refine ⟨shown, ?_⟩
  intro empty
  have data := shown "data" (by decide)
  rw [empty] at data
  have letter : 'd' ∈ "(empty)".toList := data.subset (by decide)
  exact absurd letter (by decide)

/-- After a call that made the directories of a workspace they are listed in its root and shown on
its page exactly if the root is not the empty path, under which nothing is listed. -/
theorem done_call_listed (layout : Layout) (host after : Host) (found : WorkspacePaths)
    (done : (ensureDirectories layout).run host = (.done found, after)) :
    Listed found.root after.files ↔ found.root.octets ≠ [] := by
  obtain ⟨rfl, there⟩ := ensureDirectories_done done
  rw [subdirectories_eq] at there
  change Listed (select layout host).root after.files ↔ (select layout host).root.octets ≠ []
  generalize (select layout host).root = root at there ⊢
  constructor
  · rintro listed empty
    have data := listed.names "data" (by decide)
    rw [show root = ⟨[]⟩ from congrArg Path.mk empty, Files.listing_empty] at data
    cases data
  · intro some
    apply Listed.of_names
    intro name member
    have plain : ∀ name ∈ ["data", "output", ".cache"], Path.slash ∉ Utf8.ofString name ∧
        Files.isStep (Utf8.ofString name) = false ∧ Utf8.ofString name ≠ [] := by decide
    obtain ⟨single, real, named⟩ := plain name member
    rw [← Utf8.toStringLossy_ofString name]
    apply Files.mem_listing_of_join some single real named
    exact there _ (List.mem_map_of_mem (List.mem_map_of_mem member))

/-- The standard layout selects a root with octets. -/
theorem standard_listed :
    (ensureDirectories .standard).run bareHost =
      (.done (.ofRoot Layout.standard.fallbackPath), once .standard) ∧
    Listed Layout.standard.fallbackPath (once .standard).files := by
  have done : (ensureDirectories .standard).run bareHost =
      (.done (.ofRoot Layout.standard.fallbackPath), once .standard) := Prod.ext (by decide +kernel) rfl
  exact ⟨done, (done_call_listed .standard bareHost _ _ done).mpr (by decide)⟩

/-- A layout whose fallback is the working directory as the empty path. -/
def emptyFallback : Layout := { Layout.standard with fallbackPath := ⟨[]⟩ }

/-- With such a layout the directories are made in the working directory, and neither the listing of
the root nor the page of an agent with that layout shows them. -/
theorem emptyFallback_unlisted :
    ((ensureDirectories emptyFallback).run bareHost).1 = .done (.ofRoot ⟨[]⟩) ∧
    (∀ name ∈ ["data", "output", ".cache"],
      (once emptyFallback).files.isDirectory (.ofString name) = true) ∧
    ¬ Listed ⟨[]⟩ (once emptyFallback).files ∧
    (once emptyFallback).files.listing ⟨[]⟩ = [] ∧
    (select emptyFallback (once emptyFallback)).root = ⟨[]⟩ ∧
    (Http.Server.servedPage emptyFallback (once emptyFallback)).namesText =
      "(empty)".toList := by
  have nothing : (once emptyFallback).files.listing ⟨[]⟩ = [] := Files.listing_empty _
  refine ⟨by decide +kernel, ?_, ?_, nothing, by decide +kernel, by decide +kernel⟩
  · simp only [List.forall_mem_cons, List.not_mem_nil, false_imp_iff, implies_true, and_true]
    exact ⟨by decide +kernel, by decide +kernel, by decide +kernel⟩
  · intro listed
    have data := listed.names "data" (by decide)
    rw [nothing] at data
    cases data

end Workspace

end AgentKit
