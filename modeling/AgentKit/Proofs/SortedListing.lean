import AgentKit.Files.Listing
import AgentKit.Proofs.TimestampOrder
import AgentKit.Proofs.Utf8Replacement
import AgentKit.Proofs.WrittenString
import Mathlib.Data.List.Forall2

/-!
# The order of a listing

A listing is sorted as text, and programs that read it compare octets. Both orders are one: of two
characters the later one has a greater lead octet, or the same one and then the greater octet at the
first difference, so the first character in which two texts differ decides their octets as well.

A listing is therefore described by the octets alone. It holds the names that a directory returns,
each read with replacement and as often as it comes, in the order of their octets. Nothing else fits
that description, in whatever order the names were returned, because names with the same octets are
the same text.
-/

namespace AgentKit

namespace Utf8

/-- Octets made from numbers are compared by the numbers, and by what follows only where these are
equal. -/
theorem ofNat_cons_lt {octet other : Nat} {rest more : Bytes} (low : octet < 256)
    (high : other < 256) (least : octet ≤ other) (tie : octet = other → rest < more) :
    UInt8.ofNat octet :: rest < UInt8.ofNat other :: more := by
  rw [List.cons_lt_cons_iff, UInt8.lt_iff_toNat_lt, UInt8.toNat_ofNat_of_lt' low,
    UInt8.toNat_ofNat_of_lt' high]
  exact (Nat.lt_or_eq_of_le least).imp_right fun same => ⟨congrArg _ same, tie same⟩

/-- The octets of a character come before those of a later one, whatever follows either.

A character with fewer octets has the smaller lead. Characters with the same count are compared
octet by octet: each holds the next six bits, so the numbers differ at the last octet at the
latest. -/
theorem encodeChar_lt {character other : Char} (less : character < other) (rest more : Bytes) :
    encodeChar character ++ rest < encodeChar other ++ more := by
  have numbers : character.toNat < other.toNat := less
  have last : character.toNat < 0x110000 := by
    have range := char_range character
    omega
  have otherLast : other.toNat < 0x110000 := by
    have range := char_range other
    omega
  unfold encodeChar
  dsimp only
  generalize character.toNat = code at *
  generalize other.toNat = otherCode at *
  split_ifs
  all_goals refine ofNat_cons_lt (by omega) (by omega) (by omega) fun lead => ?_
  all_goals try omega
  · exact ofNat_cons_lt (by omega) (by omega) (by omega) fun same => by omega
  · refine ofNat_cons_lt (by omega) (by omega) (by omega) fun second => ?_
    exact ofNat_cons_lt (by omega) (by omega) (by omega) fun same => by omega
  · refine ofNat_cons_lt (by omega) (by omega) (by omega) fun second => ?_
    refine ofNat_cons_lt (by omega) (by omega) (by omega) fun third => ?_
    exact ofNat_cons_lt (by omega) (by omega) (by omega) fun same => by omega

/-- Texts are in the order of their octets. -/
theorem encode_lt_iff (text other : List Char) : encode text < encode other ↔ text < other := by
  induction text generalizing other with
  | nil =>
    cases other with
    | nil => simp
    | cons character rest =>
      obtain ⟨first, tail, octets, _⟩ := encodeChar_shape character
      simp [octets]
  | cons character rest inductionHypothesis =>
    cases other with
    | nil => simp
    | cons second more =>
      rw [encode_cons, encode_cons, List.cons_lt_cons_iff]
      rcases Nat.lt_trichotomy character.toNat second.toNat with less | same | greater
      · exact iff_of_true (encodeChar_lt less _ _) (.inl less)
      · obtain rfl := Char.toNat_inj.mp same
        rw [← compare_eq_lt, compare_append_left, compare_eq_lt, inductionHypothesis]
        refine ⟨fun less => .inr ⟨rfl, less⟩, ?_⟩
        rintro (less | ⟨_, less⟩)
        · exact absurd less (Nat.lt_irrefl _)
        · exact less
      · refine iff_of_false (List.lt_asymm (encodeChar_lt greater _ _)) ?_
        rintro (less | ⟨rfl, _⟩)
        · exact Nat.lt_asymm less greater
        · exact Nat.lt_irrefl _ greater

/-- So are strings. -/
theorem ofString_le_iff (text other : String) : ofString text ≤ ofString other ↔ text ≤ other := by
  rw [← String.not_lt, String.lt_iff, ← encode_lt_iff]
  rfl

end Utf8

namespace Files

/-- A list of texts is the listing of names: each name read with replacement, as often as it is
there, in the order of the octets of the texts. -/
structure IsListing (names : List Bytes) (listed : List String) : Prop where
  ordered : listed.Pairwise fun left right => Utf8.ofString left ≤ Utf8.ofString right
  complete : ∃ read : List String,
    List.Forall₂ (fun name text => Utf8.Replaced name text.toList) names read ∧ listed.Perm read

/-- Names have one reading with replacement. -/
theorem read_eq {names : List Bytes} {read : List String}
    (replaced : List.Forall₂ (fun name text => Utf8.Replaced name text.toList) names read) :
    read = names.map Utf8.toStringLossy := by
  induction replaced with
  | nil => rfl
  | cons first _ inductionHypothesis =>
    rw [List.map_cons, inductionHypothesis, Utf8.toStringLossy, ← first.eq_decodeLossy,
      String.ofList_toList]

/-- Names are read with replacement. -/
theorem replaced_read (names : List Bytes) :
    List.Forall₂ (fun name text => Utf8.Replaced name text.toList) names
      (names.map Utf8.toStringLossy) := by
  rw [List.forall₂_map_right_iff, List.forall₂_same]
  intro name _
  rw [Utf8.toStringLossy, String.toList_ofList]
  exact Utf8.decodeLossy_replaced name

/-- The sorted readings of names are a listing of them. -/
theorem isListing_mergeSort (names : List Bytes) : IsListing names
    ((names.map Utf8.toStringLossy).mergeSort fun left right => left ≤ right) := by
  constructor
  · have transitive : ∀ first second third : String, decide (first ≤ second) = true →
        decide (second ≤ third) = true → decide (first ≤ third) = true :=
      fun _ _ _ => by simpa using String.le_trans
    have total : ∀ first second : String,
        (decide (first ≤ second) || decide (second ≤ first)) = true :=
      fun first second => by simpa using String.le_total first second
    have sorted := List.pairwise_mergeSort transitive total (names.map Utf8.toStringLossy)
    exact sorted.imp fun ordered => (Utf8.ofString_le_iff _ _).mpr (of_decide_eq_true ordered)
  · exact ⟨_, replaced_read names, List.mergeSort_perm _ _⟩

/-- Names have one listing, in whatever order they come. -/
theorem IsListing.unique {names others : List Bytes} {listed again : List String}
    (one : IsListing names listed) (other : IsListing others again) (same : names.Perm others) :
    listed = again := by
  obtain ⟨read, replaced, perm⟩ := one.complete
  obtain ⟨_, otherReplaced, otherPerm⟩ := other.complete
  rw [read_eq replaced] at perm
  rw [read_eq otherReplaced] at otherPerm
  have all := perm.trans ((same.map Utf8.toStringLossy).trans otherPerm.symm)
  refine List.Perm.eq_of_pairwise ?_ one.ordered other.ordered all
  intro left right _ _ less more
  rw [Utf8.ofString_le_iff] at less more
  exact String.le_antisymm less more

/-- The listing of a path is a listing of the names in its directory. -/
theorem isListing_listing {files : Files} {path : Path} {directory : Directory}
    (found : files.directory? path = some directory) :
    IsListing directory.members.names (files.listing path) := by
  rw [listing, found]
  exact isListing_mergeSort directory.members.names

/-- In whatever order the directory under a path returns its names, the listing of the path is the
one listing of those names. Another directory with the same names has the same listing. Where no
directory is, nothing is listed. -/
theorem listing_exact (files : Files) (path : Path) :
    (∀ directory, files.directory? path = some directory →
      (∀ returned, returned.Perm directory.members.names →
        ∀ listed, IsListing returned listed ↔ listed = files.listing path) ∧
      ∀ (others : Files) (place : Path) (other : Directory), others.directory? place = some other →
        other.members.names.Perm directory.members.names →
          others.listing place = files.listing path) ∧
    (files.directory? path = none → files.listing path = []) := by
  refine ⟨fun directory found => ⟨fun returned same listed => ⟨fun made => ?_, ?_⟩, ?_⟩, ?_⟩
  · exact made.unique (isListing_listing found) same
  · rintro rfl
    have returnedListing := isListing_mergeSort returned
    rwa [returnedListing.unique (isListing_listing found) same] at returnedListing
  · intro others place other otherFound same
    exact (isListing_listing otherFound).unique (isListing_listing found) same
  · intro none
    rw [listing, none]

/-- A working directory with a hidden file, a link, a directory, and two names that are no text. -/
def gathered : Files := .ofWorking
  [([0xFF], .file []), (Utf8.ofString "d", .directory []), (Utf8.ofString ".b", .file []),
    ([0xFE], .link (Utf8.ofString "nowhere"))]

/-- The two names that are no text are read alike, and both are listed. -/
theorem gathered_listed :
    (∃ directory, gathered.directory? (.ofString ".") = some directory ∧
      directory.members.names = [[0xFF], Utf8.ofString "d", Utf8.ofString ".b", [0xFE]] ∧
      ∀ listed, IsListing [Utf8.ofString ".b", [0xFE], [0xFF], Utf8.ofString "d"] listed ↔
        listed = gathered.listing (.ofString ".")) ∧
    gathered.listing (.ofString ".") = [".b", "d", "\uFFFD", "\uFFFD"] ∧
    gathered.directory? (.ofString "missing") = none ∧
    gathered.listing (.ofString "missing") = [] := by
  have names : (gathered.directory? (.ofString ".")).map (fun held => held.members.names) =
      some [[0xFF], Utf8.ofString "d", Utf8.ofString ".b", [0xFE]] := by decide +kernel
  obtain ⟨directory, found, names⟩ := Option.map_eq_some_iff.mp names
  have missing : gathered.directory? (.ofString "missing") = none := by decide +kernel
  have exact := (listing_exact gathered (.ofString ".")).1 directory found
  have listed := exact.1 [Utf8.ofString ".b", [0xFE], [0xFF], Utf8.ofString "d"]
    (names ▸ by decide)
  have shown : IsListing [Utf8.ofString ".b", [0xFE], [0xFF], Utf8.ofString "d"]
      [".b", "d", "\uFFFD", "\uFFFD"] :=
    ⟨by decide +kernel, _, replaced_read _, by decide +kernel⟩
  exact ⟨⟨directory, found, names, listed⟩, ((listed _).mp shown).symm, missing,
    (listing_exact gathered (.ofString "missing")).2 missing⟩

end Files

end AgentKit
