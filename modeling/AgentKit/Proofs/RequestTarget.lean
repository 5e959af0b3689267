import AgentKit.Http.Target
import AgentKit.Proofs.WrittenString

/-!
# Paths and queries of targets

The path and the query of a target that was read are a text: what the target is written with, up to
a fragment. So a record can show them octet for octet, and a target that begins with a slash is
shown as it was written.
-/

namespace AgentKit.Http.Target

/-- The query with the question mark in front of it, or nothing. -/
def query (target : Target) : Bytes :=
  target.resource.dropWhile fun octet => octet != mark '?'

/-- No fragment mark may stand in a path or a query. -/
theorem not_fragment {octet : UInt8}
    (inside : isPathOctet octet = true ∨ isQueryOctet octet = true) : octet ≠ mark '#' := by
  rintro rfl
  revert inside
  decide

/-- Behind the longest front of its kind stands what is left. -/
theorem cut_front (kind : UInt8 → Bool) (octets : Bytes) :
    octets = octets.takeWhile kind ++ octets.drop (octets.takeWhile kind).length :=
  (List.prefix_iff_eq_append.mp (List.takeWhile_prefix kind)).symm

/-- What is read as a path and a query is what stands in front of a fragment, and it is a text. -/
theorem readResource_split {octets resource : Bytes} (read : readResource octets = .ok resource) :
    (∃ text, resource = Utf8.ofString text) ∧ mark '#' ∉ resource ∧
      ∃ fragment, octets = resource ++ fragment ∧
        (fragment = [] ∨ fragment.head? = some (mark '#')) := by
  have cut := cut_front isPathOctet octets
  have noMark : mark '#' ∉ octets.takeWhile isPathOctet :=
    fun member => not_fragment (.inl (List.all_eq_true.mp List.all_takeWhile _ member)) rfl
  unfold readResource at read
  generalize octets.takeWhile isPathOctet = path at *
  dsimp only at read
  split at read
  · rename_i all
    split at read
    · rename_i text known
      cases read
      exact ⟨⟨text, Utf8.toString?_eq_some.mp known⟩, noMark, [], by rw [cut, all], .inl rfl⟩
    · cases read
  rename_i octet rest left
  split at read
  · rename_i fragment
    split at read
    · rename_i text known
      cases read
      exact ⟨⟨text, Utf8.toString?_eq_some.mp known⟩, noMark, octet :: rest, left ▸ cut,
        .inr (congrArg some fragment)⟩
    · cases read
  split at read
  · rename_i question
    have query := cut_front isQueryOctet rest
    have noQueryMark : mark '#' ∉ rest.takeWhile isQueryOctet :=
      fun member => not_fragment (.inr (List.all_eq_true.mp List.all_takeWhile _ member)) rfl
    generalize rest.takeWhile isQueryOctet = asked at *
    have noneInside : mark '#' ∉ path ++ octet :: asked := by
      have differs : mark '#' ≠ octet := question ▸ by decide
      simp [noMark, noQueryMark, differs]
    -- Behind the query stands nothing or a fragment, and what is checked is the same.
    have ends : Utf8.toString? (path ++ octet :: asked) ≠ none ∧
        path ++ octet :: asked = resource ∧ (rest.drop asked.length = [] ∨
          (rest.drop asked.length).head? = some (mark '#')) := by
      split at read
      · rename_i all
        split at read
        · rename_i text known
          cases read
          exact ⟨by simp [known], rfl, .inl all⟩
        · cases read
      rename_i next behind more
      split at read
      · rename_i fragment
        split at read
        · rename_i text known
          cases read
          exact ⟨by simp [known], rfl, .inr (by rw [more, fragment]; rfl)⟩
        · cases read
      · cases read
    obtain ⟨valid, rfl, ends⟩ := ends
    obtain ⟨text, known⟩ := Option.ne_none_iff_exists'.mp valid
    refine ⟨⟨text, Utf8.toString?_eq_some.mp known⟩, noneInside, rest.drop asked.length, ?_, ends⟩
    rw [List.append_assoc, List.cons_append, ← query, ← left]
    exact cut
  · cases read

/-- A reader of two parts has read the first and then the second. -/
theorem read_parts {α β : Type} {first : Except TargetFault α} {next : α → Except TargetFault β}
    {result : β} (taken : (first >>= next) = .ok result) :
    ∃ value, first = .ok value ∧ next value = .ok result := by
  cases first with
  | error fault => cases taken
  | ok value => exact ⟨value, rfl, taken⟩

/-- Without a path and a query, the empty text is read. -/
theorem empty_text : ∃ text, ([] : Bytes) = Utf8.ofString text := ⟨"", rfl⟩

/-- The path and the query of a target that does not begin with a slash are a text. -/
theorem readFull_text {octets : Bytes} {target : Target} (taken : readFull octets = .ok target) :
    ∃ text, target.resource = Utf8.ofString text := by
  unfold readFull at taken
  obtain ⟨scheme, _, taken⟩ := read_parts taken
  cases scheme with
  | none =>
    obtain ⟨authority, _, taken⟩ := read_parts taken
    split at taken
    · cases taken
      exact empty_text
    · cases taken
  | some scheme =>
    obtain ⟨authority, _, taken⟩ := read_parts taken
    split at taken
    · cases taken
    split at taken
    · cases taken
    obtain ⟨resource, part, taken⟩ := read_parts taken
    cases taken
    exact (readResource_split part).1

/-- The path and the query of a target that is read are a text. -/
theorem read_text {octets : Bytes} {target : Target} (taken : read octets = .ok target) :
    ∃ text, target.resource = Utf8.ofString text := by
  unfold read at taken
  split at taken
  · cases taken
  split at taken
  · cases taken
  · rename_i single
    split at taken
    · rename_i known
      cases taken
      rw [Bool.or_eq_true, decide_eq_true_eq, decide_eq_true_eq] at known
      rcases known with rfl | rfl
      · exact ⟨"/", rfl⟩
      · exact ⟨"*", rfl⟩
    obtain ⟨authority, _, taken⟩ := read_parts taken
    split at taken
    · cases taken
    · cases taken
      exact empty_text
  · split at taken
    · obtain ⟨resource, part, taken⟩ := read_parts taken
      cases taken
      exact (readResource_split part).1
    · exact readFull_text taken

/-- A target that begins with a slash has its path and its query as they are written, up to a
fragment. -/
theorem read_slash {octets : Bytes} {target : Target} (taken : read octets = .ok target)
    (slash : octets.head? = some (mark '/')) :
    mark '#' ∉ target.resource ∧ ∃ fragment, octets = target.resource ++ fragment ∧
      (fragment = [] ∨ fragment.head? = some (mark '#')) := by
  unfold read at taken
  split at taken
  · cases taken
  split at taken
  · cases taken
  · rename_i single
    obtain rfl := Option.some.inj slash
    cases taken
    exact ⟨by decide, [], rfl, .inl rfl⟩
  · rename_i first rest _
    obtain rfl := Option.some.inj slash
    obtain ⟨resource, part, taken⟩ := read_parts taken
    cases taken
    exact (readResource_split part).2

/-- The text that a record shows has the octets of the path and the query. -/
theorem resourceText_exact {octets : Bytes} {target : Target} (taken : read octets = .ok target)
    (written : target.resource ≠ []) : Utf8.ofString target.resourceText = target.resource := by
  obtain ⟨text, same⟩ := read_text taken
  have lossless := (Utf8.encode_decodeLossy target.resource).mpr ⟨text.toList, same⟩
  rw [resourceText, if_neg written, Utf8.toStringLossy, Utf8.ofString, String.toList_ofList]
  exact lossless

/-- A written path and the query behind it are all that is written. -/
theorem resource_parts {target : Target} (writes : target.resource.head? = some (mark '/')) :
    target.resource = target.path ++ target.query := by
  have named : target.resource.takeWhile (fun octet => octet != mark '?') ≠ [] := by
    cases whole : target.resource with
    | nil =>
      rw [whole] at writes
      cases writes
    | cons first rest =>
      rw [whole] at writes
      obtain rfl := Option.some.inj writes
      have differs : (mark '/' != mark '?') = true := by decide
      rw [List.takeWhile_cons, if_pos differs]
      exact List.cons_ne_nil _ _
  rw [path, query]
  simp [named, List.takeWhile_append_dropWhile]

end AgentKit.Http.Target
