import AgentKit.Record

/-!
# Merging fields in place

A merged list of fields keeps each key where it first stood and gives it the value that came last.
Both halves follow from what one assignment does: it leaves the keys as they are, or adds a new one
at the end, and it changes the value of one key only. No assumption on the caller's keys is made;
they may be empty, repeated, or among those already present.
-/

namespace AgentKit.Fields

/-- The keys, in order. -/
def keys (fields : Fields) : List String := fields.map Prod.fst

/-- The value given last for a key. -/
def last? (key : String) : Fields → Option Value
  | [] => none
  | (given, value) :: rest => (last? key rest).or (if given = key then some value else none)

/-- An assignment to a present key moves no key; any other one adds its key at the end. -/
theorem keys_put (fields : Fields) (key : String) (value : Value) :
    (fields.put key value).keys =
      if key ∈ fields.keys then fields.keys else fields.keys ++ [key] := by
  induction fields with
  | nil => rfl
  | cons field rest inductionHypothesis =>
    obtain ⟨present, old⟩ := field
    by_cases same : present = key
    · simp [put, keys, same]
    · have other : (put rest key value).map Prod.fst =
          if key ∈ rest.map Prod.fst then rest.map Prod.fst
          else rest.map Prod.fst ++ [key] := inductionHypothesis
      by_cases later : key ∈ rest.map Prod.fst
      · simp only [put, same, if_false, keys, List.map_cons, other, later, if_true,
          List.mem_cons, or_true]
      · simp only [put, same, if_false, keys, List.map_cons, other, later,
          List.mem_cons, Ne.symm same, or_self, List.cons_append]

/-- An assignment gives its key the new value and leaves the values of all others. -/
theorem lookup_put (fields : Fields) (key asked : String) (value : Value) :
    (fields.put key value).lookup asked =
      if key = asked then some value else fields.lookup asked := by
  induction fields with
  | nil =>
    by_cases same : key = asked
    · simp [put, same]
    · have differs : (asked == key) = false := by simp [Ne.symm same]
      simp [put, List.lookup_cons, same, differs]
  | cons field rest inductionHypothesis =>
    obtain ⟨present, old⟩ := field
    by_cases here : present = key
    · subst here
      by_cases same : present = asked
      · simp [put, same]
      · have differs : (asked == present) = false := by simp [Ne.symm same]
        simp [put, List.lookup_cons, same, differs]
    · by_cases found : present = asked
      · subst found
        simp [put, here, Ne.symm here]
      · have differs : (asked == present) = false := by simp [Ne.symm found]
        simp [put, here, List.lookup_cons, differs, inductionHypothesis]

/-- Merging one more field is an assignment followed by merging the others. -/
theorem merge_cons (fields : Fields) (key : String) (value : Value) (rest : Fields) :
    fields.merge ((key, value) :: rest) = (fields.put key value).merge rest := rfl

/-- Merged keys are those already present, in their places, and behind them every other key at the
place of its first occurrence.

Induct over the added fields. A key that is present leaves the keys alone and is filtered out on the
other side. A new one is appended, so that its later occurrences are filtered out on both sides. -/
theorem keys_merge (fields extras : Fields) :
    (fields.merge extras).keys =
      fields.keys ++ (extras.keys.filter fun key => decide (key ∉ fields.keys)).eraseDups := by
  induction extras generalizing fields with
  | nil => simp [merge, keys]
  | cons extra rest inductionHypothesis =>
    obtain ⟨key, value⟩ := extra
    have head : keys ((key, value) :: rest) = key :: keys rest := rfl
    rw [merge_cons, inductionHypothesis, keys_put, head]
    by_cases present : key ∈ fields.keys
    · simp [present]
    · have narrower : (fun other => decide (other ∉ fields.keys ++ [key])) =
          fun other => decide (other ∉ fields.keys) && !(other == key) := by
        funext other
        by_cases same : other = key <;> simp [same]
      simp only [present, if_false, narrower, List.filter_cons, not_false_eq_true, decide_true,
        if_true, List.eraseDups_cons, List.filter_filter, List.append_assoc, List.singleton_append,
        Bool.and_comm]

/-- A merged key has the value given last among the added fields, or else the one it had. -/
theorem lookup_merge (fields extras : Fields) (asked : String) :
    (fields.merge extras).lookup asked = (last? asked extras).or (fields.lookup asked) := by
  induction extras generalizing fields with
  | nil => rfl
  | cons extra rest inductionHypothesis =>
    obtain ⟨key, value⟩ := extra
    rw [merge_cons, inductionHypothesis, lookup_put, last?, Option.or_assoc]
    by_cases same : key = asked <;> simp [same]

example : merge [("level", .bool true), ("msg", .bool false)]
    [("a", .uint 1), ("msg", .uint 2), ("a", .uint 3)] =
      [("level", .bool true), ("msg", .uint 2), ("a", .uint 3)] := by
  decide

/-- Assignments keep keys distinct. -/
theorem keys_put_nodup (fields : Fields) (key : String) (value : Value)
    (distinct : fields.keys.Nodup) : (fields.put key value).keys.Nodup := by
  rw [keys_put]
  by_cases present : key ∈ fields.keys
  · simpa [present] using distinct
  · rw [if_neg present, List.nodup_append]
    refine ⟨distinct, by simp, ?_⟩
    intro held member other single same
    rw [List.mem_singleton] at single
    exact present (single ▸ same ▸ member)

/-- Merging keeps keys distinct, however often the added fields repeat them. -/
theorem keys_merge_nodup (fields extras : Fields) (distinct : fields.keys.Nodup) :
    (fields.merge extras).keys.Nodup := by
  induction extras generalizing fields with
  | nil => exact distinct
  | cons extra rest inductionHypothesis =>
    exact inductionHypothesis _ (keys_put_nodup fields extra.1 extra.2 distinct)

/-- With distinct keys, the value found for the key of a field is the value of that field. -/
theorem lookup_of_mem {α : Type} (fields : List (String × α))
    (distinct : (fields.map Prod.fst).Nodup) (field : String × α) (member : field ∈ fields) :
    fields.lookup field.1 = some field.2 := by
  induction fields with
  | nil => cases member
  | cons first rest inductionHypothesis =>
    have parts := List.nodup_cons.mp distinct
    rcases List.mem_cons.mp member with rfl | later
    · exact List.lookup_cons_self
    · have elsewhere : (field.1 == first.1) = false := by
        rw [beq_eq_false_iff_ne]
        intro same
        exact parts.1 (same ▸ List.mem_map_of_mem later)
      rw [List.lookup_cons, elsewhere]
      exact inductionHypothesis parts.2 later

end AgentKit.Fields
