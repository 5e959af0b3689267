import AgentKit.Layout.Read
import AgentKit.Proofs.NestedValue

/-!
# The language of written layouts

An object has members in any order. A member that is asked for is a string under the key of a field,
and every other member is a value of any kind. A list has up to three strings, for the fields in
their order. The grammar says what has been found beside what is written, and a layout follows from
what has been found alone.

A reader keeps a draft instead of a list. A draft takes members that differ from each other and from
those it has, and a completed draft is the layout of the members taken.
-/

namespace AgentKit.Layout

open Json

/-! ## The grammar -/

/-- A member of an object, with the field and the text that it gives, if it gives any. -/
inductive IsMember : Option (Field × String) → Bytes → Prop where
  | field {field : Field} {text : String} {front key between behind body : Bytes}
      (before : IsBlanks front) (named : Spells key field.key.toList) (colon : IsBlanks between)
      (after : IsBlanks behind) (value : Spells body text.toList) :
      IsMember (some (field, text))
        (front ++ (quoted key ++ (between ++ code ':' :: (behind ++ quoted body))))
  | other {name : String} {front key between behind written : Bytes}
      (before : IsBlanks front) (named : Spells key name.toList)
      (unknown : ∀ field : Field, name ≠ field.key) (colon : IsBlanks between)
      (after : IsBlanks behind) (value : IsValue written) :
      IsMember none (front ++ (quoted key ++ (between ++ code ':' :: (behind ++ written))))

/-- The members of an object, at least one, with a comma between two of them. -/
inductive IsMembers : List (Field × String) → Bytes → Prop where
  | last {entry : Option (Field × String)} {written back : Bytes} (member : IsMember entry written)
      (behind : IsBlanks back) : IsMembers entry.toList (written ++ back)
  | more {entry : Option (Field × String)} {found : List (Field × String)}
      {written back later : Bytes} (member : IsMember entry written) (behind : IsBlanks back)
      (members : IsMembers found later) :
      IsMembers (entry.toList ++ found) (written ++ (back ++ code ',' :: later))

/-- The strings of a list, at least one, with a comma between two of them. -/
inductive IsElements : List String → Bytes → Prop where
  | last {text : String} {front body back : Bytes} (before : IsBlanks front)
      (value : Spells body text.toList) (behind : IsBlanks back) :
      IsElements [text] (front ++ (quoted body ++ back))
  | more {text : String} {texts : List String} {front body back later : Bytes}
      (before : IsBlanks front) (value : Spells body text.toList) (behind : IsBlanks back)
      (elements : IsElements texts later) :
      IsElements (text :: texts) (front ++ (quoted body ++ (back ++ code ',' :: later)))

/-- A written layout, with the fields and texts found in it. No field is found twice. -/
inductive IsWritten : List (Field × String) → Bytes → Prop where
  | emptyObject {inside : Bytes} (blanks : IsBlanks inside) :
      IsWritten [] (code '\x7b' :: (inside ++ [code '\x7d']))
  | object {found : List (Field × String)} {inside : Bytes} (members : IsMembers found inside)
      (once : (found.map Prod.fst).Nodup) :
      IsWritten found (code '\x7b' :: (inside ++ [code '\x7d']))
  | emptyList {inside : Bytes} (blanks : IsBlanks inside) :
      IsWritten [] (code '[' :: (inside ++ [code ']']))
  | list {texts : List String} {inside : Bytes} (elements : IsElements texts inside)
      (short : texts.length ≤ Field.all.length) :
      IsWritten (Field.all.zip texts) (code '[' :: (inside ++ [code ']']))

/-- A whole text: a written layout with blanks on both sides. -/
def IsText (found : List (Field × String)) (octets : Bytes) : Prop :=
  ∃ front written back, IsBlanks front ∧ IsWritten found written ∧ IsBlanks back ∧
    octets = front ++ (written ++ back)

/-- The layout of what has been found: the text found for a field, and what the standard convention
has there when none was found. -/
def ofFound (found : List (Field × String)) : Layout where
  overrideVariable := (found.lookup .overrideVariable).getD standard.overrideVariable
  mountPath := ((found.lookup .mountPath).map Path.ofString).getD standard.mountPath
  fallbackPath := ((found.lookup .fallbackPath).map Path.ofString).getD standard.fallbackPath

/-! ## What has been found -/

/-- Fields have different keys. -/
theorem Field.ofKey?_key (field : Field) : Field.ofKey? field.key = some field := by
  cases field <;> rfl

/-- The field that a key asks for is the one with that key. -/
theorem Field.ofKey?_eq_some {key : String} {field : Field} :
    Field.ofKey? key = some field ↔ key = field.key := by
  constructor
  · intro known
    have same := List.find?_some known
    exact (eq_of_beq same).symm
  · rintro rfl
    exact ofKey?_key field

/-- A key asks for no field when it is the key of none. -/
theorem Field.ofKey?_eq_none {key : String} :
    Field.ofKey? key = none ↔ ∀ field : Field, key ≠ field.key := by
  constructor
  · rintro unknown field rfl
    cases unknown.symm.trans (ofKey?_key field)
  · intro unknown
    cases known : Field.ofKey? key with
    | none => rfl
    | some field => exact absurd (ofKey?_eq_some.mp known) (unknown field)

namespace Draft

/-- All of these members are found, one after the other. -/
def putAll (draft : Draft) (found : List (Field × String)) : Draft :=
  found.foldl (fun draft entry => draft.put entry.1 entry.2) draft

@[simp] theorem putAll_nil (draft : Draft) : draft.putAll [] = draft := rfl

@[simp] theorem putAll_cons (draft : Draft) (entry : Field × String)
    (found : List (Field × String)) :
    draft.putAll (entry :: found) = (draft.put entry.1 entry.2).putAll found := rfl

@[simp] theorem putAll_append (draft : Draft) (front back : List (Field × String)) :
    draft.putAll (front ++ back) = (draft.putAll front).putAll back := List.foldl_append

/-- A member that is found is found there, and no other is. -/
theorem get?_put (draft : Draft) (field other : Field) (text : String) :
    (draft.put field text).get? other = if other = field then some text else draft.get? other := by
  cases field <;> cases other <;> rfl

/-- None of these members is found twice, and none was found before. -/
def Takes : Draft → List (Field × String) → Prop
  | _, [] => True
  | draft, entry :: found => draft.get? entry.1 = none ∧ (draft.put entry.1 entry.2).Takes found

@[simp] theorem takes_nil (draft : Draft) : draft.Takes [] := trivial

@[simp] theorem takes_cons (draft : Draft) (entry : Field × String)
    (found : List (Field × String)) : draft.Takes (entry :: found) ↔
      draft.get? entry.1 = none ∧ (draft.put entry.1 entry.2).Takes found := Iff.rfl

@[simp] theorem takes_append (draft : Draft) (front back : List (Field × String)) :
    draft.Takes (front ++ back) ↔ draft.Takes front ∧ (draft.putAll front).Takes back := by
  induction front generalizing draft with
  | nil => simp
  | cons entry later inductionHypothesis =>
    simp only [List.cons_append, takes_cons, putAll_cons, inductionHypothesis, and_assoc]

/-- Members are taken when they are new and differ from each other. -/
theorem takes_iff (draft : Draft) (found : List (Field × String)) :
    draft.Takes found ↔
      (found.map Prod.fst).Nodup ∧ ∀ entry ∈ found, draft.get? entry.1 = none := by
  induction found generalizing draft with
  | nil => simp
  | cons entry later inductionHypothesis =>
    have new (other : Field × String) :
        (draft.put entry.1 entry.2).get? other.1 = none ↔
          other.1 ≠ entry.1 ∧ draft.get? other.1 = none := by
      rw [get?_put]
      split <;> simp_all
    simp only [takes_cons, inductionHypothesis, new, List.map_cons, List.nodup_cons,
      List.mem_map, List.forall_mem_cons]
    constructor
    · rintro ⟨first, different, all⟩
      refine ⟨⟨?_, different⟩, first, fun other member => (all other member).2⟩
      rintro ⟨other, member, same⟩
      exact (all other member).1 same
    · rintro ⟨⟨absent, different⟩, first, all⟩
      refine ⟨first, different, fun other member => ⟨?_, all other member⟩⟩
      intro same
      exact absent ⟨other, member, same⟩

/-- A draft in which nothing has been found takes members that differ from each other. -/
theorem empty_takes (found : List (Field × String)) :
    Draft.empty.Takes found ↔ (found.map Prod.fst).Nodup := by
  rw [takes_iff, and_iff_left]
  rintro ⟨field, text⟩ _
  cases field <;> rfl

/-- A field that was found before is not among the members taken. -/
theorem Takes.absent {draft : Draft} {found : List (Field × String)} (takes : draft.Takes found)
    {field : Field} {text : String} (before : draft.get? field = some text) :
    found.lookup field = none := by
  apply List.lookup_eq_none_iff.mpr
  intro entry member
  rw [bne_iff_ne]
  rintro rfl
  have new := ((takes_iff draft found).mp takes).2 entry member
  rw [before] at new
  cases new

/-- What is found at last is what was taken, or else what was found before. -/
theorem get?_putAll {draft : Draft} {found : List (Field × String)} (takes : draft.Takes found)
    (field : Field) :
    (draft.putAll found).get? field = (found.lookup field).or (draft.get? field) := by
  induction found generalizing draft with
  | nil => rfl
  | cons entry later inductionHypothesis =>
    rw [putAll_cons, inductionHypothesis takes.2, List.lookup_cons, get?_put]
    by_cases same : field = entry.1
    · have put : (draft.put entry.1 entry.2).get? field = some entry.2 := by
        rw [get?_put, if_pos same]
      rw [takes.2.absent put, if_pos same, same, beq_self_eq_true]
      rfl
    · rw [if_neg same, beq_false_of_ne same]

/-- A completed draft is the layout of what was taken. -/
theorem complete_putAll {found : List (Field × String)} (takes : Draft.empty.Takes found) :
    (Draft.empty.putAll found).complete = ofFound found := by
  have field (field : Field) : (Draft.empty.putAll found).get? field = found.lookup field := by
    rw [get?_putAll takes]
    cases field <;> exact Option.or_none
  have override := field .overrideVariable
  have mount := field .mountPath
  have fallback := field .fallbackPath
  simp only [get?] at override mount fallback
  rw [complete, ofFound, override, mount, fallback]

end Draft

end AgentKit.Layout
