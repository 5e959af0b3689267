import AgentKit.Proofs.FieldMerge
import AgentKit.Proofs.FlatObject

/-!
# The text of a record

A record is written as one object without control characters, so its line ends at the only newline.
The reader of flat objects gives back the merged fields: the three reserved keys, then every other
key at the place of its first occurrence, each with the value that came last.

The meaning of a record is stated without the merging loop. The value of a key is what the caller
gave last for it, or what the record itself has for a reserved key. What a reader finds carries that
value: strings character for character, integers and truth values exactly.
-/

namespace AgentKit.Record

/-- The keys that every record has. -/
def reservedKeys : List String := ["level", "msg", "ts"]

/-- What a record itself has for a reserved key. -/
def reservedValue? (record : Record) : String → Option Value
  | "level" => some (.string record.level.name)
  | "msg" => some (.string record.message)
  | "ts" => some (.string (String.ofList record.clock.text))
  | _ => none

/-- The value of a key: what the caller gave last for it, or else what the record itself has. -/
def value? (record : Record) (key : String) : Option Value :=
  (Fields.last? key record.extras).or (record.reservedValue? key)

/-- The keys of a record, in the order in which they are written. -/
def writtenKeys (record : Record) : List String :=
  reservedKeys ++ (record.extras.keys.filter fun key => decide (key ∉ reservedKeys)).eraseDups

/-- What is read carries a value. A number that is not finite is read as nothing, and any other is
its own token. -/
def Carries : Value → Json.Scalar → Prop
  | .string text, scalar => scalar = .string text
  | .int number, scalar =>
    ∃ token, scalar = .number token ∧ Json.tokenInteger? token = some number.toInt
  | .uint number, scalar =>
    ∃ token, scalar = .number token ∧ Json.tokenInteger? token = some (number.toNat : Int)
  | .float number, scalar =>
    scalar = if number.isFinite then .number number.text else .null
  | .bool truth, scalar => scalar = .bool truth

/-- The value that is read for a written value carries it. -/
theorem scalar_carries (value : Value) : Carries value (Json.scalar value) := by
  cases value with
  | string text => rfl
  | int number =>
    have low := number.le_toInt
    have high := number.toInt_lt
    exact ⟨_, rfl, Json.tokenInteger_integer number.toInt (by omega) (by omega)⟩
  | uint number =>
    have high := number.toNat_lt
    exact ⟨_, rfl, Json.tokenInteger_integer number.toNat (by omega) (by omega)⟩
  | float number => rfl
  | bool truth => rfl

/-- Looking among the reserved fields gives what a record itself has for a key. -/
theorem lookup_reserved (record : Record) (key : String) :
    record.reserved.lookup key = record.reservedValue? key := by
  by_cases level : key = "level"
  · subst level
    rfl
  by_cases message : key = "msg"
  · subst message
    rfl
  by_cases time : key = "ts"
  · subst time
    rfl
  · rw [reservedValue?]
    · simp [reserved, List.lookup_cons, beq_eq_false_iff_ne.mpr level,
        beq_eq_false_iff_ne.mpr message, beq_eq_false_iff_ne.mpr time]
    all_goals assumption

/-- The keys of the merged fields are the written keys, and none is repeated. -/
theorem members_keys (record : Record) :
    record.members.keys = record.writtenKeys ∧ record.members.keys.Nodup := by
  constructor
  · exact Fields.keys_merge record.reserved record.extras
  · exact Fields.keys_merge_nodup record.reserved record.extras (by decide : reservedKeys.Nodup)

/-- Every merged field has the value of its key. -/
theorem members_value (record : Record) (field : String × Value) (member : field ∈ record.members) :
    record.value? field.1 = some field.2 := by
  have found := Fields.lookup_of_mem record.members record.members_keys.2 field member
  rw [members, Fields.lookup_merge, lookup_reserved] at found
  exact found

/-- The line of a record is its octets and a newline, and there is no other newline in it. -/
theorem line_single (record : Record) :
    record.line = Utf8.encode record.text ++ [0x0A] ∧ 0x0A ∉ Utf8.encode record.text := by
  constructor
  · rw [line, Utf8.encode_append]
    rfl
  · intro member
    obtain ⟨character, held, value⟩ := Utf8.mem_encode_ascii record.text 0x0A (by decide) member
    have visible := Json.text_visible record.members character held
    rw [value] at visible
    exact absurd visible (by decide)

/-- A record is written without control characters, and is read as one flat object with the written
keys, none repeated, where each key carries its value. -/
theorem text_read_back (record : Record) :
    (∀ character ∈ record.text, 0x20 ≤ character.toNat) ∧
    ∃ entries, Json.flatMembers? (Utf8.encode record.text) = some entries ∧
      entries.map Prod.fst = record.writtenKeys ∧
      (entries.map Prod.fst).Nodup ∧
      ∀ entry ∈ entries, ∃ value, record.value? entry.1 = some value ∧ Carries value entry.2 := by
  refine ⟨Json.text_visible record.members, record.members.map Json.readBack,
    Json.flatMembers_text record.members, ?_⟩
  have keys : (record.members.map Json.readBack).map Prod.fst = record.members.keys := by
    rw [List.map_map]
    rfl
  obtain ⟨order, distinct⟩ := record.members_keys
  rw [keys]
  refine ⟨order, distinct, ?_⟩
  intro entry found
  obtain ⟨field, member, rfl⟩ := List.mem_map.mp found
  exact ⟨field.2, members_value record field member, scalar_carries field.2⟩

end AgentKit.Record
