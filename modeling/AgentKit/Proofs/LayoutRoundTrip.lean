import AgentKit.Layout.Write
import AgentKit.Proofs.FlatObject
import AgentKit.Proofs.LayoutReading

/-!
# Written layouts are read back

The members of a layout are written in the order of the fields, without blanks, and each text with
the escapes that it needs. That is a text of the grammar in which every field is given, so reading
it gives the layout again, down to the octets of its paths. A layout is written exactly when its
paths are texts, and the paths of a layout that was read always are.
-/

namespace AgentKit

/-- The octets of a path are those of a text. -/
def Path.IsText (path : Path) : Prop := ∃ text, path = .ofString text

namespace Layout

open Json
open Utf8 (encode)

/-- The written member of a field with a given text. -/
def writtenMember (entry : Field × String) : List Char :=
  Json.member entry.1.key.toList (Json.quote entry.2.toList)

/-- A quoted text is a body between quotes, and the body spells the text. -/
theorem encode_quoted (text : List Char) :
    encode (Json.quote text) = quoted (encode (text.flatMap escape)) := by
  rw [Json.quote, List.cons_append, Utf8.encode_cons, Utf8.encode_append]
  rfl

/-- A written member is a member of its field. -/
theorem isMember_written (entry : Field × String) :
    IsMember (some entry) (encode (writtenMember entry)) := by
  obtain ⟨field, text⟩ := entry
  have member := IsMember.field isBlanks_nil (spells_escape field.key.toList) isBlanks_nil
    isBlanks_nil (spells_escape text.toList)
  have octets : encode (writtenMember (field, text)) =
      quoted (encode (field.key.toList.flatMap escape)) ++
        code ':' :: quoted (encode (text.toList.flatMap escape)) := by
    rw [writtenMember, Json.member, Utf8.encode_append, Utf8.encode_cons, encode_quoted,
      encode_quoted]
    rfl
  rw [octets]
  exact member

/-- Written members with commas between them are members. -/
theorem isMembers_written (entry : Field × String) (later : List (Field × String)) :
    IsMembers (entry :: later)
      (encode (writtenMember entry) ++ encode (laterMembers (later.map writtenMember))) := by
  induction later generalizing entry with
  | nil => exact .last (isMember_written entry) isBlanks_nil
  | cons next later inductionHypothesis =>
    have octets := encode_laterMembers (writtenMember next) (later.map writtenMember) []
    simp only [List.append_nil] at octets
    rw [List.map_cons, octets]
    exact .more (isMember_written entry) isBlanks_nil (inductionHypothesis next)

/-- Fields that differ from each other are written as a text in which they are found. -/
theorem isText_written (entry : Field × String) (later : List (Field × String))
    (once : ((entry :: later).map Prod.fst).Nodup) :
    IsText (entry :: later) (encode (Json.object ((entry :: later).map writtenMember))) := by
  have octets : encode (Json.object ((entry :: later).map writtenMember)) =
      code '\x7b' :: ((encode (writtenMember entry) ++
        encode (laterMembers (later.map writtenMember))) ++ [code '\x7d']) := by
    rw [List.map_cons, Json.object, List.cons_append, List.cons_append, Utf8.encode_cons,
      Utf8.encode_append, Utf8.encode_append]
    rfl
  rw [octets]
  exact ⟨[], _, [], isBlanks_nil, .object (isMembers_written entry later) once, isBlanks_nil,
    by simp⟩

/-- The fields of a layout, with texts for its paths. -/
def entries (override mount fallback : String) : List (Field × String) :=
  [(.overrideVariable, override), (.mountPath, mount), (.fallbackPath, fallback)]

/-- A layout of three texts is what is found in its own entries. -/
theorem ofFound_entries (override mount fallback : String) :
    ofFound (entries override mount fallback) =
      ⟨override, .ofString mount, .ofString fallback⟩ := rfl

/-- A layout of three texts is written as the members for its entries. -/
theorem write?_texts (override mount fallback : String) :
    write? ⟨override, .ofString mount, .ofString fallback⟩ =
      some (Json.object ((entries override mount fallback).map writtenMember)) := by
  have first : Utf8.toString? (Path.ofString mount).octets = some mount :=
    Utf8.toString?_ofString mount
  have second : Utf8.toString? (Path.ofString fallback).octets = some fallback :=
    Utf8.toString?_ofString fallback
  simp [write?, Field.all, member?, text?, first, second, entries, writtenMember]

/-- What is written for a layout of three texts is read as that layout. -/
theorem read_texts (override mount fallback : String) :
    read (encode (Json.object ((entries override mount fallback).map writtenMember))) =
      .ok ⟨override, .ofString mount, .ofString fallback⟩ := by
  have once : ((entries override mount fallback).map Prod.fst).Nodup := by simp [entries]
  rw [← ofFound_entries]
  exact (isText_written _ _ once).read

/-- Only a layout whose paths are texts is written. -/
theorem isText_of_write? {layout : Layout} {text : List Char}
    (written : layout.write? = some text) :
    layout.mountPath.IsText ∧ layout.fallbackPath.IsText := by
  have path {octets : Bytes} (known : Utf8.toString? octets ≠ none) : Path.IsText ⟨octets⟩ := by
    obtain ⟨text, same⟩ := Option.ne_none_iff_exists'.mp known
    exact ⟨text, congrArg Path.mk (Utf8.toString?_eq_some.mp same)⟩
  constructor
  · apply path
    intro missing
    simp [write?, Field.all, member?, text?, missing] at written
  · apply path
    intro missing
    simp [write?, Field.all, member?, text?, missing] at written

/-- A layout whose paths are texts is written, and what is written is read as that layout. -/
theorem read_of_isText {layout : Layout} (mount : layout.mountPath.IsText)
    (fallback : layout.fallbackPath.IsText) :
    ∃ text, layout.write? = some text ∧ read (encode text) = .ok layout := by
  obtain ⟨override, mountPath, fallbackPath⟩ := layout
  obtain ⟨first, rfl⟩ := mount
  obtain ⟨second, rfl⟩ := fallback
  exact ⟨_, write?_texts override first second, read_texts override first second⟩

/-- The paths of a layout that was read are texts: those that were found, or the standard ones. -/
theorem isText_of_ofFound (found : List (Field × String)) :
    (ofFound found).mountPath.IsText ∧ (ofFound found).fallbackPath.IsText := by
  have path (text : Option String) (other : String) :
      Path.IsText ((text.map Path.ofString).getD (.ofString other)) := by
    cases text with
    | none => exact ⟨other, rfl⟩
    | some known => exact ⟨known, rfl⟩
  exact ⟨path _ "/workspace", path _ "./workspace"⟩

/-- Reading undoes writing. A layout whose paths are texts is written, and what is written is read
as the same layout, octet for octet in its paths. A layout has no written form exactly if one of its
paths is no text. Whatever text a layout was read from, the layout is written and read back as
itself. -/
theorem read_undoes_write (layout : Layout) :
    (layout.mountPath.IsText ∧ layout.fallbackPath.IsText →
        ∃ text, layout.write? = some text ∧ read (encode text) = .ok layout) ∧
      (layout.write? = none ↔ ¬ (layout.mountPath.IsText ∧ layout.fallbackPath.IsText)) ∧
      ∀ octets, read octets = .ok layout →
        ∃ text, layout.write? = some text ∧ read (encode text) = .ok layout := by
  refine ⟨fun ⟨mount, fallback⟩ => read_of_isText mount fallback, ?_, ?_⟩
  · constructor
    · rintro unwritten ⟨mount, fallback⟩
      obtain ⟨text, written, _⟩ := read_of_isText mount fallback
      cases unwritten.symm.trans written
    · intro noText
      cases written : layout.write? with
      | none => rfl
      | some text => exact absurd (isText_of_write? written) noText
  · intro octets accepted
    obtain ⟨found, _, rfl⟩ := isText_of_read accepted
    obtain ⟨mount, fallback⟩ := isText_of_ofFound found
    exact read_of_isText mount fallback

/-- The standard layout is read from an object without members, and its paths are texts. -/
theorem read_undoes_write_standard :
    (∃ text, standard.write? = some text ∧ read (encode text) = .ok standard) ∧
      read [code '\x7b', code '\x7d'] = .ok standard ∧
      ∃ text, standard.write? = some text ∧ read (encode text) = .ok standard := by
  have empty : IsText [] [code '\x7b', code '\x7d'] :=
    ⟨[], _, [], isBlanks_nil, .emptyObject isBlanks_nil, isBlanks_nil, rfl⟩
  have accepted : read [code '\x7b', code '\x7d'] = .ok standard := empty.read
  obtain ⟨written, _, again⟩ := read_undoes_write standard
  exact ⟨written ⟨⟨"/workspace", rfl⟩, "./workspace", rfl⟩, accepted, again _ accepted⟩

end Layout

end AgentKit
