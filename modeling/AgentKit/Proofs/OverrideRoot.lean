import AgentKit.Proofs.Utf8Replacement
import AgentKit.Proofs.WorkspaceRepetition
/-!
# An override of any octets

A process holds the override as octets, and a look-up gives a text. Octets of a text give that text,
so the root is the override as it stands. All others are read with replacement: the root then is
another path, and the directories are made under that one.
-/

namespace AgentKit

/-- Octets that are there are not read as an empty text. -/
theorem Utf8.Replaced.ne_nil {octets : Bytes} {characters : List Char}
    (replaced : Replaced octets characters) (some : octets ≠ []) : characters ≠ [] := by
  cases replaced with
  | done => exact absurd rfl some
  | character character rest => exact List.cons_ne_nil _ _
  | part broken rest => exact List.cons_ne_nil _ _

namespace Workspace

/-- An override that is not empty is the root, whatever the files are. -/
theorem select_override {layout : Layout} {host : Host} {text : String}
    (held : host.environment.value? layout.overrideVariable = some text) (some : text ≠ "") :
    select layout host = ⟨.ofString text, .override, []⟩ := by
  have kept : (Option.some text).filter (fun value => !value.isEmpty) = Option.some text := by
    simp [some]
  unfold select Layout.selectRoot
  rw [held, kept]

/-- The root under an override of a process, for any octets of the override.

The override is read as a text, with U+FFFD in the place of each maximal ill-formed part, and that
text is the root. It is the override itself exactly if the override is the octets of some text. A
call that makes the directories and is done has made the three of them under that root. -/
theorem override_root (layout : Layout) (host : Host) (block : List Bytes) (value : Bytes)
    (process : host.environment = .process block)
    (held : Environment.blockValue? block (Utf8.ofString layout.overrideVariable) = some value)
    (some : value ≠ []) :
    ∃ text : String, Utf8.Replaced value text.toList ∧
      ((resolveRoot layout : Action AgentError Path).run host).1 = .done (.ofString text) ∧
      ((Path.ofString text).octets = value ↔ ∃ whole : String, value = Utf8.ofString whole) ∧
      ∀ found after, (ensureDirectories layout).run host = (.done found, after) →
        found = .ofRoot (.ofString text) ∧
          ∀ name ∈ ["data", "output", ".cache"],
            after.files.isDirectory ((Path.ofString text).join (Utf8.ofString name)) = true := by
  have replaced := Utf8.decodeLossy_replaced value
  have letters : (Utf8.toStringLossy value).toList = Utf8.decodeLossy value :=
    String.toList_ofList
  have read : host.environment.value? layout.overrideVariable =
      Option.some (Utf8.toStringLossy value) := by
    rw [process, Environment.value?, held]
    rfl
  have selected := select_override read fun empty => replaced.ne_nil some (by
    rw [← letters, empty]
    rfl)
  refine ⟨Utf8.toStringLossy value, letters ▸ replaced, ?_, ?_, ?_⟩
  · exact congrArg (fun selection => Outcome.done selection.root) selected
  · change Utf8.encode (Utf8.toStringLossy value).toList = value ↔ _
    rw [letters, Utf8.encode_decodeLossy]
    constructor
    · rintro ⟨characters, same⟩
      exact ⟨String.ofList characters, by rw [same, Utf8.ofString, String.toList_ofList]⟩
    · rintro ⟨whole, same⟩
      exact ⟨whole.toList, same⟩
  · intro found after done
    obtain ⟨answer, there⟩ := ensureDirectories_done done
    rw [selected] at answer
    subst answer
    refine ⟨rfl, ?_⟩
    simpa [WorkspacePaths.subdirectories, WorkspacePaths.ofRoot] using there

/-- A process whose override is the letter `w` and an octet that stands in no text. -/
def torn : Host :=
  { bareHost with
    environment := .process [Utf8.ofString "AEGIS_WORKSPACE_PATH=w" ++ [0xFF]] }

theorem torn_root :
    torn.environment = .process [Utf8.ofString "AEGIS_WORKSPACE_PATH=w" ++ [0xFF]] ∧
    Environment.blockValue? [Utf8.ofString "AEGIS_WORKSPACE_PATH=w" ++ [0xFF]]
      (Utf8.ofString Layout.standard.overrideVariable) = some [0x77, 0xFF] ∧
    ∃ text : String, Utf8.Replaced [0x77, 0xFF] text.toList ∧
      ((resolveRoot .standard : Action AgentError Path).run torn).1 = .done (.ofString text) ∧
      ((Path.ofString text).octets = [0x77, 0xFF] ↔
        ∃ whole : String, [0x77, 0xFF] = Utf8.ofString whole) ∧
      ∀ found after, (ensureDirectories .standard).run torn = (.done found, after) →
        found = .ofRoot (.ofString text) ∧
          ∀ name ∈ ["data", "output", ".cache"],
            after.files.isDirectory ((Path.ofString text).join (Utf8.ofString name)) = true := by
  have held : Environment.blockValue? [Utf8.ofString "AEGIS_WORKSPACE_PATH=w" ++ [0xFF]]
      (Utf8.ofString Layout.standard.overrideVariable) = some [0x77, 0xFF] := by decide +kernel
  exact ⟨rfl, held, override_root .standard torn _ _ rfl held (by decide)⟩

/-- The root is not the override then, and nothing is made under the override. -/
theorem torn_root_differs :
    Environment.blockValue? [Utf8.ofString "AEGIS_WORKSPACE_PATH=w" ++ [0xFF]]
      (Utf8.ofString Layout.standard.overrideVariable) = some [0x77, 0xFF] ∧
    ((resolveRoot .standard : Action AgentError Path).run torn).1 =
      .done ⟨[0x77, 0xEF, 0xBF, 0xBD]⟩ ∧
    ((resolveRoot .standard : Action AgentError Path).run torn).1 ≠ .done ⟨[0x77, 0xFF]⟩ ∧
    ((ensureDirectories .standard).run torn).1 = .done (.ofRoot ⟨[0x77, 0xEF, 0xBF, 0xBD]⟩) ∧
    ((ensureDirectories .standard).run torn).2.files.isDirectory ⟨[0x77, 0xFF]⟩ = false := by
  have root : ((resolveRoot .standard : Action AgentError Path).run torn).1 =
      .done ⟨[0x77, 0xEF, 0xBF, 0xBD]⟩ := by decide +kernel
  refine ⟨by decide +kernel, root, ?_, by decide +kernel, by decide +kernel⟩
  rw [root]
  simp

end Workspace

end AgentKit
