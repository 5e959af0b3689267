import AgentKit.Proofs.FieldMerge
import AgentKit.Proofs.FilterChange
import AgentKit.Proofs.RootListing
import AgentKit.Proofs.SecretSession
import Mathlib.Data.List.Induction

/-!
# Environments with one history

A table and the block of a process go through the same changes. The block stays a permutation of the
entries of the table, each written as a name, an equals sign and a value, and no name is there
twice. So both give the value that was set last for a name that variables can have.

They differ in names that no variable can have. A block is scanned for an entry that begins with the
name and an equals sign, so a name that holds an equals sign itself finds an entry of another
variable: the one whose name is in front of the first equals sign, if its value begins with what
follows in the name and a further equals sign. What is found is the rest of that value. A table
finds nothing under such a name.
-/

namespace AgentKit

namespace Utf8

/-- A text whose octets begin with those of another text begins with that text. -/
theorem encode_front {whole front : List Char} {more : Bytes}
    (same : encode whole = encode front ++ more) :
    ∃ rest, whole = front ++ rest ∧ more = encode rest := by
  induction front generalizing whole with
  | nil => exact ⟨whole, rfl, same.symm⟩
  | cons character later inductionHypothesis =>
    rw [encode_cons, List.append_assoc] at same
    cases whole with
    | nil =>
      obtain ⟨first, tail, octets, _⟩ := encodeChar_shape character
      rw [octets] at same
      cases same
    | cons first others =>
      obtain ⟨rfl, behind⟩ := encodeChar_append_inj same
      obtain ⟨rest, rfl, written⟩ := inductionHypothesis behind
      exact ⟨rest, rfl, written⟩

/-- An ASCII character that a text does not hold is no octet of it. -/
theorem not_mem_ofString {text : String} {character : Char} (ascii : character.toNat < 0x80)
    (absent : character ∉ text.toList) : character.toUInt8 ∉ ofString text := by
  intro member
  have value := toUInt8_ascii character ascii
  obtain ⟨held, inside, number⟩ :=
    mem_encode_ascii text.toList character.toUInt8 (value ▸ ascii) member
  rw [value] at number
  exact absent (Char.toNat_inj.mp number ▸ inside)

end Utf8

namespace Environment

/-- A name that a variable can have. -/
structure IsName (name : String) : Prop where
  some : name ≠ ""
  single : '=' ∉ name.toList
  stored : '\x00' ∉ name.toList

/-- A change of one variable. -/
inductive Change where
  | set (name value : String)
  | unset (name : String)

namespace Change

/-- The name of the variable. -/
def name : Change → String
  | .set name _ => name
  | .unset name => name

/-- What the change leaves under the name. -/
def value? : Change → Option String
  | .set _ value => some value
  | .unset _ => none

/-- The name is one that a variable can have, and so is the value. -/
structure Valid (change : Change) : Prop where
  named : IsName change.name
  stored : ∀ value ∈ change.value?, '\x00' ∉ value.toList

/-- An environment with the change made. -/
def apply (change : Change) (environment : Environment) : Except String Environment :=
  match change with
  | .set name value => environment.set name (Utf8.ofString value)
  | .unset name => .ok (environment.unset name)

end Change

/-- An environment after changes, made one after the other. -/
def after (environment : Environment) (changes : List Change) : Except String Environment :=
  changes.foldlM (fun changed change => change.apply changed) environment

/-- What the last change of a name left there, and nothing if there was none. -/
def last? (name : String) (changes : List Change) : Option String :=
  (changes.reverse.find? fun change => change.name == name).bind Change.value?

/-- The entry of a variable in a block. -/
def written (entry : String × String) : Bytes :=
  Utf8.ofString entry.1 ++ equals :: Utf8.ofString entry.2

/-- A block that holds what a table holds. -/
structure Agree (block : List Bytes) (entries : List (String × String)) : Prop where
  same : block.Perm (entries.map written)
  named : ∀ entry ∈ entries, IsName entry.1 ∧ '\x00' ∉ entry.2.toList
  distinct : (entries.map Prod.fst).Nodup

/-- Up to an equals sign the octets of a text are those in front of the sign. -/
theorem encode_sign (front : List Char) :
    Utf8.encode (front ++ ['=']) = Utf8.encode front ++ [equals] := Utf8.encode_append front ['=']

/-- Under a name an entry of a variable has the value of the variable, if the name is that of the
variable; and what follows a further equals sign in the value, if the name is that of the variable,
an equals sign and the piece of the value in between. -/
theorem valueIn?_written {name : String} (single : '=' ∉ name.toList) (value asked : String)
    (octets : Bytes) : valueIn? (Utf8.ofString asked) (written (name, value)) = some octets ↔
      asked = name ∧ octets = Utf8.ofString value ∨
      ∃ part rest, asked = name ++ "=" ++ part ∧ value = part ++ "=" ++ rest ∧
        octets = Utf8.ofString rest := by
  rw [valueIn?_eq_some, written]
  constructor
  · intro same
    rcases List.append_eq_append_iff.mp same with ⟨more, longer, rest⟩ | ⟨more, shorter, rest⟩
    · cases more with
      | nil =>
        rw [List.append_nil] at longer
        exact .inl ⟨String.toList_inj.mp (Utf8.encode_injective _ _ longer),
          (List.cons.inj rest).2.symm⟩
      | cons first later =>
        -- The name goes on with an equals sign, and the value with what is behind it in the name.
        obtain ⟨rfl, behind⟩ := List.cons.inj rest
        have begins : Utf8.encode asked.toList =
            Utf8.encode (name.toList ++ ['=']) ++ later := by
          rw [encode_sign, List.append_assoc]
          exact longer
        obtain ⟨tail, whole, rfl⟩ := Utf8.encode_front begins
        have goesOn : Utf8.encode value.toList = Utf8.encode (tail ++ ['=']) ++ octets := by
          rw [encode_sign, List.append_assoc]
          exact behind
        obtain ⟨left, split, found⟩ := Utf8.encode_front goesOn
        refine .inr ⟨String.ofList tail, String.ofList left, ?_, ?_, ?_⟩
        · rw [← String.toList_inj, whole]
          simp
        · rw [← String.toList_inj, split]
          simp
        · rw [found, Utf8.ofString, String.toList_ofList]
    · cases more with
      | nil =>
        rw [List.append_nil] at shorter
        exact .inl ⟨String.toList_inj.mp (Utf8.encode_injective _ _ shorter.symm),
          (List.cons.inj rest).2⟩
      | cons first later =>
        have inside : equals ∈ Utf8.ofString name := by
          rw [shorter, (List.cons.inj rest).1]
          simp
        exact absurd inside (Utf8.not_mem_ofString (by decide) single)
  · rintro (⟨rfl, rfl⟩ | ⟨part, rest, rfl, rfl, rfl⟩)
    · rfl
    · have sign : Utf8.encodeChar '=' = [equals] := rfl
      simp [Utf8.ofString, sign]

/-- Under a name that variables can have, an entry is found exactly if it is that of the
variable. -/
theorem isNone_valueIn?_written {asked : String} (named : IsName asked) {entry : String × String}
    (plain : IsName entry.1) :
    (valueIn? (Utf8.ofString asked) (written entry)).isNone = (entry.1 != asked) := by
  have found := valueIn?_written plain.single entry.2 asked
  by_cases same : entry.1 = asked
  · have value := (found _).mpr (.inl ⟨same.symm, rfl⟩)
    rw [value, same, bne_self_eq_false]
    rfl
  · rw [bne_iff_ne.mpr same, Option.isNone_iff_eq_none, Option.eq_none_iff_forall_ne_some]
    intro octets value
    rcases (found octets).mp value with ⟨other, _⟩ | ⟨part, _, shape, _⟩
    · exact same other.symm
    · exact named.single (by simp [shape])

/-- A name under which an entry has something begins with the name of its variable, up to the first
equals sign. -/
theorem owner {entry : String × String} (named : IsName entry.1) {asked : String} {octets : Bytes}
    (value : valueIn? (Utf8.ofString asked) (written entry) = some octets) :
    asked.toList.takeWhile (· != '=') = entry.1.toList := by
  have plain : ∀ character ∈ entry.1.toList, (character != '=') = true :=
    fun character member => bne_iff_ne.mpr fun same => named.single (same ▸ member)
  rcases (valueIn?_written named.single _ _ _).mp value with ⟨rfl, _⟩ | ⟨part, _, rfl, _⟩
  · exact List.takeWhile_eq_self_iff.mpr plain
  · rw [String.toList_append, String.toList_append, List.append_assoc,
      List.takeWhile_append_of_pos plain]
    simp

/-- A name under which an entry has something is not empty and holds no zero. -/
theorem askable {entry : String × String} (named : IsName entry.1)
    (stored : '\x00' ∉ entry.2.toList) {asked : String} {octets : Bytes}
    (value : valueIn? (Utf8.ofString asked) (written entry) = some octets) :
    Utf8.ofString asked ≠ [] ∧ 0 ∉ Utf8.ofString asked := by
  constructor
  · intro none
    have front := owner named value
    rw [Utf8.encode_injective asked.toList [] none] at front
    exact named.some (String.toList_inj.mp front.symm)
  · intro zero
    have inside : 0 ∈ written entry := by
      rw [valueIn?_eq_some.mp value]
      exact List.mem_append_left _ zero
    rcases List.mem_append.mp inside with front | behind
    · exact Utf8.not_mem_ofString (by decide) named.stored front
    · rcases List.mem_cons.mp behind with sign | behind
      · exact absurd sign (by decide)
      · exact Utf8.not_mem_ofString (by decide) stored behind

/-- Where at most one entry is found under a name, putting a value there takes that entry out,
wherever it is, and adds the new one. -/
theorem putInBlock_perm {name : Bytes} (value : Bytes) {block : List Bytes}
    (single : block.Pairwise fun entry other =>
      (valueIn? name entry).isNone ∨ (valueIn? name other).isNone) :
    (putInBlock name value block).Perm
      ((name ++ equals :: value) :: block.filter fun entry => (valueIn? name entry).isNone) := by
  induction block with
  | nil => exact .refl _
  | cons entry rest inductionHypothesis =>
    obtain ⟨alone, later⟩ := List.pairwise_cons.mp single
    rw [putInBlock]
    cases found : valueIn? name entry with
    | some held =>
      have others : ∀ other ∈ rest, (valueIn? name other).isNone = true := by
        intro other member
        exact (alone other member).resolve_left (by simp [found])
      rw [List.filter_cons_of_neg (by simp [found]), List.filter_eq_self.mpr others]
      exact .refl _
    | none =>
      rw [List.filter_cons_of_pos (by simp [found])]
      exact ((inductionHypothesis later).cons entry).trans (.swap _ _ _)

namespace Agree

variable {block : List Bytes} {entries : List (String × String)}

/-- What the table holds under a name is an entry of its own. -/
theorem lookup_iff (agree : Agree block entries) (name value : String) :
    entries.lookup name = some value ↔ (name, value) ∈ entries := by
  constructor
  · intro found
    obtain ⟨front, behind, rfl, _⟩ := List.lookup_eq_some_iff.mp found
    simp
  · exact Fields.lookup_of_mem entries agree.distinct (name, value)

/-- The entries of the block are those of the table. -/
theorem mem_iff (agree : Agree block entries) (octets : Bytes) :
    octets ∈ block ↔ ∃ entry ∈ entries, written entry = octets :=
  agree.same.mem_iff.trans List.mem_map

/-- A scan of the block under a name finds what the one entry has that has anything there. -/
theorem blockValue?_eq_some (agree : Agree block entries) {asked : String} {octets : Bytes} :
    blockValue? block (Utf8.ofString asked) = some octets ↔
      ∃ entry ∈ entries, valueIn? (Utf8.ofString asked) (written entry) = some octets := by
  constructor
  · intro found
    rw [blockValue?] at found
    split at found
    · cases found
    · obtain ⟨octets, member, value⟩ := List.exists_of_findSome?_eq_some found
      obtain ⟨entry, held, rfl⟩ := (agree.mem_iff octets).mp member
      exact ⟨entry, held, value⟩
  · rintro ⟨entry, held, value⟩
    obtain ⟨named, stored⟩ := agree.named entry held
    have member := (agree.mem_iff _).mpr ⟨entry, held, rfl⟩
    have asks : ¬ (Utf8.ofString asked = [] ∨ 0 ∈ Utf8.ofString asked) :=
      not_or.mpr (askable named stored value)
    obtain ⟨other, found⟩ :
        ∃ other, block.findSome? (valueIn? (Utf8.ofString asked)) = some other :=
      Option.isSome_iff_exists.mp (List.findSome?_isSome_iff.mpr ⟨_, member, by simp [value]⟩)
    obtain ⟨place, inside, also⟩ := List.exists_of_findSome?_eq_some found
    obtain ⟨second, alsoHeld, rfl⟩ := (agree.mem_iff place).mp inside
    -- The name in front of the first equals sign is that of both entries, so they are one.
    have same : entry.1 = second.1 := String.toList_inj.mp
      ((owner named value).symm.trans (owner (agree.named second alsoHeld).1 also))
    have values := (agree.lookup_iff entry.1 entry.2).mpr held
    rw [same, (agree.lookup_iff second.1 second.2).mpr alsoHeld] at values
    obtain rfl : entry = second := Prod.ext same (Option.some.inj values).symm
    rw [blockValue?, if_neg asks, found, ← also, value]

/-- A scan of the block under a name finds what the table has there, or a part of what it has under
another name. -/
theorem value?_eq_some (agree : Agree block entries) (asked text : String) :
    (process block).value? asked = some text ↔ entries.lookup asked = some text ∨
      ∃ name part, asked = name ++ "=" ++ part ∧
        entries.lookup name = some (part ++ "=" ++ text) := by
  rw [value?, Option.map_eq_some_iff]
  constructor
  · rintro ⟨octets, found, rfl⟩
    obtain ⟨⟨name, value⟩, held, value⟩ := agree.blockValue?_eq_some.mp found
    have named := (agree.named _ held).1
    rcases (valueIn?_written named.single _ _ _).mp value with
      ⟨rfl, rfl⟩ | ⟨part, rest, rfl, rfl, rfl⟩
    · rw [Utf8.toStringLossy_ofString]
      exact .inl ((agree.lookup_iff _ _).mpr held)
    · rw [Utf8.toStringLossy_ofString]
      exact .inr ⟨name, part, rfl, (agree.lookup_iff _ _).mpr held⟩
  · intro held
    refine ⟨Utf8.ofString text, agree.blockValue?_eq_some.mpr ?_, Utf8.toStringLossy_ofString text⟩
    rcases held with own | ⟨name, part, shape, other⟩
    · have member := (agree.lookup_iff asked text).mp own
      refine ⟨_, member, ?_⟩
      exact (valueIn?_written (agree.named _ member).1.single _ _ _).mpr (.inl ⟨rfl, rfl⟩)
    · have member := (agree.lookup_iff name _).mp other
      refine ⟨_, member, ?_⟩
      exact (valueIn?_written (agree.named _ member).1.single _ _ _).mpr
        (.inr ⟨part, text, shape, rfl, rfl⟩)

/-- At most one entry of the block is found under a name that variables can have. -/
theorem single (agree : Agree block entries) {name : String} (named : IsName name) :
    block.Pairwise fun entry other => (valueIn? (Utf8.ofString name) entry).isNone ∨
      (valueIn? (Utf8.ofString name) other).isNone := by
  rw [agree.same.pairwise_iff Or.symm, List.pairwise_map]
  refine (List.pairwise_map.mp agree.distinct).imp_of_mem ?_
  intro entry other member also different
  rw [isNone_valueIn?_written named (agree.named entry member).1,
    isNone_valueIn?_written named (agree.named other also).1, bne_iff_ne, bne_iff_ne]
  by_contra both
  rw [not_or, not_not, not_not] at both
  exact different (both.1.trans both.2.symm)

/-- Without a variable block and table hold the same. -/
theorem unset (agree : Agree block entries) {name : String} (named : IsName name) :
    Agree (block.filter fun entry => (valueIn? (Utf8.ofString name) entry).isNone)
      (entries.filter fun entry => entry.1 != name) := by
  refine ⟨?_, fun entry member => agree.named entry (List.mem_of_mem_filter member), ?_⟩
  · have kept : (entries.map written).filter
        (fun entry => (valueIn? (Utf8.ofString name) entry).isNone) =
          (entries.filter fun entry => entry.1 != name).map written := by
      rw [List.filter_map]
      congr 1
      apply List.filter_congr
      intro entry member
      exact isNone_valueIn?_written named (agree.named entry member).1
    exact kept ▸ agree.same.filter _
  · exact agree.distinct.sublist (List.filter_sublist.map _)

/-- With a variable set they hold the same. -/
theorem set (agree : Agree block entries) {name value : String} (named : IsName name)
    (stored : '\x00' ∉ value.toList) :
    Agree (putInBlock (Utf8.ofString name) (Utf8.ofString value) block)
      ((name, value) :: entries.filter fun entry => entry.1 != name) := by
  obtain ⟨same, names, distinct⟩ := agree.unset named
  refine ⟨(putInBlock_perm _ (agree.single named)).trans (same.cons _), ?_, ?_⟩
  · exact List.forall_mem_cons.mpr ⟨⟨named, stored⟩, names⟩
  · refine List.nodup_cons.mpr ⟨?_, distinct⟩
    intro member
    obtain ⟨entry, held, same⟩ := List.mem_map.mp member
    exact bne_iff_ne.mp (List.mem_filter.mp held).2 same

end Agree

/-- A process sets what variables can have. -/
theorem refusal?_eq_none {name value : String} (named : IsName name)
    (stored : '\x00' ∉ value.toList) :
    refusal? (Utf8.ofString name) (Utf8.ofString value) = none := by
  have zero : ¬ (0 ∈ Utf8.ofString name ∨ 0 ∈ Utf8.ofString value) := not_or.mpr
    ⟨Utf8.not_mem_ofString (by decide) named.stored, Utf8.not_mem_ofString (by decide) stored⟩
  have plain : ¬ (Utf8.ofString name = [] ∨ equals ∈ Utf8.ofString name) := by
    refine not_or.mpr ⟨fun none => ?_, Utf8.not_mem_ofString (by decide) named.single⟩
    exact named.some (String.toList_inj.mp (Utf8.encode_injective _ [] none))
  rw [refusal?, if_neg zero, if_neg plain]

/-- A change that variables allow is made in both environments, and they hold the same behind it:
what the change leaves under its name, and under other names what was there. -/
theorem Change.apply_agree {block : List Bytes} {entries : List (String × String)}
    (agree : Agree block entries) {change : Change} (valid : change.Valid) :
    ∃ changed left, change.apply (process block) = .ok (process changed) ∧
      change.apply (table entries) = .ok (table left) ∧ Agree changed left ∧
      ∀ name, left.lookup name =
        if name = change.name then change.value? else entries.lookup name := by
  obtain ⟨named, stored⟩ := valid
  cases change with
  | set name value =>
    have named : IsName name := named
    have fits : '\x00' ∉ value.toList := stored value rfl
    refine ⟨_, _, ?_, ?_, agree.set named fits, lookup_put entries name value⟩
    · rw [apply, Environment.set, refusal?_eq_none named fits]
    · rw [apply, Environment.set, Utf8.toStringLossy_ofString]
  | unset name =>
    have named : IsName name := named
    refine ⟨_, _, ?_, rfl, agree.unset named, lookup_without entries name⟩
    have nothing : '\x00' ∉ "".toList := by decide
    have accepted : refusal? (Utf8.ofString name) [] = none := refusal?_eq_none named nothing
    rw [apply, Environment.unset, accepted]
    rfl

/-- The last change is made in what the changes in front of it left. -/
theorem after_concat (environment : Environment) (changes : List Change) (change : Change) :
    environment.after (changes ++ [change]) = environment.after changes >>= change.apply := by
  simp [after]

/-- The last change is the one that counts for its name. -/
theorem last?_concat (name : String) (changes : List Change) (change : Change) :
    last? name (changes ++ [change]) =
      if name = change.name then change.value? else last? name changes := by
  rw [last?, List.reverse_append, List.reverse_singleton, List.singleton_append, List.find?_cons]
  by_cases same : change.name = name
  · rw [if_pos same.symm, beq_iff_eq.mpr same]
    rfl
  · rw [if_neg fun other => same other.symm, beq_eq_false_iff_ne.mpr same]
    rfl

/-- After any changes that variables allow both environments hold the same: under each name what its
last change left there. -/
theorem after_agree {changes : List Change} (valid : ∀ change ∈ changes, change.Valid) :
    ∃ block entries, after (process []) changes = .ok (process block) ∧
      after (table []) changes = .ok (table entries) ∧ Agree block entries ∧
      ∀ name, entries.lookup name = last? name changes := by
  induction changes using List.reverseRecOn with
  | nil =>
    exact ⟨[], [], rfl, rfl, ⟨.refl _, (fun _ member => nomatch member), List.nodup_nil⟩,
      fun _ => rfl⟩
  | append_singleton front change inductionHypothesis =>
    obtain ⟨block, entries, blockMade, tableMade, agree, held⟩ :=
      inductionHypothesis fun change member => valid change (List.mem_append_left _ member)
    obtain ⟨changed, left, blockChanged, tableChanged, still, found⟩ :=
      Change.apply_agree agree (valid change (List.mem_append_right _ List.mem_cons_self))
    refine ⟨changed, left, ?_, ?_, still, fun name => ?_⟩
    · rw [after_concat, blockMade]
      exact blockChanged
    · rw [after_concat, tableMade]
      exact tableChanged
    · rw [found, held, last?_concat]

/-- How asking for a secret that has to be there ends, when this is found. A missing one is told to
developers and named in the error. -/
def requirement (name : String) (host : Host) : Option String → Outcome AgentError String × Host
  | some value => (.done value, host)
  | none => (.failed (.secretUnavailable name), host.emit (.secretMissing name))

/-- A look-up in an environment gives a value, as does asking for the secret of that name; and a
secret that has to be there is required accordingly. -/
structure Answers (environment : Environment) (name : String) (expected : Option String) :
    Prop where
  value : environment.value? name = expected
  secret : ∀ host : Host, host.environment = environment →
    (Secrets.get name : Action AgentError (Option String)).run host = (.done expected, host)
  required : ∀ host : Host, host.environment = environment →
    (Secrets.require name).run host = requirement name host expected

/-- Secrets are what a look-up gives. -/
theorem Answers.of_value {environment : Environment} {name : String} {expected : Option String}
    (value : environment.value? name = expected) : Answers environment name expected := by
  subst value
  refine ⟨rfl, ?_, ?_⟩
  · rintro host rfl
    rfl
  · rintro host rfl
    have read : (Secrets.get name : Action AgentError (Option String)).run host =
        (.done (host.environment.value? name), host) := rfl
    rw [Secrets.require]
    refine (Action.andThen_done _ read).trans ?_
    cases host.environment.value? name <;> rfl

/-- A name shows a text if it is the name of another variable, an equals sign and a piece of the
value of that variable, and the text stands in that value behind the piece and an equals sign. -/
def Shows (changes : List Change) (name text : String) : Prop :=
  ∃ other part, name = other ++ "=" ++ part ∧ last? other changes = some (part ++ "=" ++ text)

/-- After any changes that variables allow, a table answers for every name with what its last change
left there. A process answers the same exactly if the name shows no part of another variable, and
otherwise it answers with that part. -/
theorem history_lookup {changes : List Change} (valid : ∀ change ∈ changes, change.Valid) :
    ∃ block entries, after (process []) changes = .ok (process block) ∧
      after (table []) changes = .ok (table entries) ∧
      ∀ name, Answers (table entries) name (last? name changes) ∧
        (Answers (process block) name (last? name changes) ↔ ¬ ∃ text, Shows changes name text) ∧
        ∀ text, Shows changes name text → Answers (process block) name (some text) := by
  obtain ⟨block, entries, blockMade, tableMade, agree, held⟩ := after_agree valid
  refine ⟨block, entries, blockMade, tableMade, fun name => ?_⟩
  have scan (text : String) : (process block).value? name = some text ↔
      last? name changes = some text ∨ Shows changes name text := by
    rw [agree.value?_eq_some, held]
    simp only [held, Shows]
  refine ⟨.of_value (held name), ⟨?_, fun apart => ?_⟩, fun text shown => ?_⟩
  · rintro answers ⟨text, shown⟩
    have found := answers.value.symm.trans ((scan text).mpr (.inr shown))
    obtain ⟨other, part, rfl, _⟩ := shown
    rw [← held] at found
    have named := (agree.named _ ((agree.lookup_iff _ _).mp found)).1
    exact named.single (by simp)
  · refine .of_value (Option.ext fun text => (scan text).trans ?_)
    exact or_iff_left fun shown => apart ⟨text, shown⟩
  · exact .of_value ((scan text).mpr (.inr shown))

/-- Changes that leave one variable, whose value holds an equals sign. -/
def forged : List Change := [.set "B" "1", .set "A" "B=v", .unset "B", .set "A" "B=w"]

theorem forged_valid : ∀ change ∈ forged, change.Valid := by
  have names : IsName "A" ∧ IsName "B" :=
    ⟨⟨by decide, by decide, by decide⟩, ⟨by decide, by decide, by decide⟩⟩
  simp only [forged, List.forall_mem_cons, List.not_mem_nil, false_imp_iff, implies_true, and_true]
  refine ⟨⟨names.2, ?_⟩, ⟨names.1, ?_⟩, ⟨names.2, ?_⟩, ⟨names.1, ?_⟩⟩
  all_goals simp [Change.value?]

/-- Such changes can be made. -/
theorem history_lookup_forged :
    (∀ change ∈ forged, change.Valid) ∧
    ∃ block entries, after (process []) forged = .ok (process block) ∧
      after (table []) forged = .ok (table entries) ∧
      Answers (table entries) "A" (some "B=w") ∧ Answers (process block) "A" (some "B=w") ∧
      Answers (table entries) "B" none ∧ Answers (process block) "B" none ∧
      Answers (table entries) "A=B" none ∧ Answers (process block) "A=B" (some "w") := by
  obtain ⟨block, entries, blockMade, tableMade, answers⟩ := history_lookup forged_valid
  have apart (name : String) (plain : '=' ∉ name.toList) : ¬ ∃ text, Shows forged name text := by
    rintro ⟨text, other, part, rfl, _⟩
    exact plain (by simp)
  obtain ⟨table, agreed, _⟩ := answers "A"
  obtain ⟨otherTable, otherAgreed, _⟩ := answers "B"
  obtain ⟨absent, _, shown⟩ := answers "A=B"
  exact ⟨forged_valid, block, entries, blockMade, tableMade, table,
    agreed.mpr (apart "A" (by decide)), otherTable, otherAgreed.mpr (apart "B" (by decide)), absent,
    shown "w" ⟨"A", "B", rfl, by decide⟩⟩

/-- Under a name that no variable has, the process answers with a part of the value of another
variable, and the table does not. -/
theorem forged_differs :
    (∀ change ∈ forged, change.Valid) ∧ last? "A=B" forged = none ∧
    ∃ block entries, after (process []) forged = .ok (process block) ∧
      after (table []) forged = .ok (table entries) ∧
      (table entries).value? "A=B" = none ∧ (process block).value? "A=B" = some "w" := by
  refine ⟨forged_valid, by decide, [written ("A", "B=w")], [("A", "B=w")], ?_, ?_, rfl, ?_⟩
  · decide +kernel
  · decide +kernel
  · decide +kernel

end Environment

end AgentKit
