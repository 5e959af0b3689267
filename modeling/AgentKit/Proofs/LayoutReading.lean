import AgentKit.Proofs.LayoutGrammar

/-!
# The texts that are layouts

The readers of objects and of lists are loops over a draft. Each loop is described from where it
stands: in front of the first member or behind some member, with a comma before the next one. What
the loop passes up to the closing bracket is then a piece of the grammar, and what it returns is the
draft that took the members of that piece. Both directions are shown, so a text is read exactly when
the grammar has it, and the layout is the one that the grammar gives.
-/

namespace AgentKit.Layout

open Json

/-! ## Members -/

/-- What stands in front of a member or an element that is not the first: a comma. -/
inductive IsGap : Bool → Bytes → Prop where
  | first : IsGap true []
  | later {back : Bytes} (blanks : IsBlanks back) : IsGap false (back ++ [code ','])

/-- Blanks are skipped up to a quote. -/
theorem skipBlanks_quoted {front : Bytes} (before : IsBlanks front) (body rest : Bytes) :
    skipBlanks (front ++ (quoted body ++ rest)) = code '"' :: (body ++ code '"' :: rest) := by
  rw [quoted_append]
  exact skipBlanks_front before (code '"') _ rfl

/-- A key is read from its quote on. -/
theorem scanKey_eq_ok {octets rest : Bytes} {key : String} :
    scanKey octets = .ok (key, rest) ↔
      ∃ body, Spells body key.toList ∧ octets = quoted body ++ rest := by
  constructor
  · intro scanned
    unfold scanKey at scanned
    split at scanned
    · cases scanned
    split at scanned
    · rename_i quote
      obtain ⟨body, rfl, spells⟩ := scanString_eq_ok.mp scanned
      exact ⟨body, spells, by rw [quote, quoted_append]⟩
    split at scanned <;> cases scanned
  · rintro ⟨body, spells, rfl⟩
    have string : scanString (body ++ code '"' :: rest) = .ok (key, rest) :=
      scanString_eq_ok.mpr ⟨body, rfl, spells⟩
    rw [quoted_append, scanKey, if_pos rfl]
    exact string

/-- The object is left at its brace. -/
theorem nextKey_none {first : Bool} {octets rest : Bytes} :
    nextKey first octets = .ok (none, rest) ↔
      ∃ back, IsBlanks back ∧ octets = back ++ code '\x7d' :: rest := by
  constructor
  · intro passed
    unfold nextKey at passed
    split at passed
    · cases passed
    rename_i octet after left
    split at passed
    · rename_i brace
      cases passed
      exact skipBlanks_cut (brace ▸ left)
    split at passed
    · cases passed
    split at passed <;> cases passed
  · rintro ⟨back, blanks, rfl⟩
    rw [nextKey, skipBlanks_front blanks (code '\x7d') rest rfl]
    rfl

/-- A key is read behind a comma, or without one in front of the first member. -/
theorem nextKey_some {first : Bool} {octets rest : Bytes} {key : String} :
    nextKey first octets = .ok (some key, rest) ↔
      ∃ gap front body, IsGap first gap ∧ IsBlanks front ∧ Spells body key.toList ∧
        octets = gap ++ (front ++ (quoted body ++ rest)) := by
  constructor
  · intro passed
    unfold nextKey at passed
    split at passed
    · cases passed
    rename_i octet after left
    obtain ⟨back, blanks, rfl⟩ := skipBlanks_cut left
    split at passed
    · cases passed
    split at passed
    · cases passed
    rename_i comma
    split at passed
    · rename_i keyed
      cases passed
      obtain ⟨body, spells, split⟩ := scanKey_eq_ok.mp keyed
      cases first with
      | true =>
        rw [if_pos rfl] at split
        exact ⟨[], back, body, .first, blanks, spells, by rw [split]; rfl⟩
      | false =>
        rw [if_neg Bool.false_ne_true] at split
        obtain ⟨front, before, whole⟩ := skipBlanks_split after
        have isComma : octet = code ',' := by simpa using comma
        refine ⟨_, front, body, .later blanks, before, spells, ?_⟩
        rw [isComma, whole, split]
        simp
    · cases passed
  · rintro ⟨gap, front, body, isGap, before, spells, rfl⟩
    have keyed : scanKey (code '"' :: (body ++ code '"' :: rest)) = .ok (key, rest) :=
      scanKey_eq_ok.mpr ⟨body, spells, (quoted_append body rest).symm⟩
    have quote := skipBlanks_quoted before body rest
    cases isGap with
    | first =>
      have noBrace : code '"' ≠ code '\x7d' := by decide
      rw [List.nil_append, nextKey, quote]
      simp [noBrace, keyed]
    | @later back blanks =>
      have comma := skipBlanks_front blanks (code ',') (front ++ (quoted body ++ rest)) rfl
      have noBrace : code ',' ≠ code '\x7d' := by decide
      rw [List.append_assoc, List.singleton_append, nextKey, comma]
      simp [noBrace, quote, keyed]

/-- A string value is read with the blanks before it, whatever else would be expected. -/
theorem scanText_eq_ok {expectation text : String} {octets rest : Bytes} :
    scanText expectation octets = .ok (text, rest) ↔
      ∃ front body, IsBlanks front ∧ Spells body text.toList ∧
        octets = front ++ (quoted body ++ rest) := by
  constructor
  · intro scanned
    unfold scanText at scanned
    split at scanned
    · cases scanned
    rename_i octet after left
    obtain ⟨front, before, rfl⟩ := skipBlanks_cut left
    split at scanned
    · rename_i quote
      obtain ⟨body, rfl, spells⟩ := scanString_eq_ok.mp scanned
      exact ⟨front, body, before, spells, by rw [quote, quoted_append]⟩
    · cases scanned
  · rintro ⟨front, body, before, spells, rfl⟩
    have string : scanString (body ++ code '"' :: rest) = .ok (text, rest) :=
      scanString_eq_ok.mpr ⟨body, rfl, spells⟩
    rw [scanText, skipBlanks_quoted before body rest]
    simpa using string

/-- A key and what is read behind it are a member that the draft takes. -/
theorem member_split {draft found : Draft} {first : Bool} {octets middle rest : Bytes}
    {key : String} (keyed : nextKey first octets = .ok (some key, middle))
    (scanned : scanKeyed draft key middle = .ok (found, rest)) :
    ∃ gap entry written, IsGap first gap ∧ IsMember entry written ∧ draft.Takes entry.toList ∧
      found = draft.putAll entry.toList ∧ octets = gap ++ (written ++ rest) := by
  obtain ⟨gap, front, body, isGap, before, named, rfl⟩ := nextKey_some.mp keyed
  unfold scanKeyed at scanned
  split at scanned
  · rename_i unknown
    split at scanned
    · rename_i final skipped
      cases scanned
      unfold skipMember at skipped
      split at skipped
      · rename_i after colon
        obtain ⟨between, blanks, rfl⟩ := skipColon_eq_ok.mp colon
        obtain ⟨behind, written, more, value, rfl⟩ := skipValue_split skipped
        have member := IsMember.other before named (Field.ofKey?_eq_none.mp unknown) blanks more
          value
        exact ⟨gap, none, _, isGap, member, trivial, rfl, by simp⟩
      · cases skipped
    · cases scanned
  · rename_i field known
    obtain rfl := Field.ofKey?_eq_some.mp known
    split at scanned
    · cases scanned
    rename_i new
    unfold scanField at scanned
    split at scanned
    · cases scanned
    rename_i after colon
    split at scanned
    · rename_i text final value
      cases scanned
      obtain ⟨between, blanks, rfl⟩ := skipColon_eq_ok.mp colon
      obtain ⟨behind, written, more, spells, rfl⟩ := scanText_eq_ok.mp value
      have member := IsMember.field before named blanks more spells
      have takes : draft.Takes [(field, text)] := by simpa using new
      exact ⟨gap, some (field, text), _, isGap, member, takes, rfl, by simp⟩
    · cases scanned

/-- A member that the draft takes is read, unless it is a number that goes on. -/
theorem IsMember.scanKeyed {entry : Option (Field × String)} {written : Bytes}
    (member : IsMember entry written) {draft : Draft} (takes : draft.Takes entry.toList)
    {first : Bool} {gap : Bytes} (isGap : IsGap first gap) {rest : Bytes}
    (ends : EndsNumber rest) :
    ∃ key middle, nextKey first (gap ++ (written ++ rest)) = .ok (some key, middle) ∧
      scanKeyed draft key middle = .ok (draft.putAll entry.toList, rest) := by
  cases member with
  | @field field text front key between behind body before named colon after value =>
    refine ⟨field.key, between ++ code ':' :: (behind ++ (quoted body ++ rest)), ?_, ?_⟩
    · exact nextKey_some.mpr ⟨gap, front, key, isGap, before, named, by simp⟩
    · have new : (draft.get? field).isSome = false := by simpa using takes
      have passed : skipColon (between ++ code ':' :: (behind ++ (quoted body ++ rest))) =
          .ok (behind ++ (quoted body ++ rest)) := skipColon_eq_ok.mpr ⟨between, colon, rfl⟩
      have read : scanText field.expectation (behind ++ (quoted body ++ rest)) =
          .ok (text, rest) := scanText_eq_ok.mpr ⟨behind, body, after, value, rfl⟩
      simp [Layout.scanKeyed, Field.ofKey?_key, new, scanField, passed, read]
  | @other name front key between behind written before named unknown colon after value =>
    refine ⟨name, between ++ code ':' :: (behind ++ (written ++ rest)), ?_, ?_⟩
    · exact nextKey_some.mpr ⟨gap, front, key, isGap, before, named, by simp⟩
    · have absent := Field.ofKey?_eq_none.mpr unknown
      have passed : skipColon (between ++ code ':' :: (behind ++ (written ++ rest))) =
          .ok (behind ++ (written ++ rest)) := skipColon_eq_ok.mpr ⟨between, colon, rfl⟩
      have skipped := value.skipValue after ends
      simp [Layout.scanKeyed, absent, skipMember, passed, skipped]

/-! ## Objects -/

/-- The members that a reader still finds, from where it stands to the closing brace. -/
inductive IsRemainder (first : Bool) : List (Field × String) → Bytes → Prop where
  | none {back : Bytes} (blanks : IsBlanks back) : IsRemainder first [] back
  | some {found : List (Field × String)} {gap inside : Bytes} (isGap : IsGap first gap)
      (members : IsMembers found inside) : IsRemainder first found (gap ++ inside)

/-- A member and those that remain behind it are members. -/
theorem IsRemainder.isMembers {found : List (Field × String)} {back : Bytes}
    (remainder : IsRemainder false found back) {entry : Option (Field × String)} {written : Bytes}
    (member : IsMember entry written) : IsMembers (entry.toList ++ found) (written ++ back) := by
  cases remainder with
  | none blanks =>
    rw [List.append_nil]
    exact .last member blanks
  | some isGap members =>
    cases isGap with
    | @later back blanks =>
      rw [List.append_assoc]
      exact .more member blanks members

/-- What the reader of objects passes are members, and its draft has taken them. -/
theorem scanFields_split {draft final : Draft} {first : Bool} {octets rest : Bytes}
    (scanned : scanFields draft first octets = .ok (final, rest)) :
    ∃ found inside, IsRemainder first found inside ∧ draft.Takes found ∧
      final = draft.putAll found ∧ octets = inside ++ code '\x7d' :: rest := by
  fun_induction scanFields draft first octets with
  | case1 => cases scanned
  | case2 draft first octets after left =>
    cases scanned
    obtain ⟨back, blanks, rfl⟩ := nextKey_none.mp left
    exact ⟨[], back, .none blanks, trivial, rfl, rfl⟩
  | case3 => cases scanned
  | case4 draft first octets key middle keyed found after step inductionHypothesis =>
    obtain ⟨gap, entry, written, isGap, member, takes, rfl, rfl⟩ := member_split keyed step
    obtain ⟨later, inside, remainder, more, rfl, rfl⟩ := inductionHypothesis scanned
    refine ⟨entry.toList ++ later, _, .some isGap (remainder.isMembers member), ?_, ?_, ?_⟩
    · exact (draft.takes_append _ _).mpr ⟨takes, more⟩
    · exact (draft.putAll_append _ _).symm
    · simp

/-- One member is read and then those behind it. -/
theorem scanFields_next {draft found : Draft} {first : Bool} {octets middle rest : Bytes}
    {key : String} (keyed : nextKey first octets = .ok (some key, middle))
    (step : scanKeyed draft key middle = .ok (found, rest)) :
    scanFields draft first octets = scanFields found false rest := by
  rw [scanFields]
  split
  · rename_i failed
    cases keyed.symm.trans failed
  · rename_i left
    cases keyed.symm.trans left
  rename_i other after passed
  cases keyed.symm.trans passed
  split
  · rename_i failed
    cases step.symm.trans failed
  · rename_i read
    cases step.symm.trans read
    rfl

/-- The brace ends the members. -/
theorem scanFields_close {back : Bytes} (blanks : IsBlanks back) (draft : Draft) (first : Bool)
    (rest : Bytes) : scanFields draft first (back ++ code '\x7d' :: rest) = .ok (draft, rest) := by
  have close : nextKey first (back ++ code '\x7d' :: rest) = .ok (none, rest) :=
    nextKey_none.mpr ⟨back, blanks, rfl⟩
  rw [scanFields]
  split
  · rename_i failed
    cases close.symm.trans failed
  · rename_i left
    cases close.symm.trans left
    rfl
  · rename_i passed
    cases close.symm.trans passed

/-- Members that the draft takes are read up to the closing brace. -/
theorem IsMembers.scanFields {found : List (Field × String)} {inside : Bytes}
    (members : IsMembers found inside) {draft : Draft} (takes : draft.Takes found) {first : Bool}
    {gap : Bytes} (isGap : IsGap first gap) (rest : Bytes) :
    scanFields draft first (gap ++ (inside ++ code '\x7d' :: rest)) =
      .ok (draft.putAll found, rest) := by
  induction members generalizing draft first gap with
  | last member behind =>
    have ends := endsNumber_blanks behind (code '\x7d') rest (Frame.object.closing_ends rest)
    obtain ⟨key, middle, keyed, step⟩ := member.scanKeyed takes isGap ends
    rw [List.append_assoc, scanFields_next keyed step]
    exact scanFields_close behind _ false rest
  | @more entry found written back later member behind members inductionHypothesis =>
    obtain ⟨first, second⟩ := (draft.takes_append _ _).mp takes
    have ends := endsNumber_blanks behind (code ',') (later ++ code '\x7d' :: rest) (comma_ends _)
    obtain ⟨key, middle, keyed, step⟩ := member.scanKeyed first isGap ends
    have next := inductionHypothesis second (.later behind)
    rw [List.append_assoc, List.append_assoc, List.cons_append, scanFields_next keyed step,
      draft.putAll_append, ← next]
    simp

/-! ## Lists -/

/-- The list ends at its bracket. -/
theorem nextElement?_none {first : Bool} {octets : Bytes} :
    nextElement? first octets = .ok none ↔
      ∃ back rest, IsBlanks back ∧ octets = back ++ code ']' :: rest := by
  constructor
  · intro passed
    unfold nextElement? at passed
    split at passed
    · cases passed
    rename_i octet after left
    split at passed
    · rename_i bracket
      obtain ⟨back, blanks, split⟩ := skipBlanks_cut left
      exact ⟨back, after, blanks, bracket ▸ split⟩
    split at passed
    · cases passed
    split at passed
    · repeat' split at passed
      all_goals cases passed
    · cases passed
  · rintro ⟨back, rest, blanks, rfl⟩
    rw [nextElement?, skipBlanks_front blanks (code ']') rest rfl]
    rfl

/-- What is passed in front of an element is a comma, or nothing in front of the first one. -/
theorem nextElement?_split {first : Bool} {octets element : Bytes}
    (passed : nextElement? first octets = .ok (some element)) :
    ∃ gap front, IsGap first gap ∧ IsBlanks front ∧ octets = gap ++ (front ++ element) := by
  unfold nextElement? at passed
  split at passed
  · cases passed
  rename_i octet after left
  obtain ⟨back, blanks, rfl⟩ := skipBlanks_cut left
  split at passed
  · cases passed
  split at passed
  · rename_i isFirst
    cases passed
    subst isFirst
    exact ⟨[], back, .first, blanks, rfl⟩
  rename_i notFirst
  split at passed
  · rename_i comma
    split at passed
    · cases passed
    rename_i next behind more
    split at passed
    · cases passed
    cases passed
    obtain ⟨front, before, rfl⟩ := skipBlanks_cut more
    obtain rfl : first = false := by simpa using notFirst
    exact ⟨_, front, .later blanks, before, by rw [comma]; simp⟩
  · cases passed

/-- A string is passed to as an element. -/
theorem nextElement?_quoted {first : Bool} {gap front : Bytes} (isGap : IsGap first gap)
    (before : IsBlanks front) (body rest : Bytes) :
    nextElement? first (gap ++ (front ++ (quoted body ++ rest))) =
      .ok (some (quoted body ++ rest)) := by
  have quote := skipBlanks_quoted before body rest
  have noBracket : code '"' ≠ code ']' := by decide
  have noEnd : code ',' ≠ code ']' := by decide
  cases isGap with
  | first =>
    rw [List.nil_append, nextElement?, quote, quoted_append]
    simp [noBracket]
  | @later back blanks =>
    have comma := skipBlanks_front blanks (code ',') (front ++ (quoted body ++ rest)) rfl
    rw [List.append_assoc, List.singleton_append, nextElement?, comma]
    simp only [noEnd, if_false, Bool.false_eq_true, if_true, quote, noBracket]
    rw [quoted_append]

/-- A list in which every member has been found is left at its bracket and nowhere else. -/
theorem endList_eq_ok {octets rest : Bytes} :
    endList octets = .ok rest ↔ ∃ back, IsBlanks back ∧ octets = back ++ code ']' :: rest := by
  constructor
  · intro ended
    unfold endList at ended
    split at ended
    · cases ended
    rename_i octet after left
    split at ended
    · rename_i bracket
      cases ended
      exact skipBlanks_cut (bracket ▸ left)
    split at ended
    · simp only at ended
      split at ended <;> cases ended
    · cases ended
  · rintro ⟨back, blanks, rfl⟩
    rw [endList, skipBlanks_front blanks (code ']') rest rfl]
    rfl

/-- The strings that a reader still finds, from where it stands to the closing bracket. -/
inductive IsTail (first : Bool) : List String → Bytes → Prop where
  | none {back : Bytes} (blanks : IsBlanks back) : IsTail first [] back
  | some {texts : List String} {gap inside : Bytes} (isGap : IsGap first gap)
      (elements : IsElements texts inside) : IsTail first texts (gap ++ inside)

/-- A string and those that remain behind it are elements. -/
theorem IsTail.isElements {texts : List String} {back : Bytes} (remains : IsTail false texts back)
    {text : String} {front body : Bytes} (before : IsBlanks front)
    (value : Spells body text.toList) :
    IsElements (text :: texts) (front ++ (quoted body ++ back)) := by
  cases remains with
  | none blanks => exact .last before value blanks
  | some isGap elements =>
    cases isGap with
    | @later back blanks =>
      rw [List.append_assoc]
      exact .more before value blanks elements

/-- What the reader of lists passes are strings, no more than there are fields to find. -/
theorem scanElements_split {draft final : Draft} {first : Bool} {fields : List Field}
    {octets rest : Bytes} (scanned : scanElements draft first fields octets = .ok (final, rest)) :
    ∃ texts inside, IsTail first texts inside ∧ texts.length ≤ fields.length ∧
      final = draft.putAll (fields.zip texts) ∧ octets = inside ++ code ']' :: rest := by
  have done {octets : Bytes} {draft : Draft} {fields : List Field} {first : Bool}
      (ended : endList octets = .ok rest) :
      ∃ texts inside, IsTail first texts inside ∧ texts.length ≤ fields.length ∧
        draft = draft.putAll (fields.zip texts) ∧ octets = inside ++ code ']' :: rest := by
    obtain ⟨back, blanks, rfl⟩ := endList_eq_ok.mp ended
    exact ⟨[], back, .none blanks, Nat.zero_le _, by simp, rfl⟩
  fun_induction scanElements draft first fields octets with
  | case1 draft first octets after ended =>
    cases scanned
    exact done ended
  | case2 => cases scanned
  | case3 => cases scanned
  | case4 draft first octets field fields left after ended =>
    cases scanned
    exact done ended
  | case5 => cases scanned
  | case6 draft first octets field fields element passed text after value inductionHypothesis =>
    obtain ⟨gap, margin, isGap, outer, rfl⟩ := nextElement?_split passed
    obtain ⟨front, body, before, spells, rfl⟩ := scanText_eq_ok.mp value
    obtain ⟨texts, inside, remains, short, rfl, rfl⟩ := inductionHypothesis scanned
    have blanks : IsBlanks (margin ++ front) := (isBlanks_append _ _).mpr ⟨outer, before⟩
    refine ⟨text :: texts, _, .some isGap (remains.isElements blanks spells), ?_, rfl, by simp⟩
    exact Nat.succ_le_succ short
  | case7 => cases scanned

/-- One string is read and then those behind it. -/
theorem scanElements_next {first : Bool} {gap front body : Bytes} {text : String}
    (isGap : IsGap first gap) (before : IsBlanks front) (value : Spells body text.toList)
    (draft : Draft) (field : Field) (fields : List Field) (rest : Bytes) :
    scanElements draft first (field :: fields) (gap ++ (front ++ (quoted body ++ rest))) =
      scanElements (draft.put field text) false fields rest := by
  have passed := nextElement?_quoted isGap before body rest
  have read : scanText field.expectation (quoted body ++ rest) = .ok (text, rest) :=
    scanText_eq_ok.mpr ⟨[], body, isBlanks_nil, value, rfl⟩
  simp only [scanElements, passed, read]

/-- The bracket ends the strings, whatever fields are left. -/
theorem scanElements_close {back : Bytes} (blanks : IsBlanks back) (draft : Draft) (first : Bool)
    (fields : List Field) (rest : Bytes) :
    scanElements draft first fields (back ++ code ']' :: rest) = .ok (draft, rest) := by
  have ended : endList (back ++ code ']' :: rest) = .ok rest :=
    endList_eq_ok.mpr ⟨back, blanks, rfl⟩
  cases fields with
  | nil => simp only [scanElements, ended]
  | cons field later =>
    have left : nextElement? first (back ++ code ']' :: rest) = .ok none :=
      nextElement?_none.mpr ⟨back, rest, blanks, rfl⟩
    simp only [scanElements, left, ended]

/-- Strings are read up to the closing bracket when there are fields for all of them. -/
theorem IsElements.scanElements {texts : List String} {inside : Bytes}
    (elements : IsElements texts inside) {fields : List Field}
    (short : texts.length ≤ fields.length) (draft : Draft) {first : Bool} {gap : Bytes}
    (isGap : IsGap first gap) (rest : Bytes) :
    scanElements draft first fields (gap ++ (inside ++ code ']' :: rest)) =
      .ok (draft.putAll (fields.zip texts), rest) := by
  induction elements generalizing fields draft first gap with
  | @last text front body back before value behind =>
    cases fields with
    | nil => cases short
    | cons field fields =>
      simp only [List.append_assoc]
      rw [scanElements_next isGap before value, scanElements_close behind, List.zip_cons_cons,
        List.zip_nil_right]
      rfl
  | @more text texts front body back later before value behind elements inductionHypothesis =>
    cases fields with
    | nil => cases short
    | cons field fields =>
      have next := inductionHypothesis (Nat.le_of_succ_le_succ short) (draft.put field text)
        (.later behind)
      rw [List.append_assoc, List.singleton_append] at next
      simp only [List.append_assoc, List.cons_append]
      rw [scanElements_next isGap before value, next]
      rfl

/-! ## Whole texts -/

/-- Fields in their own order differ from each other. -/
theorem Field.zip_once (texts : List String) : ((Field.all.zip texts).map Prod.fst).Nodup := by
  rcases texts with _ | ⟨first, _ | ⟨second, _ | ⟨third, later⟩⟩⟩ <;> simp [Field.all]

/-- What is read as a layout is one, and the draft has taken what it gives. -/
theorem scanLayout_split {octets rest : Bytes} {draft : Draft}
    (scanned : scanLayout octets = .ok (draft, rest)) :
    ∃ found front written, IsBlanks front ∧ IsWritten found written ∧
      draft = Draft.empty.putAll found ∧ octets = front ++ (written ++ rest) := by
  unfold scanLayout at scanned
  split at scanned
  · cases scanned
  rename_i octet after left
  obtain ⟨front, before, rfl⟩ := skipBlanks_cut left
  split at scanned
  · rename_i bracket
    obtain ⟨texts, inside, remains, short, rfl, rfl⟩ := scanElements_split scanned
    cases remains with
    | none blanks =>
      exact ⟨[], front, _, before, .emptyList blanks, by simp, by simp [bracket]⟩
    | some isGap elements =>
      cases isGap with
      | first =>
        exact ⟨_, front, _, before, .list elements short, rfl, by simp [bracket]⟩
  split at scanned
  · rename_i brace
    obtain ⟨found, inside, remainder, takes, rfl, rfl⟩ := scanFields_split scanned
    have once := (Draft.empty_takes found).mp takes
    cases remainder with
    | none blanks =>
      exact ⟨[], front, _, before, .emptyObject blanks, rfl, by simp [brace]⟩
    | some isGap members =>
      cases isGap with
      | first => exact ⟨found, front, _, before, .object members once, rfl, by simp [brace]⟩
  · cases scanned

/-- A brace leads to the members of an object. -/
theorem scanLayout_object {front : Bytes} (before : IsBlanks front) (inside rest : Bytes) :
    scanLayout (front ++ ((code '\x7b' :: (inside ++ [code '\x7d'])) ++ rest)) =
      scanFields .empty true (inside ++ code '\x7d' :: rest) := by
  have left := skipBlanks_front before (code '\x7b') (inside ++ code '\x7d' :: rest) rfl
  have noList : code '\x7b' ≠ code '[' := by decide
  simp [scanLayout, left, noList]

/-- A bracket leads to the elements of a list. -/
theorem scanLayout_list {front : Bytes} (before : IsBlanks front) (inside rest : Bytes) :
    scanLayout (front ++ ((code '[' :: (inside ++ [code ']'])) ++ rest)) =
      scanElements .empty true Field.all (inside ++ code ']' :: rest) := by
  have left := skipBlanks_front before (code '[') (inside ++ code ']' :: rest) rfl
  simp [scanLayout, left]

/-- A written layout is read from behind the blanks before it. -/
theorem IsWritten.scanLayout {found : List (Field × String)} {written : Bytes}
    (valid : IsWritten found written) {front : Bytes} (before : IsBlanks front) (rest : Bytes) :
    scanLayout (front ++ (written ++ rest)) = .ok (Draft.empty.putAll found, rest) := by
  cases valid with
  | emptyObject blanks =>
    rw [scanLayout_object before]
    exact scanFields_close blanks .empty true rest
  | object members once =>
    rw [scanLayout_object before]
    exact members.scanFields ((Draft.empty_takes found).mpr once) .first rest
  | emptyList blanks =>
    rw [scanLayout_list before]
    exact scanElements_close blanks .empty true Field.all rest
  | list elements short =>
    rw [scanLayout_list before]
    exact elements.scanElements short .empty .first rest

/-- A written layout gives no field twice. -/
theorem IsWritten.once {found : List (Field × String)} {written : Bytes}
    (valid : IsWritten found written) : (found.map Prod.fst).Nodup := by
  cases valid with
  | emptyObject blanks => exact List.nodup_nil
  | object members once => exact once
  | emptyList blanks => exact List.nodup_nil
  | list elements short => exact Field.zip_once _

/-- Whatever is read is a text of the grammar, and the layout is the one it gives. -/
theorem isText_of_read {octets : Bytes} {layout : Layout} (accepted : read octets = .ok layout) :
    ∃ found, IsText found octets ∧ layout = ofFound found := by
  unfold read at accepted
  split at accepted
  · cases accepted
  rename_i draft rest scanned
  split at accepted
  · rename_i blank
    cases accepted
    obtain ⟨found, front, written, before, valid, rfl, rfl⟩ := scanLayout_split scanned
    obtain ⟨back, behind, split⟩ := skipBlanks_split rest
    rw [blank, List.append_nil] at split
    subst split
    exact ⟨found, ⟨front, written, rest, before, valid, behind, rfl⟩,
      Draft.complete_putAll ((Draft.empty_takes found).mpr valid.once)⟩
  · cases accepted

/-- Every text of the grammar is read as the layout that it gives. -/
theorem IsText.read {found : List (Field × String)} {octets : Bytes}
    (text : IsText found octets) : read octets = .ok (ofFound found) := by
  obtain ⟨front, written, back, before, valid, behind, rfl⟩ := text
  have blank : skipBlanks back = [] := by
    simpa [skipBlanks] using skipBlanks_append behind []
  rw [Layout.read, valid.scanLayout before back]
  simp only [blank]
  rw [Draft.complete_putAll ((Draft.empty_takes found).mpr valid.once)]

/-- Reading accepts exactly the texts of the grammar: an object in which each of the three fields is
given at most once, and then as a string, among any members of other keys, or a list of up to three
strings in the order of the fields, with nothing but blanks around either. The layout has the text
given for each field and the standard one for each field that is not given. Every other text is
refused. -/
theorem read_accepts (octets : Bytes) :
    (∀ layout, read octets = .ok layout ↔ ∃ found, IsText found octets ∧ layout = ofFound found) ∧
      ((∃ failure, read octets = .error failure) ↔ ¬ ∃ found, IsText found octets) := by
  constructor
  · intro layout
    constructor
    · exact isText_of_read
    · rintro ⟨found, text, rfl⟩
      exact text.read
  · constructor
    · rintro ⟨failure, refused⟩ ⟨found, text⟩
      cases refused.symm.trans text.read
    · intro none
      cases answer : read octets with
      | error failure => exact ⟨failure, rfl⟩
      | ok layout =>
        obtain ⟨found, text, _⟩ := isText_of_read answer
        exact absurd ⟨found, text⟩ none

end AgentKit.Layout
