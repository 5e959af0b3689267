import AgentKit.Proofs.NumberToken
import AgentKit.Proofs.Utf8Replacement
/-!
# Blanks, words and numbers

What stands between strings and brackets is passed over by readers that look for the end of a token
and keep nothing of it. Each of them passes exactly the tokens of its kind: blanks up to the first
octet that is none, a word letter by letter, and a number token of the grammar. So a text that a
reader got through can be cut into tokens, and one that is made of tokens is got through.
-/

namespace AgentKit.Json

/-- The octets that may stand between tokens. -/
def blankOctets : Bytes := [' ', '\t', '\n', '\r'].map code

/-- Nothing but blanks. -/
def IsBlanks (octets : Bytes) : Prop := ∀ octet ∈ octets, octet ∈ blankOctets

/-- The test for blanks knows these and no others. -/
theorem isBlank_iff (octet : UInt8) : isBlank octet = true ↔ octet ∈ blankOctets := by
  have blanks : blankOctets = [0x20, 0x09, 0x0A, 0x0D] := rfl
  simp [isBlank, blanks, or_assoc]

@[simp] theorem isBlanks_nil : IsBlanks [] := fun _ member => nomatch member

@[simp] theorem isBlanks_append (front back : Bytes) :
    IsBlanks (front ++ back) ↔ IsBlanks front ∧ IsBlanks back := List.forall_mem_append

/-- Nothing is skipped in front of an octet that is not blank. -/
theorem skipBlanks_cons (octet : UInt8) (rest : Bytes) (solid : isBlank octet = false) :
    skipBlanks (octet :: rest) = octet :: rest := by
  simp [skipBlanks, solid]

/-- Blanks are skipped, whatever follows them. -/
theorem skipBlanks_append {front : Bytes} (blanks : IsBlanks front) (rest : Bytes) :
    skipBlanks (front ++ rest) = skipBlanks rest :=
  List.dropWhile_append_of_pos fun octet member => (isBlank_iff octet).mpr (blanks octet member)

/-- Blanks in front of an octet that is none are skipped up to that octet. -/
theorem skipBlanks_front {front : Bytes} (blanks : IsBlanks front) (octet : UInt8) (rest : Bytes)
    (solid : isBlank octet = false) : skipBlanks (front ++ octet :: rest) = octet :: rest := by
  rw [skipBlanks_append blanks, skipBlanks_cons octet rest solid]

/-- What is skipped are blanks. -/
theorem skipBlanks_split (octets : Bytes) :
    ∃ front, IsBlanks front ∧ octets = front ++ skipBlanks octets := by
  refine ⟨octets.takeWhile isBlank, ?_, List.takeWhile_append_dropWhile.symm⟩
  intro octet member
  exact (isBlank_iff octet).mp (List.all_eq_true.mp List.all_takeWhile octet member)

/-- An octet that is found behind skipped blanks stands behind blanks. -/
theorem skipBlanks_cut {octets rest : Bytes} {octet : UInt8}
    (left : skipBlanks octets = octet :: rest) :
    ∃ front, IsBlanks front ∧ octets = front ++ octet :: rest := by
  obtain ⟨front, blanks, split⟩ := skipBlanks_split octets
  rw [left] at split
  exact ⟨front, blanks, split⟩

/-- A word is passed exactly. -/
theorem skipWord_eq_ok {letters : List Char} {octets rest : Bytes} :
    skipWord letters octets = .ok rest ↔ octets = letters.map code ++ rest := by
  constructor
  · intro skipped
    fun_induction skipWord letters octets with
    | case1 =>
      cases skipped
      rfl
    | case2 => cases skipped
    | case3 letter letters octets inductionHypothesis =>
      rw [inductionHypothesis skipped]
      rfl
    | case4 => cases skipped
  · rintro rfl
    induction letters with
    | nil => rfl
    | cons letter later inductionHypothesis =>
      rw [List.map_cons, List.cons_append, skipWord, if_pos rfl]
      exact inductionHypothesis

/-- The octet of a digit comes from a digit. -/
theorem digit_of_isDigit {octet : UInt8} (digit : isDigit octet = true) :
    ∃ character : Char, character.isDigit ∧ octet = code character := by
  have bounds : (code '0').toNat = 0x30 ∧ (code '9').toNat = 0x39 := by decide
  rw [isDigit, Bool.and_eq_true, decide_eq_true_eq, decide_eq_true_eq, UInt8.le_iff_toNat_le,
    UInt8.le_iff_toNat_le, bounds.1, bounds.2] at digit
  have number : (Char.ofNat octet.toNat).toNat = octet.toNat := Utf8.toNat_ofNat (by omega)
  refine ⟨Char.ofNat octet.toNat, ?_, ?_⟩
  · rw [Char.isDigit_iff_toNat, number]
    exact digit
  · apply UInt8.toNat_inj.mp
    rw [Utf8.toUInt8_ascii _ (by omega), number]

/-- What is skipped as digits are digits. -/
theorem skipDigits_split (octets : Bytes) :
    ∃ digits : List Char, (∀ character ∈ digits, character.isDigit) ∧
      octets = digits.map code ++ skipDigits octets := by
  induction octets with
  | nil => exact ⟨[], by simp, rfl⟩
  | cons octet later inductionHypothesis =>
    by_cases digit : isDigit octet = true
    · obtain ⟨character, valid, rfl⟩ := digit_of_isDigit digit
      obtain ⟨digits, all, split⟩ := inductionHypothesis
      refine ⟨character :: digits, by simpa [valid] using all, ?_⟩
      rw [List.map_cons, List.cons_append, skipDigits, List.dropWhile_cons_of_pos digit]
      exact congrArg (code character :: ·) split
    · refine ⟨[], by simp, ?_⟩
      rw [skipDigits, List.dropWhile_cons_of_neg digit]
      rfl

/-- A digit and the digits behind it. -/
theorem skipDigits_first {octet : UInt8} (rest : Bytes) (digit : isDigit octet = true) :
    ∃ first later, IsDigits (first :: later) ∧ octet = code first ∧
      octet :: rest = (first :: later).map code ++ skipDigits rest := by
  obtain ⟨first, valid, rfl⟩ := digit_of_isDigit digit
  obtain ⟨later, all, split⟩ := skipDigits_split rest
  refine ⟨first, later, ⟨by simp, by simpa [valid] using all⟩, rfl, ?_⟩
  rw [List.map_cons, List.cons_append, ← split]

/-- Behind the mark of an exponent stand a sign, which may be missing, and digits. -/
theorem skipExponent_parts {octets rest : Bytes} (skipped : skipExponent octets = .ok rest) :
    ∃ sign digits : List Char, (sign = [] ∨ sign = ['+'] ∨ sign = ['-']) ∧ IsDigits digits ∧
      octets = (sign ++ digits).map code ++ rest := by
  have unsigned : ∃ sign : List Char, (sign = [] ∨ sign = ['+'] ∨ sign = ['-']) ∧
      ∃ octet behind, octets = sign.map code ++ octet :: behind ∧ isDigit octet = true ∧
        skipDigits behind = rest := by
    unfold skipExponent at skipped
    rcases octets with _ | ⟨first, behind⟩
    · cases skipped
    simp only at skipped
    split at skipped
    · rename_i octet tail step
      split at skipped
      · rename_i digit
        cases skipped
        split at step
        · rename_i sign
          subst step
          rw [Bool.or_eq_true, decide_eq_true_eq, decide_eq_true_eq] at sign
          rcases sign with rfl | rfl
          · exact ⟨['+'], .inr (.inl rfl), octet, tail, rfl, digit, rfl⟩
          · exact ⟨['-'], .inr (.inr rfl), octet, tail, rfl, digit, rfl⟩
        · cases step
          exact ⟨[], .inl rfl, first, behind, rfl, digit, rfl⟩
      · cases skipped
    · cases skipped
  obtain ⟨sign, isSign, octet, behind, rfl, digit, rfl⟩ := unsigned
  obtain ⟨first, later, digits, _, split⟩ := skipDigits_first behind digit
  refine ⟨sign, first :: later, isSign, digits, ?_⟩
  rw [split, List.map_append, List.append_assoc]

/-- What is passed as an exponent is one. -/
theorem skipExponentPart_parts {octets rest : Bytes}
    (skipped : skipExponentPart octets = .ok rest) :
    ∃ exponent, IsExponent exponent ∧ octets = exponent.map code ++ rest := by
  unfold skipExponentPart at skipped
  split at skipped
  · rename_i mark after
    split at skipped
    · rename_i marked
      obtain ⟨sign, digits, signed, valid, rfl⟩ := skipExponent_parts skipped
      rw [isExponentMark, Bool.or_eq_true, beq_iff_eq, beq_iff_eq] at marked
      rcases marked with rfl | rfl
      · exact ⟨_, .present 'e' sign digits (.inl rfl) signed valid, rfl⟩
      · exact ⟨_, .present 'E' sign digits (.inr rfl) signed valid, rfl⟩
    · cases skipped
      exact ⟨[], .absent, rfl⟩
  · cases skipped
    exact ⟨[], .absent, rfl⟩

/-- What is passed behind the whole part is a fraction and an exponent. -/
theorem skipFraction_split {octets rest : Bytes} (skipped : skipFraction octets = .ok rest) :
    ∃ fraction exponent, IsFraction fraction ∧ IsExponent exponent ∧
      octets = (fraction ++ exponent).map code ++ rest := by
  unfold skipFraction at skipped
  split at skipped
  · rename_i point after
    split at skipped
    · rename_i isPoint
      split at skipped
      · rename_i digit
        rcases after with _ | ⟨octet, behind⟩
        · cases digit
        replace digit : isDigit octet = true := digit
        obtain ⟨first, later, digits, _, whole⟩ := skipDigits_first behind digit
        have skippedDigits : skipDigits (octet :: behind) = skipDigits behind := by
          rw [skipDigits, List.dropWhile_cons_of_pos digit]
          rfl
        rw [skippedDigits] at skipped
        obtain ⟨exponent, valid, split⟩ := skipExponentPart_parts skipped
        refine ⟨'.' :: (first :: later), exponent, .present _ digits, valid, ?_⟩
        rw [isPoint, whole, split]
        simp
      · cases skipped
    · obtain ⟨exponent, valid, split⟩ := skipExponentPart_parts skipped
      exact ⟨[], exponent, .absent, valid, split⟩
  · cases skipped
    exact ⟨[], [], .absent, .absent, rfl⟩

/-- What is passed as a number is one, apart from its sign. -/
theorem skipNumber_split {octets rest : Bytes} (skipped : skipNumber octets = .ok rest) :
    ∃ token, IsUnsigned token ∧ octets = token.map code ++ rest := by
  unfold skipNumber at skipped
  split at skipped
  · cases skipped
  rename_i octet behind
  split at skipped
  · rename_i zero
    split at skipped
    · cases skipped
    obtain ⟨fraction, exponent, second, third, rfl⟩ := skipFraction_split skipped
    have whole : IsWhole ['0'] := ⟨⟨by simp, by simp⟩, fun _ => rfl⟩
    exact ⟨_, .parts ['0'] fraction exponent whole second third, by rw [zero]; rfl⟩
  rename_i notZero
  split at skipped
  · rename_i digit
    obtain ⟨first, later, digits, leads, split⟩ := skipDigits_first behind digit
    obtain ⟨fraction, exponent, second, third, rest⟩ := skipFraction_split skipped
    have whole : IsWhole (first :: later) := by
      refine ⟨digits, ?_⟩
      intro zero
      exact absurd (leads.trans (congrArg code (Option.some.inj zero))) notZero
    refine ⟨_, .parts (first :: later) fraction exponent whole second third, ?_⟩
    rw [split, rest]
    simp
  · cases skipped

end AgentKit.Json
