import AgentKit.Json.Number
import AgentKit.Proofs.Utf8

/-!
# Number tokens

A number token is an optional minus sign, a whole part without leading zeros, an optional fraction
and an optional exponent. The grammar is stated over characters and does not mention a reader. A
token is skipped exactly, provided that what follows cannot extend it; the reader of values then
keeps its characters. Plain, signed and shortest decimal texts are all tokens of this grammar, and
the text of an integer of 64 bits is read back as that integer.
-/

namespace AgentKit.Json

/-- Decimal digits, at least one. -/
def IsDigits (text : List Char) : Prop := text ≠ [] ∧ ∀ character ∈ text, character.isDigit

/-- Digits of which the first is zero only when it is the only one. -/
def IsWhole (text : List Char) : Prop := IsDigits text ∧ (text.head? = some '0' → text = ['0'])

/-- Nothing, or a point and digits. -/
inductive IsFraction : List Char → Prop where
  | absent : IsFraction []
  | present (digits : List Char) (valid : IsDigits digits) : IsFraction ('.' :: digits)

/-- Nothing, or a mark, a sign that may be missing, and digits. -/
inductive IsExponent : List Char → Prop where
  | absent : IsExponent []
  | present (mark : Char) (sign digits : List Char) (marked : mark = 'e' ∨ mark = 'E')
      (signed : sign = [] ∨ sign = ['+'] ∨ sign = ['-']) (valid : IsDigits digits) :
      IsExponent (mark :: sign ++ digits)

/-- A number without its sign. -/
inductive IsUnsigned : List Char → Prop where
  | parts (whole fraction exponent : List Char) (first : IsWhole whole)
      (second : IsFraction fraction) (third : IsExponent exponent) :
      IsUnsigned (whole ++ (fraction ++ exponent))

/-- A number token. -/
inductive IsNumber : List Char → Prop where
  | positive (text : List Char) (unsigned : IsUnsigned text) : IsNumber text
  | negative (text : List Char) (unsigned : IsUnsigned text) : IsNumber ('-' :: text)

/-- A text of ASCII characters of which none is a control character. -/
def IsPlain (text : List Char) : Prop :=
  ∀ character ∈ text, 0x20 ≤ character.toNat ∧ character.toNat < 0x80

@[simp] theorem isPlain_nil : IsPlain [] := fun _ member => nomatch member

@[simp] theorem isPlain_cons (character : Char) (rest : List Char) :
    IsPlain (character :: rest) ↔
      (0x20 ≤ character.toNat ∧ character.toNat < 0x80) ∧ IsPlain rest := List.forall_mem_cons

@[simp] theorem isPlain_append (front back : List Char) :
    IsPlain (front ++ back) ↔ IsPlain front ∧ IsPlain back := List.forall_mem_append

/-- Octets that cannot extend a number token in front of them. -/
def EndsNumber (rest : Bytes) : Prop :=
  ∀ octet ∈ rest.head?, isDigit octet = false ∧ octet ≠ code '.' ∧ isExponentMark octet = false

/-- A digit keeps its number as an octet. -/
theorem digit_code (character : Char) (digit : character.isDigit) :
    (code character).toNat = character.toNat ∧ 48 ≤ character.toNat ∧ character.toNat ≤ 57 := by
  rw [Char.isDigit_iff_toNat] at digit
  have bounds : 48 ≤ character.toNat ∧ character.toNat ≤ 57 := digit
  exact ⟨Utf8.toUInt8_ascii character (by omega), bounds⟩

/-- The octet of a digit is a digit octet. -/
theorem isDigit_code (character : Char) (digit : character.isDigit) :
    isDigit (code character) = true := by
  obtain ⟨value, bounds⟩ := digit_code character digit
  simp only [isDigit, Bool.and_eq_true, decide_eq_true_eq, UInt8.le_iff_toNat_le, value]
  exact bounds

/-- Digits are plain. -/
theorem IsDigits.plain {digits : List Char} (valid : IsDigits digits) : IsPlain digits := by
  intro character member
  have bounds := (digit_code character (valid.2 character member)).2
  omega

/-- A number without its sign is plain. -/
theorem IsUnsigned.plain {text : List Char} (valid : IsUnsigned text) : IsPlain text := by
  cases valid with
  | parts whole fraction exponent first second third =>
    have fractionPlain : IsPlain fraction := by
      cases second with
      | absent => exact isPlain_nil
      | present digits all => simp [all.plain]
    have exponentPlain : IsPlain exponent := by
      cases third with
      | absent => exact isPlain_nil
      | present mark sign digits marked signed all =>
        rcases marked with rfl | rfl <;> rcases signed with rfl | rfl | rfl <;> simp [all.plain]
    simp [first.1.plain, fractionPlain, exponentPlain]

/-- A number token is plain. -/
theorem IsNumber.plain {token : List Char} (valid : IsNumber token) : IsPlain token := by
  cases valid with
  | positive text unsigned => exact unsigned.plain
  | negative text unsigned => simp [unsigned.plain]

/-- A number without its sign starts with a digit. -/
theorem IsUnsigned.front {text : List Char} (valid : IsUnsigned text) :
    ∃ leading later, text = leading :: later ∧ leading.isDigit := by
  cases valid with
  | parts whole fraction exponent first second third =>
    obtain ⟨leading, later, rfl⟩ := List.exists_cons_of_ne_nil first.1.1
    exact ⟨leading, later ++ (fraction ++ exponent), rfl, first.1.2 leading List.mem_cons_self⟩

/-- Digits in front of something else are skipped exactly. -/
theorem skipDigits_digits (digits : List Char) (rest : Bytes)
    (valid : ∀ character ∈ digits, character.isDigit) (ends : startsWithDigit rest = false) :
    skipDigits (digits.map code ++ rest) = rest := by
  induction digits with
  | nil =>
    cases rest with
    | nil => rfl
    | cons octet later =>
      have stops : isDigit octet = false := ends
      simp [skipDigits, stops]
  | cons character later inductionHypothesis =>
    have digit := isDigit_code character (valid character List.mem_cons_self)
    have shorter := inductionHypothesis fun other member =>
      valid other (List.mem_cons_of_mem _ member)
    simpa [skipDigits, digit] using shorter

/-- What cannot extend a number does not start with a digit. -/
theorem EndsNumber.noDigit {rest : Bytes} (ends : EndsNumber rest) :
    startsWithDigit rest = false := by
  cases rest with
  | nil => rfl
  | cons octet later => exact (ends octet rfl).1

/-- An exponent is skipped exactly. -/
theorem skipExponentPart_exponent (exponent : List Char) (rest : Bytes)
    (valid : IsExponent exponent) (ends : EndsNumber rest) :
    skipExponentPart (exponent.map code ++ rest) = .ok rest := by
  cases valid with
  | absent =>
    cases rest with
    | nil => rfl
    | cons octet later =>
      have mark := (ends octet rfl).2.2
      simp [skipExponentPart, mark]
  | present mark sign digits marked signed valid =>
    obtain ⟨nonempty, all⟩ := valid
    obtain ⟨first, later, rfl⟩ := List.exists_cons_of_ne_nil nonempty
    have digit := isDigit_code first (all first List.mem_cons_self)
    have exact := skipDigits_digits later rest
      (fun other member => all other (List.mem_cons_of_mem _ member)) ends.noDigit
    have isMark : isExponentMark (code mark) = true := by rcases marked with rfl | rfl <;> decide
    have noSign : (code first = code '+' || code first = code '-') = false := by
      rw [Bool.or_eq_false_iff, decide_eq_false_iff_not, decide_eq_false_iff_not]
      constructor <;>
        (intro same; rw [same] at digit; revert digit; decide)
    rcases signed with rfl | rfl | rfl <;>
      simp [skipExponentPart, skipExponent, isMark, noSign, digit, exact]

/-- In front of an exponent, or of what follows the number, stands neither a digit nor a point. -/
theorem exponent_front (exponent : List Char) (rest : Bytes) (valid : IsExponent exponent)
    (ends : EndsNumber rest) :
    startsWithDigit (exponent.map code ++ rest) = false ∧
      (exponent.map code ++ rest).head? ≠ some (code '.') := by
  cases valid with
  | absent =>
    refine ⟨ends.noDigit, ?_⟩
    intro point
    exact (ends (code '.') point).2.1 rfl
  | present mark sign digits marked signed valid =>
    rcases marked with rfl | rfl <;>
      exact ⟨rfl, fun same => absurd (Option.some.inj same) (by decide)⟩

/-- A fraction with the exponent behind it is skipped exactly. -/
theorem skipFraction_parts (fraction exponent : List Char) (rest : Bytes)
    (first : IsFraction fraction) (second : IsExponent exponent) (ends : EndsNumber rest) :
    skipFraction ((fraction ++ exponent).map code ++ rest) = .ok rest := by
  have behind := skipExponentPart_exponent exponent rest second ends
  obtain ⟨noDigit, noPoint⟩ := exponent_front exponent rest second ends
  cases first with
  | absent =>
    rw [List.nil_append]
    generalize exponent.map code ++ rest = octets at behind noPoint
    cases octets with
    | nil => exact behind
    | cons octet later =>
      have other : octet ≠ code '.' := fun same => noPoint (congrArg some same)
      simpa only [skipFraction, if_neg other] using behind
  | present digits valid =>
    obtain ⟨nonempty, all⟩ := valid
    have skipped := skipDigits_digits digits (exponent.map code ++ rest) all noDigit
    have starts : startsWithDigit (digits.map code ++ (exponent.map code ++ rest)) = true := by
      obtain ⟨leading, later, rfl⟩ := List.exists_cons_of_ne_nil nonempty
      exact isDigit_code leading (all leading List.mem_cons_self)
    simpa [skipFraction, starts, skipped] using behind

/-- In front of a fraction with its exponent, or of what follows, stands no digit. -/
theorem fraction_front (fraction exponent : List Char) (rest : Bytes) (first : IsFraction fraction)
    (second : IsExponent exponent) (ends : EndsNumber rest) :
    startsWithDigit ((fraction ++ exponent).map code ++ rest) = false := by
  cases first with
  | absent => exact (exponent_front exponent rest second ends).1
  | present digits valid => rfl

/-- A number without its sign is skipped exactly. -/
theorem skipNumber_unsigned (text : List Char) (rest : Bytes) (valid : IsUnsigned text)
    (ends : EndsNumber rest) : skipNumber (text.map code ++ rest) = .ok rest := by
  cases valid with
  | parts whole fraction exponent first second third =>
    obtain ⟨⟨nonempty, all⟩, zero⟩ := first
    have behind := skipFraction_parts fraction exponent rest second third ends
    have front := fraction_front fraction exponent rest second third ends
    obtain ⟨leading, later, rfl⟩ := List.exists_cons_of_ne_nil nonempty
    have digit := isDigit_code leading (all leading List.mem_cons_self)
    rw [List.map_append, List.append_assoc]
    generalize (fraction ++ exponent).map code ++ rest = octets at behind front ⊢
    by_cases isZero : leading = '0'
    · have single : later = [] := by simpa [isZero] using zero
      subst single isZero
      simpa [skipNumber, front] using behind
    · have notZero : code leading ≠ code '0' := by
        intro same
        have value := (digit_code leading (all leading List.mem_cons_self)).1
        exact isZero (Char.toNat_inj.mp (value.symm.trans (congrArg UInt8.toNat same)))
      have skipped := skipDigits_digits later octets
        (fun other member => all other (List.mem_cons_of_mem _ member)) front
      simpa [skipNumber, notZero, digit, skipped] using behind

/-- The digits of a number do not start with zero, unless they are zero alone. -/
theorem natural_isWhole (number : Nat) : IsWhole (Numeral.natural number) := by
  have digits : IsDigits (Numeral.natural number) :=
    ⟨Nat.toDigits_ne_nil,
      fun _ member => Nat.isDigit_of_mem_toDigits (by decide) (by decide) member⟩
  refine ⟨digits, ?_⟩
  clear digits
  induction number using Nat.strongRecOn with
  | ind number inductionHypothesis =>
    intro zero
    rw [Numeral.natural, Nat.toDigits_eq_if (by decide)] at zero ⊢
    by_cases small : number < 10
    · rw [if_pos small] at zero ⊢
      exact congrArg (fun character => [character]) (Option.some.inj zero)
    · -- The leading digit is that of a tenth of the number, which is not zero.
      have shape : Nat.toDigits 10 (number / 10) ≠ [] := Nat.toDigits_ne_nil
      rw [if_neg small, List.head?_append, List.head?_eq_some_head shape, Option.some_or] at zero
      have front := inductionHypothesis (number / 10) (by omega)
        ((List.head?_eq_some_head shape).trans zero)
      have value := Nat.ofDigitChars_ten_toDigits (n := number / 10)
      rw [show Nat.toDigits 10 (number / 10) = ['0'] from front] at value
      have none : (0 : Nat) = number / 10 := value
      omega

/-- A whole part alone is a number. -/
theorem IsWhole.isUnsigned {whole : List Char} (valid : IsWhole whole) : IsUnsigned whole := by
  have parts := IsUnsigned.parts whole [] [] valid .absent .absent
  rwa [List.append_nil, List.append_nil] at parts

/-- The digits of a number are a number token. -/
theorem natural_isNumber (number : Nat) : IsNumber (Numeral.natural number) :=
  .positive _ (natural_isWhole number).isUnsigned

/-- The text of an integer is a number token. -/
theorem integer_isNumber (number : Int) : IsNumber (Numeral.integer number) := by
  rw [Numeral.integer]
  split
  · exact .negative _ (natural_isWhole _).isUnsigned
  · exact natural_isNumber _

/-- Digits in front of digits are digits. -/
theorem IsDigits.append {front back : List Char}
    (first : ∀ character ∈ front, character.isDigit) (second : IsDigits back) :
    IsDigits (front ++ back) := by
  refine ⟨fun empty => second.1 (List.append_eq_nil_iff.mp empty).2, ?_⟩
  intro character member
  rcases List.mem_append.mp member with member | member
  · exact first character member
  · exact second.2 character member

/-- Zeros are digits. -/
theorem zeros_digits (count : Nat) :
    ∀ character ∈ List.replicate count '0', character.isDigit := by
  intro character member
  rw [(List.mem_replicate.mp member).2]
  rfl

/-- A first part of a whole part is a whole part. -/
theorem IsWhole.take {written : List Char} (valid : IsWhole written) (count : Nat)
    (some : 0 < count) : IsWhole (written.take count) := by
  obtain ⟨⟨nonempty, digits⟩, single⟩ := valid
  refine ⟨⟨?_, fun character member => digits character (List.mem_of_mem_take member)⟩, ?_⟩
  · intro empty
    rcases List.take_eq_nil_iff.mp empty with none | none
    · omega
    · exact nonempty none
  · intro zero
    rw [List.head?_take, if_neg (by omega)] at zero
    rw [single zero]
    exact List.take_of_length_le some

/-- Digits that do not start with zero may be followed by zeros. -/
theorem zeros_behind_isUnsigned (written : List Char) (digits : IsDigits written)
    (nonzero : written.head? ≠ some '0') (count : Nat) :
    IsUnsigned (written ++ List.replicate count '0' ++ ['.', '0']) := by
  have whole : IsWhole (written ++ List.replicate count '0') := by
    refine ⟨⟨?_, ?_⟩, ?_⟩
    · exact fun empty => digits.1 (List.append_eq_nil_iff.mp empty).1
    · intro character member
      rcases List.mem_append.mp member with member | member
      · exact digits.2 character member
      · exact zeros_digits count character member
    · intro zero
      rw [List.head?_append, List.head?_eq_some_head digits.1, Option.some_or] at zero
      exact absurd ((List.head?_eq_some_head digits.1).trans zero) nonzero
  exact .parts _ ['.', '0'] [] whole (.present ['0'] ⟨by simp, by simp⟩) .absent

/-- A point may stand between the digits of a whole part. -/
theorem point_inside_isUnsigned (written : List Char) (valid : IsWhole written) (cut : Nat)
    (some : 0 < cut) (left : cut < written.length) :
    IsUnsigned (written.take cut ++ '.' :: written.drop cut) := by
  have fraction : IsDigits (written.drop cut) := by
    refine ⟨?_, fun character member => valid.1.2 character (List.mem_of_mem_drop member)⟩
    intro empty
    have short := List.drop_eq_nil_iff.mp empty
    omega
  have parts := IsUnsigned.parts _ _ [] (valid.take cut some) (.present _ fraction) .absent
  rwa [List.append_nil] at parts

/-- Zeros may stand between the point and the digits. -/
theorem zeros_in_front_isUnsigned (written : List Char) (digits : IsDigits written) (count : Nat) :
    IsUnsigned ('0' :: '.' :: List.replicate count '0' ++ written) := by
  have whole : IsWhole ['0'] := ⟨⟨by simp, by simp⟩, fun _ => rfl⟩
  have parts := IsUnsigned.parts _ _ [] whole
    (.present _ (IsDigits.append (zeros_digits count) digits)) .absent
  rwa [List.append_nil] at parts

/-- The digits of a whole part with a point behind the first, if there are others, and an
exponent. -/
theorem scientific_isUnsigned (written : List Char) (sign : Char)
    (signed : sign = '-' ∨ sign = '+') (digits : List Char) (power : IsDigits digits) :
    IsWhole written → IsUnsigned ((match written with
      | first :: second :: rest => first :: '.' :: second :: rest
      | single => single) ++ 'e' :: sign :: digits) := by
  have exponent : IsExponent ('e' :: sign :: digits) := by
    refine .present 'e' [sign] digits (Or.inl rfl) (Or.inr ?_) power
    rcases signed with rfl | rfl
    · exact Or.inr rfl
    · exact Or.inl rfl
  intro valid
  rcases written with _ | ⟨first, _ | ⟨second, rest⟩⟩
  · exact absurd rfl valid.1.1
  · exact .parts _ [] _ valid .absent exponent
  · have tail : IsDigits (second :: rest) :=
      ⟨by simp, fun character member => valid.1.2 character (List.mem_cons_of_mem _ member)⟩
    exact .parts [first] ('.' :: second :: rest) _ (valid.take 1 Nat.one_pos)
      (.present _ tail) exponent

/-- The text of a decimal is a number token, unless zeros would be put behind a zero.

The four layouts are taken in turn. In the first the zeros of the power of ten belong to the whole
part, which is why the digits must not be zero. In the second the point falls inside the digits,
because the power of ten is negative. -/
theorem decimal_isUnsigned (decimal : Decimal)
    (proper : decimal.digits ≠ 0 ∨ decimal.exponent < 0) : IsUnsigned decimal.text := by
  have valid := natural_isWhole decimal.digits
  have value := Nat.ofDigitChars_ten_toDigits (n := decimal.digits)
  have power := natural_isWhole (((Numeral.natural decimal.digits).length : Int) +
    decimal.exponent - 1).natAbs
  simp only [Decimal.text]
  change Nat.ofDigitChars 10 (Numeral.natural decimal.digits) 0 = decimal.digits at value
  generalize Numeral.natural decimal.digits = written at *
  split
  · refine zeros_behind_isUnsigned written valid.1 ?_ _
    intro zero
    rw [valid.2 zero] at value
    have none : 0 = decimal.digits := value
    omega
  · split
    · exact point_inside_isUnsigned written valid _ (by omega) (by omega)
    · split
      · exact zeros_in_front_isUnsigned written valid.1 _
      · refine scientific_isUnsigned written _ ?_ _ power.1 valid
        split
        · exact Or.inl rfl
        · exact Or.inr rfl

/-- The multiple of a step that is taken for an interval is not zero: the one below is no candidate
when it is zero, and the one above is its successor. -/
theorem multiple_ne_zero (interval : Binary64.RoundingInterval) (step digits : Nat)
    (found : interval.multiple? step = some digits) : digits ≠ 0 := by
  simp only [Binary64.RoundingInterval.multiple?] at found
  split at found
  · rename_i both
    have below : interval.value / step ≠ 0 := bne_iff_ne.mp
      (Bool.and_eq_true_iff.mp (Bool.and_eq_true_iff.mp both).1).1
    have above : interval.value / step + 1 ≠ 0 := Nat.succ_ne_zero _
    repeat' split at found
    all_goals
      cases found
      assumption
  · split at found
    · rename_i only
      have below : interval.value / step ≠ 0 := bne_iff_ne.mp (Bool.and_eq_true_iff.mp only).1
      cases found
      exact below
    · split at found
      · cases found
        exact Nat.succ_ne_zero _
      · cases found

/-- The search gives a decimal that is not zero, or one on the finest grid. -/
theorem shortestFrom_proper (interval : Binary64.RoundingInterval) (index : Nat) :
    (interval.shortestFrom index).digits ≠ 0 ∨ (interval.shortestFrom index).exponent < 0 := by
  induction index with
  | zero =>
    right
    simp [Binary64.RoundingInterval.shortestFrom, Binary64.finestPlaces]
  | succ index inductionHypothesis =>
    rw [Binary64.RoundingInterval.shortestFrom]
    split
    · rename_i digits found
      exact Or.inl (multiple_ne_zero interval _ digits found)
    · exact inductionHypothesis

/-- The text of a binary64 number is a number token. -/
theorem binary64_isNumber (number : Binary64) : IsNumber number.text := by
  have magnitude : IsUnsigned
      (if number.pattern = 0 then ['0', '.', '0']
        else (Binary64.shortest number.pattern).text) := by
    split
    · exact zeros_in_front_isUnsigned ['0'] ⟨by simp, by simp⟩ 0
    · exact decimal_isUnsigned _ (shortestFrom_proper _ _)
  simp only [Binary64.text]
  split
  · exact .negative _ magnitude
  · exact .positive _ magnitude

/-- The number that digits spell is not less than what was read before them. -/
theorem le_ofDigitChars (digits : List Char) (number : Nat) :
    number ≤ Nat.ofDigitChars 10 digits number := by
  induction digits generalizing number with
  | nil => simp
  | cons character later inductionHypothesis =>
    rw [Nat.ofDigitChars_cons]
    have grown := inductionHypothesis (10 * number + (character.toNat - '0'.toNat))
    omega

/-- All digits are taken when the number that they spell stays below the limit. -/
theorem takeDigits_digits (limit : Nat) (digits : List Char) (number : Nat) (rest : Bytes)
    (valid : ∀ character ∈ digits, character.isDigit)
    (fits : Nat.ofDigitChars 10 digits number < limit) (ends : startsWithDigit rest = false) :
    takeDigits limit number (digits.map code ++ rest) =
      (Nat.ofDigitChars 10 digits number, rest) := by
  induction digits generalizing number with
  | nil =>
    cases rest with
    | nil => simp [takeDigits]
    | cons octet later =>
      have stops : isDigit octet = false := ends
      simp [takeDigits, stops]
  | cons character later inductionHypothesis =>
    have digit := valid character List.mem_cons_self
    have value : digitOf (code character) = character.toNat - '0'.toNat :=
      congrArg (· - 0x30) (digit_code character digit).1
    rw [Nat.ofDigitChars_cons, Nat.mul_comm] at fits ⊢
    have small := Nat.lt_of_le_of_lt (le_ofDigitChars later _) fits
    have next := inductionHypothesis (number * 10 + (character.toNat - '0'.toNat))
      (fun other member => valid other (List.mem_cons_of_mem _ member)) fits
    rw [List.map_cons, List.cons_append, takeDigits, value]
    simp only [isDigit_code character digit, small, decide_true, Bool.and_self, if_true]
    exact next

/-- The digits of a number that fits into 64 bits are read as that number, without a fraction and
without an exponent. -/
theorem scanNumber_natural (negative : Bool) (number : Nat) (fits : number < significandLimit) :
    scanNumber negative ((Numeral.natural number).map code) =
      .ok (NumberToken.integer ⟨negative, number, 0⟩, []) := by
  obtain ⟨⟨nonempty, digits⟩, zero⟩ := natural_isWhole number
  have value : Nat.ofDigitChars 10 (Numeral.natural number) 0 = number :=
    Nat.ofDigitChars_ten_toDigits
  generalize Numeral.natural number = written at *
  have taken := takeDigits_digits significandLimit written 0 [] digits (value ▸ fits) rfl
  rw [List.append_nil, value] at taken
  obtain ⟨leading, later, rfl⟩ := List.exists_cons_of_ne_nil nonempty
  have digit := isDigit_code leading (digits leading List.mem_cons_self)
  have single : (code leading = code '0' && startsWithDigit (later.map code)) = false := by
    rw [Bool.and_eq_false_imp]
    intro same
    have value := (digit_code leading (digits leading List.mem_cons_self)).1
    have isZero : leading = '0' :=
      Char.toNat_inj.mp (value.symm.trans (congrArg UInt8.toNat (of_decide_eq_true same)))
    have alone : later = [] := by simpa [isZero] using zero
    rw [alone]
    rfl
  rw [List.map_cons] at taken ⊢
  simp only [scanNumber, single, digit, taken]
  rfl

/-- The integer that a number token spells, if it spells one that fits into 64 bits. -/
def tokenInteger? : List Char → Option Int
  | '-' :: digits =>
    match scanNumber true (digits.map code) with
    | .ok (.signed number, []) => some number
    | _ => none
  | digits =>
    match scanNumber false (digits.map code) with
    | .ok (.unsigned number, []) => some number
    | _ => none

/-- The text of an integer of 64 bits, with or without a sign, spells that integer. -/
theorem tokenInteger_integer (number : Int) (low : -0x8000000000000000 ≤ number)
    (high : number < 0x10000000000000000) :
    tokenInteger? (Numeral.integer number) = some number := by
  rw [Numeral.integer]
  split
  · rename_i negative
    have holds : ¬ (number.natAbs = 0 ∨ 0x8000000000000000 < number.natAbs) := by omega
    have read : scanNumber true ((Numeral.natural number.natAbs).map code) =
        .ok (.signed (-(number.natAbs : Int)), []) := by
      rw [scanNumber_natural true number.natAbs (by simp only [significandLimit]; omega)]
      simp only [NumberToken.integer, Bool.not_true, Bool.false_eq_true, if_false, if_neg holds]
    have back : -(number.natAbs : Int) = number := by omega
    simp only [tokenInteger?, read]
    exact congrArg some back
  · rename_i negative
    have read : scanNumber false ((Numeral.natural number.toNat).map code) =
        .ok (.unsigned number.toNat, []) := by
      rw [scanNumber_natural false number.toNat (by simp only [significandLimit]; omega)]
      rfl
    have first : ∀ digits, Numeral.natural number.toNat ≠ '-' :: digits := by
      intro digits same
      have minus := (natural_isWhole number.toNat).1.2 '-' (same ▸ List.mem_cons_self)
      exact absurd minus (by decide)
    have back : (number.toNat : Int) = number := by omega
    rw [tokenInteger?]
    · simp only [read]
      exact congrArg some back
    · exact first

end AgentKit.Json
