import AgentKit.Json.Scan
import AgentKit.Proofs.Utf8Replacement
/-!
# Written strings

What may stand between two quotes is told by two grammars that mention no reader. A body spells a
text when it is made of ordinary characters and of escapes, each for one character of the text; an
escape outside the basic plane is a pair. A body that is only passed over need not spell anything:
its octets need not be characters, and half a pair may stand alone.

Both readers take exactly these bodies, each up to the first quote that no backslash escapes. Octets
are taken one by one and checked together at the end, so the reader of texts has to be shown to put
no character together from octets that stand on both sides of an escape.
-/

namespace AgentKit.Utf8

/-- The first octet of a character continues none, and each other one does. -/
theorem encodeChar_shape (character : Char) :
    ∃ first tail, encodeChar character = first :: tail ∧ isTail first = false ∧
      ∀ octet ∈ tail, isTail octet = true := by
  have range := char_range character
  have tail : ∀ bits, isTail (.ofNat (0x80 + bits % 64)) = true :=
    fun bits => (tail_octet (bits % 64) (Nat.mod_lt _ (by decide))).1
  simp only [encodeChar]
  repeat' split
  all_goals
    refine ⟨_, _, rfl, ?_, by simp only [List.forall_mem_cons, List.not_mem_nil, false_implies,
      implies_true, tail, and_true]⟩
    simp only [isTail, UInt8.toNat_ofNat', Bool.and_eq_false_iff, decide_eq_false_iff_not]
    omega

/-- The octets of a character tell where it ends. -/
theorem encodeChar_append_inj {left right : Char} {behind later : Bytes}
    (same : encodeChar left ++ behind = encodeChar right ++ later) :
    left = right ∧ behind = later := by
  obtain ⟨first, tail, whole, step⟩ := next_encodeChar left behind
  obtain ⟨second, others, shape, other⟩ := next_encodeChar right later
  rw [whole, shape, List.cons_append, List.cons_append] at same
  obtain ⟨rfl, rest⟩ := List.cons.inj same
  rw [rest, other] at step
  obtain ⟨rfl, rfl⟩ := Decoded.character.inj step
  exact ⟨rfl, rfl⟩

/-- Octets are read as a text exactly if they are its octets. -/
theorem decode_eq_ok {octets : Bytes} {text : List Char} :
    decode octets = .ok text ↔ octets = encode text := by
  constructor
  · intro read
    fun_induction decode octets generalizing text with
    | case1 =>
      cases read
      rfl
    | case2 first rest value after step characters inner inductionHypothesis =>
      cases read
      rw [next_character step, inductionHypothesis inner, encode_cons]
    | case3 => cases read
    | case4 => cases read
  · rintro rfl
    exact decode_encode text

/-- Octets are a string exactly if they are the octets of that string. -/
theorem toString?_eq_some {octets : Bytes} {text : String} :
    toString? octets = some text ↔ octets = ofString text := by
  constructor
  · intro read
    unfold toString? at read
    split at read
    · rename_i characters decoded
      cases read
      rw [ofString, String.toList_ofList]
      exact decode_eq_ok.mp decoded
    · cases read
  · rintro rfl
    exact toString?_ofString text

end AgentKit.Utf8

namespace AgentKit.Json

open Utf8 (encode encodeChar)

/-- The letters that may stand behind a backslash, with the characters they stand for. -/
def letterEscapes : List (Char × Char) :=
  [('"', '"'), ('\\', '\\'), ('/', '/'), ('b', '\x08'), ('f', '\x0C'), ('n', '\n'), ('r', '\r'),
    ('t', '\t')]

/-- A hexadecimal digit of either case, with its value. -/
def IsHexDigit (octet : UInt8) (value : Nat) : Prop :=
  value < 16 ∧ (octet = code (Nat.digitChar value) ∨ octet = code (Nat.digitChar value).toUpper)

/-- Four hexadecimal digits and the number they spell. -/
inductive IsHexNumber : Bytes → Nat → Prop where
  | digits {first second third fourth : UInt8} {high upper lower low : Nat}
      (one : IsHexDigit first high) (two : IsHexDigit second upper)
      (three : IsHexDigit third lower) (four : IsHexDigit fourth low) :
      IsHexNumber [first, second, third, fourth] (((high * 16 + upper) * 16 + lower) * 16 + low)

/-- What stands behind a backslash, with the character it spells: a letter, the number of a
character, or two numbers for a character outside the basic plane. -/
inductive IsEscape : Bytes → Char → Prop where
  | letter {letter character : Char} (known : (letter, character) ∈ letterEscapes) :
      IsEscape [code letter] character
  | number {digits : Bytes} {number : Nat} (hex : IsHexNumber digits number)
      (whole : number < 0xD800 ∨ 0xDFFF < number) :
      IsEscape (code 'u' :: digits) (Char.ofNat number)
  | pair {first second : Bytes} {high low : Nat} (front : IsHexNumber first high)
      (back : IsHexNumber second low) (leads : 0xD800 ≤ high ∧ high ≤ 0xDBFF)
      (trails : 0xDC00 ≤ low ∧ low ≤ 0xDFFF) :
      IsEscape (code 'u' :: first ++ code '\\' :: code 'u' :: second)
        (Char.ofNat (0x10000 + (high - 0xD800) * 0x400 + (low - 0xDC00)))

/-- The body of a written string spells a text. -/
inductive Spells : Bytes → List Char → Prop where
  | done : Spells [] []
  | plain {character : Char} {body : Bytes} {text : List Char}
      (ordinary : character ≠ '"' ∧ character ≠ '\\' ∧ 0x20 ≤ character.toNat)
      (rest : Spells body text) : Spells (encodeChar character ++ body) (character :: text)
  | escape {written body : Bytes} {character : Char} {text : List Char}
      (escaped : IsEscape written character) (rest : Spells body text) :
      Spells (code '\\' :: written ++ body) (character :: text)

/-- What stands behind a backslash in a string that nobody asks for. Any number will do. -/
inductive IsPassedEscape : Bytes → Prop where
  | letter {letter character : Char} (known : (letter, character) ∈ letterEscapes) :
      IsPassedEscape [code letter]
  | number {digits : Bytes} {number : Nat} (hex : IsHexNumber digits number) :
      IsPassedEscape (code 'u' :: digits)

/-- The body of a string that nobody asks for. -/
inductive IsPassed : Bytes → Prop where
  | done : IsPassed []
  | plain {octet : UInt8} {body : Bytes}
      (ordinary : octet ≠ code '"' ∧ octet ≠ code '\\' ∧ 0x20 ≤ octet.toNat)
      (rest : IsPassed body) : IsPassed (octet :: body)
  | escape {written body : Bytes} (escaped : IsPassedEscape written) (rest : IsPassed body) :
      IsPassed (code '\\' :: written ++ body)

/-- A body between quotes. -/
def quoted (body : Bytes) : Bytes := code '"' :: body ++ [code '"']

/-- Behind its opening quote stand a body, the closing quote and the rest. -/
theorem quoted_append (body rest : Bytes) :
    quoted body ++ rest = code '"' :: (body ++ code '"' :: rest) := by
  simp [quoted]

/-- The reader knows the letters of the table and no others. -/
theorem letterEscape?_eq_some {octet : UInt8} {character : Char} :
    letterEscape? octet = some character ↔
      ∃ letter, (letter, character) ∈ letterEscapes ∧ octet = code letter := by
  constructor
  · intro known
    simp only [letterEscape?] at known
    repeat' split at known
    all_goals try cases known
    all_goals
      rename_i same
      subst same
      exact ⟨_, by simp [letterEscapes], rfl⟩
  · rintro ⟨letter, member, rfl⟩
    revert member
    simp only [letterEscapes, List.mem_cons, Prod.mk.injEq, List.not_mem_nil, or_false]
    rintro (⟨rfl, rfl⟩ | ⟨rfl, rfl⟩ | ⟨rfl, rfl⟩ | ⟨rfl, rfl⟩ | ⟨rfl, rfl⟩ | ⟨rfl, rfl⟩ |
      ⟨rfl, rfl⟩ | ⟨rfl, rfl⟩) <;> rfl

/-- Both cases of a digit have its value. -/
theorem hexValue?_digit (value : Nat) (small : value < 16) :
    hexValue? (code (Nat.digitChar value)) = some value ∧
      hexValue? (code (Nat.digitChar value).toUpper) = some value := by
  revert value
  decide

/-- Digits and letters of either case have the numbers of their octets in a row. -/
theorem digitChar_octet (value : Nat) (small : value < 16) :
    (value < 10 → code (Nat.digitChar value) = .ofNat (0x30 + value)) ∧
      (10 ≤ value → code (Nat.digitChar value) = .ofNat (0x57 + value) ∧
        code (Nat.digitChar value).toUpper = .ofNat (0x37 + value)) := by
  revert value
  decide

/-- An octet has a value exactly if it is a digit with that value. -/
theorem hexValue?_eq_some {octet : UInt8} {value : Nat} :
    hexValue? octet = some value ↔ IsHexDigit octet value := by
  constructor
  · intro known
    have bounds : (code '0').toNat = 0x30 ∧ (code '9').toNat = 0x39 ∧ (code 'a').toNat = 0x61 ∧
        (code 'f').toNat = 0x66 ∧ (code 'A').toNat = 0x41 ∧ (code 'F').toNat = 0x46 := by decide
    simp only [hexValue?, isDigit, Bool.and_eq_true, decide_eq_true_eq, UInt8.le_iff_toNat_le,
      bounds] at known
    repeat' split at known
    · obtain rfl := Option.some.inj known
      have small : octet.toNat - 0x30 < 16 := by omega
      refine ⟨small, .inl ?_⟩
      rw [(digitChar_octet _ small).1 (by omega), Utf8.ofNat_eq octet (by omega)]
    · obtain rfl := Option.some.inj known
      have small : octet.toNat - 0x57 < 16 := by omega
      refine ⟨small, .inl ?_⟩
      rw [((digitChar_octet _ small).2 (by omega)).1, Utf8.ofNat_eq octet (by omega)]
    · obtain rfl := Option.some.inj known
      have small : octet.toNat - 0x37 < 16 := by omega
      refine ⟨small, .inr ?_⟩
      rw [((digitChar_octet _ small).2 (by omega)).2, Utf8.ofNat_eq octet (by omega)]
    · cases known
  · rintro ⟨small, rfl | rfl⟩
    · exact (hexValue?_digit value small).1
    · exact (hexValue?_digit value small).2

/-- The number of four digits is read exactly. -/
theorem scanHex_eq_ok {octets rest : Bytes} {number : Nat} :
    scanHex octets = .ok (number, rest) ↔
      ∃ digits, octets = digits ++ rest ∧ IsHexNumber digits number := by
  constructor
  · intro scanned
    unfold scanHex at scanned
    split at scanned
    · split at scanned
      · rename_i one two three four
        cases scanned
        exact ⟨_, rfl, .digits (hexValue?_eq_some.mp one) (hexValue?_eq_some.mp two)
          (hexValue?_eq_some.mp three) (hexValue?_eq_some.mp four)⟩
      · cases scanned
    · cases scanned
  · rintro ⟨_, rfl, one, two, three, four⟩
    simp only [List.cons_append, List.nil_append, scanHex, hexValue?_eq_some.mpr one,
      hexValue?_eq_some.mpr two, hexValue?_eq_some.mpr three, hexValue?_eq_some.mpr four]

/-- The second half of a pair is read exactly. -/
theorem scanLowHalf_eq_ok {high : Nat} {octets rest : Bytes} {character : Char} :
    scanLowHalf high octets = .ok (character, rest) ↔
      ∃ digits low, octets = code '\\' :: code 'u' :: digits ++ rest ∧ IsHexNumber digits low ∧
        (0xDC00 ≤ low ∧ low ≤ 0xDFFF) ∧
        character = Char.ofNat (0x10000 + (high - 0xD800) * 0x400 + (low - 0xDC00)) := by
  constructor
  · intro scanned
    unfold scanLowHalf at scanned
    split at scanned
    · cases scanned
    split at scanned
    · rename_i backslash
      split at scanned
      · cases scanned
      split at scanned
      · rename_i mark
        split at scanned
        · cases scanned
        · rename_i low after step
          obtain ⟨digits, rfl, hex⟩ := scanHex_eq_ok.mp step
          split at scanned
          · rename_i trails
            rw [isLowSurrogate, Bool.and_eq_true, decide_eq_true_eq, decide_eq_true_eq] at trails
            rw [Except.ok.injEq, Prod.mk.injEq] at scanned
            obtain ⟨same, rest⟩ := scanned
            exact ⟨digits, low, by rw [backslash, mark, rest]; rfl, hex, trails, same.symm⟩
          · cases scanned
      · cases scanned
    · cases scanned
  · rintro ⟨digits, low, rfl, hex, trails, same⟩
    have second : isLowSurrogate low = true := by
      rw [isLowSurrogate, Bool.and_eq_true, decide_eq_true_eq, decide_eq_true_eq]
      exact trails
    simp only [List.cons_append, scanLowHalf, if_true, scanHex_eq_ok.mpr ⟨digits, rfl, hex⟩,
      second, same]

/-- The letter in front of a number is none of the table. -/
theorem letterEscape?_number : letterEscape? (code 'u') = none := rfl

/-- An escape is read exactly. -/
theorem scanEscape_eq_ok {octets rest : Bytes} {character : Char} :
    scanEscape octets = .ok (character, rest) ↔
      ∃ written, octets = written ++ rest ∧ IsEscape written character := by
  constructor
  · intro scanned
    unfold scanEscape at scanned
    split at scanned
    · cases scanned
    split at scanned
    · rename_i known
      cases scanned
      obtain ⟨letter, member, rfl⟩ := letterEscape?_eq_some.mp known
      exact ⟨_, rfl, .letter member⟩
    split at scanned
    · rename_i mark
      subst mark
      split at scanned
      · cases scanned
      rename_i number after step
      obtain ⟨digits, rfl, hex⟩ := scanHex_eq_ok.mp step
      split at scanned
      · cases scanned
      rename_i notLow
      split at scanned
      · rename_i leads
        obtain ⟨second, low, rfl, back, trails, same⟩ := scanLowHalf_eq_ok.mp scanned
        rw [isHighSurrogate, Bool.and_eq_true, decide_eq_true_eq, decide_eq_true_eq] at leads
        rw [same]
        exact ⟨code 'u' :: digits ++ code '\\' :: code 'u' :: second, by simp,
          .pair hex back leads trails⟩
      · rename_i notHigh
        cases scanned
        simp only [isLowSurrogate, isHighSurrogate, Bool.and_eq_true, decide_eq_true_eq]
          at notLow notHigh
        exact ⟨_, rfl, .number hex (by omega)⟩
    · cases scanned
  · rintro ⟨_, rfl, escaped⟩
    cases escaped with
    | letter known =>
      have letter := letterEscape?_eq_some.mpr ⟨_, known, rfl⟩
      simp only [List.singleton_append, scanEscape, letter]
    | @number digits number hex whole =>
      have notLow : isLowSurrogate number = false := by
        simp only [isLowSurrogate, Bool.and_eq_false_iff, decide_eq_false_iff_not]
        omega
      have notHigh : isHighSurrogate number = false := by
        simp only [isHighSurrogate, Bool.and_eq_false_iff, decide_eq_false_iff_not]
        omega
      simp only [List.cons_append, scanEscape, letterEscape?_number, if_true,
        scanHex_eq_ok.mpr ⟨digits, rfl, hex⟩, notLow, notHigh, Bool.false_eq_true, if_false]
    | @pair first second high low front back leads trails =>
      have notLow : isLowSurrogate high = false := by
        simp only [isLowSurrogate, Bool.and_eq_false_iff, decide_eq_false_iff_not]
        omega
      have isHigh : isHighSurrogate high = true := by
        rw [isHighSurrogate, Bool.and_eq_true, decide_eq_true_eq, decide_eq_true_eq]
        exact leads
      have half : scanLowHalf high (code '\\' :: code 'u' :: (second ++ rest)) =
          .ok (Char.ofNat (0x10000 + (high - 0xD800) * 0x400 + (low - 0xDC00)), rest) :=
        scanLowHalf_eq_ok.mpr ⟨second, low, rfl, back, trails, rfl⟩
      simp only [List.cons_append, List.append_assoc, scanEscape, letterEscape?_number, if_true,
        scanHex_eq_ok.mpr ⟨first, rfl, front⟩, notLow, isHigh, Bool.false_eq_true, if_false]
      exact half

/-- The octets of an ordinary character are ordinary: an ASCII one is its own octet, and those of
any other are all beyond ASCII. -/
theorem ordinary_encodeChar {character : Char}
    (ordinary : character ≠ '"' ∧ character ≠ '\\' ∧ 0x20 ≤ character.toNat) :
    ∀ octet ∈ encodeChar character,
      octet ≠ code '"' ∧ octet ≠ code '\\' ∧ 0x20 ≤ octet.toNat := by
  obtain ⟨noQuote, noBackslash, printed⟩ := ordinary
  intro octet member
  by_cases ascii : character.toNat < 0x80
  · rw [Utf8.encodeChar_ascii character ascii, List.mem_singleton] at member
    have value : octet.toNat = character.toNat := by
      rw [member, Utf8.toUInt8_ascii character ascii]
    refine ⟨?_, ?_, value ▸ printed⟩
    · intro same
      exact noQuote (Char.toNat_inj.mp (value.symm.trans (congrArg UInt8.toNat same)))
    · intro same
      exact noBackslash (Char.toNat_inj.mp (value.symm.trans (congrArg UInt8.toNat same)))
  · have beyond := Utf8.encodeChar_beyond character (Nat.not_lt.mp ascii) octet member
    refine ⟨?_, ?_, by omega⟩
    · rintro rfl
      exact absurd beyond (by decide)
    · rintro rfl
      exact absurd beyond (by decide)

/-- A character whose first octet is ordinary is ordinary. -/
theorem ordinary_of_encodeChar {character : Char} {first : UInt8} {tail : Bytes}
    (whole : encodeChar character = first :: tail)
    (ordinary : first ≠ code '"' ∧ first ≠ code '\\' ∧ 0x20 ≤ first.toNat) :
    character ≠ '"' ∧ character ≠ '\\' ∧ 0x20 ≤ character.toNat := by
  by_cases ascii : character.toNat < 0x80
  · rw [Utf8.encodeChar_ascii character ascii] at whole
    obtain ⟨rfl, _⟩ := List.cons.inj whole
    obtain ⟨noQuote, noBackslash, printed⟩ := ordinary
    rw [Utf8.toUInt8_ascii character ascii] at printed
    exact ⟨fun same => noQuote (congrArg code same), fun same => noBackslash (congrArg code same),
      printed⟩
  · refine ⟨?_, ?_, by omega⟩
    · rintro rfl
      exact ascii (by decide)
    · rintro rfl
      exact ascii (by decide)

/-- An ordinary octet is no control character. -/
theorem not_control {octet : UInt8} (printed : 0x20 ≤ octet.toNat) : ¬ octet < 0x20 := by
  rw [UInt8.lt_iff_toNat_lt]
  exact Nat.not_lt.mpr printed

/-- The quote ends a body. -/
theorem scanOctets_quote (rest : Bytes) : scanOctets (code '"' :: rest) = .ok ([], rest) := by
  rw [scanOctets, if_pos rfl]

/-- Ordinary octets stand for themselves. -/
theorem scanOctets_plain (plain rest held final : Bytes)
    (ordinary : ∀ octet ∈ plain, octet ≠ code '"' ∧ octet ≠ code '\\' ∧ 0x20 ≤ octet.toNat)
    (behind : scanOctets rest = .ok (held, final)) :
    scanOctets (plain ++ rest) = .ok (plain ++ held, final) := by
  induction plain with
  | nil => exact behind
  | cons octet later inductionHypothesis =>
    obtain ⟨noQuote, noBackslash, printed⟩ := ordinary octet List.mem_cons_self
    have next := inductionHypothesis fun other member =>
      ordinary other (List.mem_cons_of_mem _ member)
    rw [List.cons_append, scanOctets, if_neg noQuote, if_neg noBackslash,
      if_neg (not_control printed), next]
    rfl

/-- An escape stands for the octets of its character. -/
theorem scanOctets_escape {written rest held final : Bytes} {character : Char}
    (escaped : IsEscape written character) (behind : scanOctets rest = .ok (held, final)) :
    scanOctets (code '\\' :: written ++ rest) = .ok (encodeChar character ++ held, final) := by
  have noQuote : code '\\' ≠ code '"' := by decide
  have read : scanEscape (written ++ rest) = .ok (character, rest) :=
    scanEscape_eq_ok.mpr ⟨written, rfl, escaped⟩
  rw [List.cons_append, scanOctets, if_neg noQuote, if_pos rfl, read]
  simp only [behind]

/-- A body that spells a text is taken as the octets of that text. -/
theorem Spells.scanOctets {body : Bytes} {text : List Char} (spells : Spells body text)
    (rest : Bytes) : scanOctets (body ++ code '"' :: rest) = .ok (encode text, rest) := by
  induction spells with
  | done => exact scanOctets_quote rest
  | plain ordinary later inductionHypothesis =>
    rw [List.append_assoc, Utf8.encode_cons]
    exact scanOctets_plain _ _ _ _ (ordinary_encodeChar ordinary) inductionHypothesis
  | escape escaped later inductionHypothesis =>
    rw [List.append_assoc, Utf8.encode_cons]
    exact scanOctets_escape escaped inductionHypothesis

/-- How reading a body that is not refused begins: with the quote, with an escape, or with an
ordinary octet. -/
theorem scanOctets_cases {octets held rest : Bytes}
    (scanned : scanOctets octets = .ok (held, rest)) :
    (octets = code '"' :: rest ∧ held = []) ∨
    (∃ written character later others, octets = code '\\' :: written ++ later ∧
      IsEscape written character ∧ scanOctets later = .ok (others, rest) ∧
      held = encodeChar character ++ others) ∨
    ∃ octet later others, octets = octet :: later ∧
      (octet ≠ code '"' ∧ octet ≠ code '\\' ∧ 0x20 ≤ octet.toNat) ∧
      scanOctets later = .ok (others, rest) ∧ held = octet :: others := by
  unfold Json.scanOctets at scanned
  split at scanned
  · cases scanned
  split at scanned
  · rename_i quote
    cases scanned
    exact .inl ⟨by rw [quote], rfl⟩
  split at scanned
  · rename_i backslash
    split at scanned
    · cases scanned
    rename_i character after escaped
    obtain ⟨written, rfl, valid⟩ := scanEscape_eq_ok.mp escaped
    split at scanned
    · rename_i others final later
      cases scanned
      exact .inr (.inl ⟨written, character, after, others, by rw [backslash]; rfl, valid, later,
        rfl⟩)
    · cases scanned
  split at scanned
  · cases scanned
  rename_i octet tail noQuote noBackslash printed
  split at scanned
  · rename_i others final later
    cases scanned
    rw [UInt8.lt_iff_toNat_lt, Nat.not_lt] at printed
    exact .inr (.inr ⟨octet, tail, others, rfl, ⟨noQuote, noBackslash, printed⟩, later, rfl⟩)
  · cases scanned

/-- An octet that continues a character was taken as it stands: no escape begins with one. -/
theorem scanOctets_tail {octets held rest : Bytes} {octet : UInt8}
    (scanned : scanOctets octets = .ok (octet :: held, rest))
    (continues : Utf8.isTail octet = true) :
    ∃ later, octets = octet :: later ∧ scanOctets later = .ok (held, rest) := by
  rcases scanOctets_cases scanned with
    ⟨_, none⟩ | ⟨written, character, later, others, _, _, _, same⟩ |
    ⟨first, later, others, shape, _, behind, same⟩
  · cases none
  · obtain ⟨first, tail, whole, leads, _⟩ := Utf8.encodeChar_shape character
    rw [whole, List.cons_append] at same
    rw [(List.cons.inj same).1, leads] at continues
    cases continues
  · obtain ⟨rfl, rfl⟩ := List.cons.inj same
    exact ⟨later, shape, behind⟩

/-- So were several. -/
theorem scanOctets_tails {tail : Bytes} {octets held rest : Bytes}
    (scanned : scanOctets octets = .ok (tail ++ held, rest))
    (goOn : ∀ octet ∈ tail, Utf8.isTail octet = true) :
    ∃ later, octets = tail ++ later ∧ scanOctets later = .ok (held, rest) := by
  induction tail generalizing octets with
  | nil => exact ⟨octets, rfl, scanned⟩
  | cons octet more inductionHypothesis =>
    obtain ⟨later, rfl, behind⟩ := scanOctets_tail scanned (goOn octet List.mem_cons_self)
    obtain ⟨final, rfl, ends⟩ := inductionHypothesis behind fun other member =>
      goOn other (List.mem_cons_of_mem _ member)
    exact ⟨final, rfl, ends⟩

/-- A body that is taken as the octets of a text spells that text.

Induct on the text. Where its first character does not come from an escape, the first octet of the
character was taken as it stands, and with it the others, because they continue it. -/
theorem spells_of_scanOctets {octets rest : Bytes} {text : List Char}
    (scanned : scanOctets octets = .ok (encode text, rest)) :
    ∃ body, octets = body ++ code '"' :: rest ∧ Spells body text := by
  induction text generalizing octets with
  | nil =>
    rcases scanOctets_cases scanned with
      ⟨rfl, _⟩ | ⟨written, character, later, others, _, _, _, same⟩ |
      ⟨octet, later, others, _, _, _, same⟩
    · exact ⟨[], rfl, .done⟩
    · obtain ⟨first, tail, whole, _⟩ := Utf8.encodeChar_shape character
      rw [whole] at same
      cases same
    · cases same
  | cons character text inductionHypothesis =>
    rw [Utf8.encode_cons] at scanned
    rcases scanOctets_cases scanned with
      ⟨_, none⟩ | ⟨written, other, later, others, rfl, escaped, behind, same⟩ |
      ⟨octet, later, others, rfl, ordinary, behind, same⟩
    · obtain ⟨first, tail, whole, _⟩ := Utf8.encodeChar_shape character
      rw [whole] at none
      cases none
    · obtain ⟨rfl, rfl⟩ := Utf8.encodeChar_append_inj same
      obtain ⟨body, rfl, spells⟩ := inductionHypothesis behind
      exact ⟨code '\\' :: written ++ body, by simp, .escape escaped spells⟩
    · obtain ⟨first, tail, whole, _, goOn⟩ := Utf8.encodeChar_shape character
      rw [whole, List.cons_append] at same
      obtain ⟨rfl, rfl⟩ := List.cons.inj same
      obtain ⟨final, rfl, ends⟩ := scanOctets_tails behind goOn
      obtain ⟨body, rfl, spells⟩ := inductionHypothesis ends
      have plain : Spells (Utf8.encodeChar character ++ body) (character :: _) :=
        .plain (ordinary_of_encodeChar whole ordinary) spells
      rw [whole] at plain
      exact ⟨_, by simp, plain⟩

/-- A string is read as a text exactly up to the quote behind a body that spells it. -/
theorem scanString_eq_ok {octets rest : Bytes} {text : String} :
    scanString octets = .ok (text, rest) ↔
      ∃ body, octets = body ++ code '"' :: rest ∧ Spells body text.toList := by
  constructor
  · intro scanned
    unfold scanString at scanned
    split at scanned
    · cases scanned
    rename_i held final taken
    split at scanned
    · rename_i characters read
      cases scanned
      rw [Utf8.decode_eq_ok.mp read] at taken
      rw [String.toList_ofList]
      exact spells_of_scanOctets taken
    · cases scanned
  · rintro ⟨body, rfl, spells⟩
    rw [scanString, spells.scanOctets rest]
    simp only [Utf8.decode_encode, String.ofList_toList]

/-- An escape is passed over exactly. -/
theorem skipEscape_eq_ok {octets rest : Bytes} :
    skipEscape octets = .ok rest ↔
      ∃ written, octets = written ++ rest ∧ IsPassedEscape written := by
  constructor
  · intro skipped
    unfold skipEscape at skipped
    split at skipped
    · cases skipped
    split at skipped
    · rename_i known
      cases skipped
      obtain ⟨letter, member, rfl⟩ := letterEscape?_eq_some.mp known
      exact ⟨_, rfl, .letter member⟩
    split at skipped
    · rename_i mark
      split at skipped
      · cases skipped
      rename_i number after step
      cases skipped
      obtain ⟨digits, rfl, hex⟩ := scanHex_eq_ok.mp step
      exact ⟨_, by rw [mark]; rfl, .number hex⟩
    · cases skipped
  · rintro ⟨_, rfl, escaped⟩
    cases escaped with
    | letter known =>
      have letter := letterEscape?_eq_some.mpr ⟨_, known, rfl⟩
      simp only [List.singleton_append, skipEscape, letter]
    | number hex =>
      simp only [List.cons_append, skipEscape, letterEscape?_number, if_true,
        scanHex_eq_ok.mpr ⟨_, rfl, hex⟩]

/-- A body that is passed over is passed over up to its quote. -/
theorem IsPassed.skipString {body : Bytes} (passed : IsPassed body) (rest : Bytes) :
    skipString (body ++ code '"' :: rest) = .ok rest := by
  have noQuote : code '\\' ≠ code '"' := by decide
  induction passed with
  | done => rw [List.nil_append, Json.skipString, if_pos rfl]
  | plain ordinary later inductionHypothesis =>
    obtain ⟨notQuote, notBackslash, printed⟩ := ordinary
    rw [List.cons_append, Json.skipString, if_neg notQuote, if_neg notBackslash,
      if_neg (not_control printed), inductionHypothesis]
  | @escape written body escaped later inductionHypothesis =>
    have skipped : skipEscape (written ++ (body ++ code '"' :: rest)) =
        .ok (body ++ code '"' :: rest) := skipEscape_eq_ok.mpr ⟨written, rfl, escaped⟩
    rw [List.append_assoc, List.cons_append, Json.skipString, if_neg noQuote, if_pos rfl, skipped]
    exact inductionHypothesis

/-- A string is passed over exactly up to the quote behind such a body. -/
theorem skipString_eq_ok {octets rest : Bytes} :
    skipString octets = .ok rest ↔ ∃ body, octets = body ++ code '"' :: rest ∧ IsPassed body := by
  constructor
  · intro skipped
    fun_induction skipString octets with
    | case1 => cases skipped
    | case2 =>
      cases skipped
      exact ⟨[], rfl, .done⟩
    | case3 => cases skipped
    | case4 tail after step _ inductionHypothesis =>
      obtain ⟨body, rfl, passed⟩ := inductionHypothesis skipped
      obtain ⟨written, rfl, escaped⟩ := skipEscape_eq_ok.mp step
      exact ⟨code '\\' :: written ++ body, by simp, .escape escaped passed⟩
    | case5 => cases skipped
    | case6 octet tail noQuote noBackslash printed inductionHypothesis =>
      obtain ⟨body, rfl, passed⟩ := inductionHypothesis skipped
      rw [UInt8.lt_iff_toNat_lt, Nat.not_lt] at printed
      exact ⟨octet :: body, rfl, .plain ⟨noQuote, noBackslash, printed⟩ passed⟩
  · rintro ⟨body, rfl, passed⟩
    exact passed.skipString rest

end AgentKit.Json
