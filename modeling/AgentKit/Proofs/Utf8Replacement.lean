import AgentKit.Proofs.Utf8
/-!
# Octets that are no text

A list of octets is read as text by taking one piece after the other off its front. Where the octets
of a character stand, the piece is that character. Elsewhere the piece is a maximal ill-formed part:
the longest piece with which some character begins, or one octet if there is none. Reading with
replacement puts U+FFFD where such a part stands and keeps everything else, and this fixes the
result: pieces of both kinds can be taken in one way only. The octets of a text are thus read as
that text, and nothing else is read back exactly.
-/

namespace AgentKit.Utf8

/-- Octets with which a character begins. -/
def Begins (octets : Bytes) : Prop := ∃ character, octets <+: encodeChar character

/-- A maximal ill-formed part in front of other octets. -/
structure Broken (part after : Bytes) : Prop where
  unreadable : ∀ character, ¬ encodeChar character <+: part ++ after
  piece : (∃ octet, part = [octet]) ∨ (part ≠ [] ∧ Begins part)
  longest : ∀ more, more ≠ [] → more <+: after → ¬ Begins (part ++ more)

/-- Octets read as characters, with U+FFFD in the place of each maximal ill-formed part. -/
inductive Replaced : Bytes → List Char → Prop where
  | done : Replaced [] []
  | character (character : Char) {octets : Bytes} {characters : List Char}
      (rest : Replaced octets characters) :
      Replaced (encodeChar character ++ octets) (character :: characters)
  | part {part after : Bytes} {characters : List Char} (broken : Broken part after)
      (rest : Replaced after characters) : Replaced (part ++ after) ('\uFFFD' :: characters)

/-- The number of a character made from a number that characters may have. -/
theorem toNat_ofNat {code : Nat} (valid : code < 0xD800 ∨ (0xDFFF < code ∧ code < 0x110000)) :
    (Char.ofNat code).toNat = code := by
  have made : Char.ofNat code = Char.ofNatAux code valid := dif_pos valid
  rw [made]
  rfl

/-- An octet is determined by its number. -/
theorem ofNat_eq (octet : UInt8) {number : Nat} (same : number = octet.toNat) :
    UInt8.ofNat number = octet := by
  rw [same, UInt8.ofNat_toNat]

/-- A continuation octet lies below 0xC0 and carries what is above 0x80. -/
theorem tail_bits {octet : UInt8} (tail : isTail octet = true) :
    tailBits octet < 64 ∧ octet.toNat = 0x80 + tailBits octet := by
  rw [isTail, Bool.and_eq_true, decide_eq_true_eq, decide_eq_true_eq] at tail
  unfold tailBits
  omega

/-- What the bounds on a second octet say about its bits. -/
theorem mayFollow_bits {lead : Nat} {second : UInt8} (fits : mayFollow lead second = true) :
    (tailBits second < 64 ∧ second.toNat = 0x80 + tailBits second) ∧
      (lead = 0xE0 → 32 ≤ tailBits second) ∧ (lead = 0xED → tailBits second < 32) ∧
      (lead = 0xF0 → 16 ≤ tailBits second) ∧ (lead = 0xF4 → tailBits second < 16) := by
  simp only [mayFollow, isTail] at fits
  unfold tailBits
  repeat' split at fits
  all_goals
    simp only [Bool.and_eq_true, decide_eq_true_eq] at fits
    omega

/-- Two octets that fit are the octets of the character they stand for. -/
theorem encodeChar_two {lead second : UInt8} (low : 0xC2 ≤ lead.toNat) (high : lead.toNat < 0xE0)
    (fits : mayFollow lead.toNat second = true) :
    encodeChar (Char.ofNat ((lead.toNat - 0xC0) * 64 + tailBits second)) = [lead, second] := by
  obtain ⟨⟨six, bits⟩, _⟩ := mayFollow_bits fits
  rw [encodeChar, toNat_ofNat (by omega)]
  simp only [show ¬ (lead.toNat - 0xC0) * 64 + tailBits second < 0x80 by omega, if_false,
    show (lead.toNat - 0xC0) * 64 + tailBits second < 0x800 by omega, if_true]
  rw [ofNat_eq lead (by omega), ofNat_eq second (by omega)]

/-- So are three octets that fit. -/
theorem encodeChar_three {lead second third : UInt8} (low : 0xE0 ≤ lead.toNat)
    (high : lead.toNat < 0xF0) (fits : mayFollow lead.toNat second = true)
    (follows : isTail third = true) :
    encodeChar (Char.ofNat
      ((lead.toNat - 0xE0) * 4096 + tailBits second * 64 + tailBits third)) =
      [lead, second, third] := by
  obtain ⟨⟨sixSecond, bitsSecond⟩, least, surrogate, _, _⟩ := mayFollow_bits fits
  obtain ⟨sixThird, bitsThird⟩ := tail_bits follows
  generalize number : (lead.toNat - 0xE0) * 4096 + tailBits second * 64 + tailBits third = code
  have wide : 0x800 ≤ code := by omega
  rw [encodeChar, toNat_ofNat (by omega)]
  simp only [show ¬ code < 0x80 by omega, show ¬ code < 0x800 by omega,
    show code < 0x10000 by omega, if_false, if_true]
  rw [ofNat_eq lead (by omega), ofNat_eq second (by omega),
    ofNat_eq third (by omega)]

/-- So are four octets that fit. -/
theorem encodeChar_four {lead second third fourth : UInt8} (low : 0xF0 ≤ lead.toNat)
    (high : lead.toNat < 0xF5) (fits : mayFollow lead.toNat second = true)
    (follows : isTail third = true) (ends : isTail fourth = true) :
    encodeChar (Char.ofNat ((lead.toNat - 0xF0) * 262144 + tailBits second * 4096 +
      tailBits third * 64 + tailBits fourth)) = [lead, second, third, fourth] := by
  obtain ⟨⟨sixSecond, bitsSecond⟩, _, _, least, most⟩ := mayFollow_bits fits
  obtain ⟨sixThird, bitsThird⟩ := tail_bits follows
  obtain ⟨sixFourth, bitsFourth⟩ := tail_bits ends
  generalize number : (lead.toNat - 0xF0) * 262144 + tailBits second * 4096 +
    tailBits third * 64 + tailBits fourth = code
  have wide : 0x10000 ≤ code := by omega
  rw [encodeChar, toNat_ofNat (by omega)]
  simp only [show ¬ code < 0x80 by omega, show ¬ code < 0x800 by omega,
    show ¬ code < 0x10000 by omega, if_false]
  rw [ofNat_eq lead (by omega), ofNat_eq second (by omega),
    ofNat_eq third (by omega), ofNat_eq fourth (by omega)]

/-- A step that takes a character takes its octets. -/
theorem next_character {first : UInt8} {rest after : Bytes} {character : Char} :
    next first rest = .character character after →
    first :: rest = encodeChar character ++ after := by
  fun_cases next first rest
  case case2 | case3 | case4 | case6 | case7 | case9 | case10 =>
    intro taken
    cases taken
  case case1 lead ascii =>
    intro taken
    obtain ⟨rfl, rfl⟩ := Decoded.character.inj taken
    rw [encodeChar, toNat_ofNat (by omega)]
    simp [ascii, lead]
  case case5 lead ascii stray second after fits high =>
    intro taken
    obtain ⟨rfl, rfl⟩ := Decoded.character.inj taken
    simp only [Bool.or_eq_true, decide_eq_true_eq] at stray
    rw [encodeChar_two (by omega) high (by simpa using fits)]
    rfl
  case case8 lead ascii stray second fits two third after follows high =>
    intro taken
    obtain ⟨rfl, rfl⟩ := Decoded.character.inj taken
    rw [encodeChar_three (by omega) high (by simpa using fits) (by simpa using follows)]
    rfl
  case case11 lead ascii stray second fits two third follows three fourth after ends =>
    intro taken
    obtain ⟨rfl, rfl⟩ := Decoded.character.inj taken
    simp only [Bool.or_eq_true, decide_eq_true_eq] at stray
    rw [encodeChar_four (by omega) (by omega) (by simpa using fits) (by simpa using follows)
      (by simpa using ends)]
    rfl

/-- Octets that a step takes off as one character, with nothing left, begin it. -/
theorem begins_of_next {first : UInt8} {rest more : Bytes} {character : Char}
    (taken : next first (rest ++ more) = .character character []) : Begins (first :: rest) := by
  refine ⟨character, more, ?_⟩
  rw [List.cons_append, next_character taken, List.append_nil]

/-- A lead octet with a second one that may follow it begins a character of three octets or four. -/
theorem begins_two {lead second : UInt8} (low : 0xE0 ≤ lead.toNat) (high : lead.toNat < 0xF5)
    (fits : mayFollow lead.toNat second = true) : Begins [lead, second] := by
  by_cases three : lead.toNat < 0xF0
  · exact begins_of_next (next_three lead second 0x80 [] low three fits rfl)
  · exact begins_of_next (next_four lead second 0x80 0x80 [] (by omega) high fits rfl rfl)

/-- Three octets that may follow one another begin a character of four. -/
theorem begins_three {lead second third : UInt8} (low : 0xF0 ≤ lead.toNat)
    (high : lead.toNat < 0xF5) (fits : mayFollow lead.toNat second = true)
    (follows : isTail third = true) : Begins [lead, second, third] :=
  begins_of_next (next_four lead second third 0x80 [] low high fits follows rfl)

/-- A step that takes an ill-formed part takes one octet or the beginning of a character, and the
octet behind it makes it ill-formed, whatever comes then. -/
theorem next_illFormed {first : UInt8} {rest after : Bytes} :
    next first rest = .illFormed after →
    ∃ tail, rest = tail ++ after ∧ (tail = [] ∨ Begins (first :: tail)) ∧
      ∀ octet ∈ after.head?, ∀ other,
        next first (tail ++ octet :: other) = .illFormed (octet :: other) := by
  fun_cases next first rest
  case case1 | case5 | case8 | case11 =>
    intro taken
    cases taken
  case case2 lead ascii stray =>
    intro taken
    cases taken
    subst lead
    refine ⟨[], rfl, .inl rfl, ?_⟩
    intro octet _ other
    simp only [List.nil_append, next, ascii, stray, if_false, if_true]
  case case3 lead ascii stray =>
    intro taken
    cases taken
    exact ⟨[], rfl, .inl rfl, by simp⟩
  case case4 lead ascii stray second later unfit =>
    intro taken
    cases taken
    subst lead
    refine ⟨[], rfl, .inl rfl, ?_⟩
    rintro octet ⟨⟩ other
    simp only [List.nil_append, next, ascii, stray, unfit, Bool.false_eq_true, if_false, if_true]
  case case6 lead ascii stray second unfit two =>
    intro taken
    cases taken
    simp only [Bool.or_eq_true, decide_eq_true_eq] at stray
    exact ⟨[second], rfl, .inr (begins_two (by omega) (by omega) (by simpa using unfit)), by simp⟩
  case case7 lead ascii stray second fits two third later breaks =>
    intro taken
    cases taken
    subst lead
    refine ⟨[second], rfl, .inr ?_, ?_⟩
    · simp only [Bool.or_eq_true, decide_eq_true_eq] at stray
      exact begins_two (by omega) (by omega) (by simpa using fits)
    · rintro octet ⟨⟩ other
      simp only [List.cons_append, List.nil_append, next, ascii, stray, fits, two, breaks,
        Bool.false_eq_true, if_false, if_true]
  case case9 lead ascii stray second fits two third follows three =>
    intro taken
    cases taken
    simp only [Bool.or_eq_true, decide_eq_true_eq] at stray
    exact ⟨[second, third], rfl, .inr (begins_three (by omega) (by omega) (by simpa using fits)
      (by simpa using follows)), by simp⟩
  case case10 lead ascii stray second fits two third follows three fourth later breaks =>
    intro taken
    cases taken
    subst lead
    refine ⟨[second, third], rfl, .inr ?_, ?_⟩
    · simp only [Bool.or_eq_true, decide_eq_true_eq] at stray
      exact begins_three (by omega) (by omega) (by simpa using fits) (by simpa using follows)
    · rintro octet ⟨⟩ other
      simp only [List.cons_append, List.nil_append, next, ascii, stray, fits, two, follows, three,
        breaks, Bool.false_eq_true, if_false, if_true]
/-- A step takes the octets of a character off the front if they stand there. -/
theorem next_at_character {first : UInt8} {rest after : Bytes} {character : Char}
    (stands : first :: rest = encodeChar character ++ after) :
    next first rest = .character character after := by
  obtain ⟨lead, tail, octets, step⟩ := next_encodeChar character after
  rw [octets, List.cons_append] at stands
  obtain ⟨rfl, rfl⟩ := List.cons.inj stands
  exact step

/-- What a step takes off where no character stands is a maximal ill-formed part. -/
theorem next_broken {first : UInt8} {rest after : Bytes}
    (taken : next first rest = .illFormed after) :
    ∃ part, first :: rest = part ++ after ∧ Broken part after := by
  obtain ⟨tail, split, piece, stops⟩ := next_illFormed taken
  refine ⟨first :: tail, by rw [split, List.cons_append], ?_, ?_, ?_⟩
  · rintro character ⟨behind, stands⟩
    rw [List.cons_append, ← split] at stands
    rw [next_at_character stands.symm] at taken
    cases taken
  · rcases piece with rfl | begins
    · exact .inl ⟨first, rfl⟩
    · exact .inr ⟨List.cons_ne_nil first tail, begins⟩
  · rintro more some ⟨behind, front⟩ ⟨character, missing, stands⟩
    cases more with
    | nil => exact some rfl
    | cons octet more =>
      -- the rest of this character stands where the step met another octet
      have head : octet ∈ after.head? := by simp [← front]
      have refused := stops octet head (more ++ missing)
      have taken : next first (tail ++ octet :: (more ++ missing)) = .character character [] :=
        next_at_character (by simp [← stands])
      rw [taken] at refused
      cases refused

theorem Broken.ne_nil {part after : Bytes} (broken : Broken part after) : part ≠ [] := by
  rcases broken.piece with ⟨octet, rfl⟩ | ⟨some, _⟩
  · exact List.cons_ne_nil octet []
  · exact some

/-- Of two maximal ill-formed parts of the same octets none is longer. -/
theorem Broken.no_longer {part more after : Bytes} (short : Broken part (more ++ after))
    (long : Broken (part ++ more) after) : more = [] := by
  cases more with
  | nil => rfl
  | cons octet more =>
    exfalso
    rcases long.piece with ⟨single, same⟩ | ⟨_, begins⟩
    · have front := List.length_pos_iff.mpr short.ne_nil
      have counted := congrArg List.length same
      rw [List.length_append, List.length_cons, List.length_singleton] at counted
      omega
    · exact short.longest _ (List.cons_ne_nil octet more) (List.prefix_append _ after) begins

/-- A step takes a maximal ill-formed part off the front if it stands there. -/
theorem next_at_broken {first : UInt8} {rest part after : Bytes} (broken : Broken part after)
    (stands : first :: rest = part ++ after) : next first rest = .illFormed after := by
  cases taken : next first rest with
  | character character behind =>
    have prefixed := next_character taken
    exact absurd ⟨behind, prefixed.symm.trans stands⟩ (broken.unreadable character)
  | illFormed behind =>
    obtain ⟨other, split, otherBroken⟩ := next_broken taken
    rcases List.append_eq_append_iff.mp (stands.symm.trans split) with
      ⟨more, rfl, rfl⟩ | ⟨more, rfl, rfl⟩
    · rw [broken.no_longer otherBroken, List.nil_append]
    · rw [otherBroken.no_longer broken, List.nil_append]

/-- Reading with replacement goes on behind a character. -/
theorem decodeLossy_character {first : UInt8} {rest after : Bytes} {character : Char}
    (step : next first rest = .character character after) :
    decodeLossy (first :: rest) = character :: decodeLossy after := by
  rw [decodeLossy]
  split
  · rename_i taken
    rw [step] at taken
    cases taken
    rfl
  · rename_i taken
    rw [step] at taken
    cases taken

/-- It puts U+FFFD where a character cannot be taken. -/
theorem decodeLossy_illFormed {first : UInt8} {rest after : Bytes}
    (step : next first rest = .illFormed after) :
    decodeLossy (first :: rest) = '\uFFFD' :: decodeLossy after := by
  rw [decodeLossy]
  split
  · rename_i taken
    rw [step] at taken
    cases taken
  · rename_i taken
    rw [step] at taken
    cases taken
    rfl

/-- Reading with replacement replaces the maximal ill-formed parts. -/
theorem decodeLossy_replaced (octets : Bytes) : Replaced octets (decodeLossy octets) := by
  fun_induction decodeLossy octets with
  | case1 => exact .done
  | case2 first rest character after taken inductionHypothesis =>
    rw [next_character taken]
    exact .character character inductionHypothesis
  | case3 first rest after taken inductionHypothesis =>
    obtain ⟨part, split, broken⟩ := next_broken taken
    rw [split]
    exact .part broken inductionHypothesis

/-- There is one way only to replace them. -/
theorem Replaced.eq_decodeLossy {octets : Bytes} {characters : List Char}
    (replaced : Replaced octets characters) : characters = decodeLossy octets := by
  induction replaced with
  | done => simp [decodeLossy]
  | character character rest inductionHypothesis =>
    obtain ⟨first, tail, split, step⟩ := next_encodeChar character _
    rw [split, List.cons_append, decodeLossy_character step, inductionHypothesis]
  | @part part after characters broken rest inductionHypothesis =>
    cases split : part ++ after with
    | nil => exact absurd (List.append_eq_nil_iff.mp split).1 broken.ne_nil
    | cons first behind =>
      rw [decodeLossy_illFormed (next_at_broken broken split.symm), inductionHypothesis]

/-- The octets of a text are read as that text. -/
theorem replaced_encode (characters : List Char) : Replaced (encode characters) characters := by
  induction characters with
  | nil => exact .done
  | cons character rest inductionHypothesis =>
    rw [encode_cons]
    exact .character character inductionHypothesis

/-- Only the octets of a text are those of what they are read as. -/
theorem encode_decodeLossy (octets : Bytes) :
    encode (decodeLossy octets) = octets ↔ ∃ characters, octets = encode characters := by
  constructor
  · intro same
    exact ⟨_, same.symm⟩
  · rintro ⟨characters, rfl⟩
    rw [← (replaced_encode characters).eq_decodeLossy]

end AgentKit.Utf8
