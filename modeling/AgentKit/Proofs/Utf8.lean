import AgentKit.Text.Utf8

/-!
# Reading back the octets of a text

The octets of a character are read back as that character by one step, whatever follows them, so a
text is recovered from its octets. A character below U+0080 is one octet with its own number, and
every octet of any other character is at least 0x80. Thus no octet of a text stands for an ASCII
character that the text does not hold, and a reader may look for such octets without decoding.
-/

namespace AgentKit.Utf8

@[simp] theorem encode_nil : encode [] = [] := rfl

@[simp] theorem encode_cons (character : Char) (rest : List Char) :
    encode (character :: rest) = encodeChar character ++ encode rest := by
  simp [encode]

@[simp] theorem encode_append (front back : List Char) :
    encode (front ++ back) = encode front ++ encode back := by
  simp [encode]

/-- The numbers of characters leave out the surrogates and end at 0x10FFFF. -/
theorem char_range (character : Char) :
    character.toNat < 0xD800 ∨ (0xDFFF < character.toNat ∧ character.toNat < 0x110000) :=
  character.valid

/-- An ASCII character keeps its number as an octet. -/
theorem toUInt8_ascii (character : Char) (ascii : character.toNat < 0x80) :
    character.toUInt8.toNat = character.toNat := by
  change character.toNat % 256 = character.toNat
  omega

/-- An ASCII character is the octet with its number. -/
theorem encodeChar_ascii (character : Char) (ascii : character.toNat < 0x80) :
    encodeChar character = [character.toUInt8] := by
  rw [encodeChar, if_pos ascii]
  rfl

/-- No octet of a character beyond ASCII is an ASCII octet: lead octets start at 0xC0 and the
others at 0x80. -/
theorem encodeChar_beyond (character : Char) (beyond : 0x80 ≤ character.toNat) :
    ∀ octet ∈ encodeChar character, 0x80 ≤ octet.toNat := by
  have range := char_range character
  simp only [encodeChar, Nat.not_lt.mpr beyond, if_false]
  split
  · simp only [List.forall_mem_cons, UInt8.toNat_ofNat', List.not_mem_nil, false_implies,
      implies_true, and_true]
    omega
  · split
    · simp only [List.forall_mem_cons, UInt8.toNat_ofNat', List.not_mem_nil, false_implies,
        implies_true, and_true]
      omega
    · simp only [List.forall_mem_cons, UInt8.toNat_ofNat', List.not_mem_nil, false_implies,
        implies_true, and_true]
      omega

/-- Two octets with a fitting lead and a continuation octet are one character. -/
theorem next_two (lead second : UInt8) (rest : Bytes) (low : 0xC2 ≤ lead.toNat)
    (high : lead.toNat < 0xE0) (follows : isTail second = true) :
    next lead (second :: rest) =
      .character (Char.ofNat ((lead.toNat - 0xC0) * 64 + tailBits second)) rest := by
  have notAscii : ¬ lead.toNat < 0x80 := by omega
  have isLead : (decide (lead.toNat < 0xC2) || decide (0xF5 ≤ lead.toNat)) = false := by
    simp only [Bool.or_eq_false_iff, decide_eq_false_iff_not]
    omega
  have fits : mayFollow lead.toNat second = true := by
    rw [mayFollow, if_neg (by omega), if_neg (by omega), if_neg (by omega), if_neg (by omega)]
    exact follows
  simp [next, notAscii, isLead, fits, high]

/-- Three octets with a fitting lead, a second octet inside its bounds and a continuation octet are
one character. -/
theorem next_three (lead second third : UInt8) (rest : Bytes) (low : 0xE0 ≤ lead.toNat)
    (high : lead.toNat < 0xF0) (fits : mayFollow lead.toNat second = true)
    (follows : isTail third = true) :
    next lead (second :: third :: rest) =
      .character (Char.ofNat
        ((lead.toNat - 0xE0) * 4096 + tailBits second * 64 + tailBits third)) rest := by
  have notAscii : ¬ lead.toNat < 0x80 := by omega
  have notTwo : ¬ lead.toNat < 0xE0 := by omega
  have isLead : (decide (lead.toNat < 0xC2) || decide (0xF5 ≤ lead.toNat)) = false := by
    simp only [Bool.or_eq_false_iff, decide_eq_false_iff_not]
    omega
  simp [next, notAscii, isLead, fits, notTwo, follows, high]

/-- Four octets with a fitting lead, a second octet inside its bounds and two continuation octets
are one character. -/
theorem next_four (lead second third fourth : UInt8) (rest : Bytes) (low : 0xF0 ≤ lead.toNat)
    (high : lead.toNat < 0xF5) (fits : mayFollow lead.toNat second = true)
    (follows : isTail third = true) (ends : isTail fourth = true) :
    next lead (second :: third :: fourth :: rest) =
      .character (Char.ofNat ((lead.toNat - 0xF0) * 262144 + tailBits second * 4096 +
        tailBits third * 64 + tailBits fourth)) rest := by
  have notAscii : ¬ lead.toNat < 0x80 := by omega
  have notTwo : ¬ lead.toNat < 0xE0 := by omega
  have notThree : ¬ lead.toNat < 0xF0 := by omega
  have isLead : (decide (lead.toNat < 0xC2) || decide (0xF5 ≤ lead.toNat)) = false := by
    simp only [Bool.or_eq_false_iff, decide_eq_false_iff_not]
    omega
  simp [next, notAscii, isLead, fits, notTwo, notThree, follows, ends]

/-- A continuation octet made from six bits is one, and gives them back. -/
theorem tail_octet (bits : Nat) (six : bits < 64) :
    isTail (.ofNat (0x80 + bits)) = true ∧ tailBits (.ofNat (0x80 + bits)) = bits := by
  have value : (UInt8.ofNat (0x80 + bits)).toNat = 0x80 + bits := by
    simp only [UInt8.toNat_ofNat']
    omega
  constructor
  · rw [isTail, value, Bool.and_eq_true, decide_eq_true_eq, decide_eq_true_eq]
    omega
  · exact (congrArg (fun number => number - 0x80) value).trans (Nat.add_sub_cancel_left 0x80 bits)

/-- One step of reading takes a whole character off the front, whatever follows it.

Proof: the number of the character decides how many octets it has. The lead octet carries the
highest bits and lies in the range of that length; each further octet carries six bits. The bounds
on the second octet hold because the number needs that length and is no surrogate. -/
theorem next_encodeChar (character : Char) (rest : Bytes) :
    ∃ first tail, encodeChar character = first :: tail ∧
      next first (tail ++ rest) = .character character rest := by
  have range := char_range character
  have whole : Char.ofNat character.toNat = character := Char.ofNat_toNat character
  generalize number : character.toNat = code at range whole
  by_cases one : code < 0x80
  · refine ⟨.ofNat code, [], by simp [encodeChar, number, one], ?_⟩
    simp [next, Nat.mod_eq_of_lt (by omega : code < 256), one, whole]
  by_cases two : code < 0x800
  · refine ⟨.ofNat (0xC0 + code / 64), [.ofNat (0x80 + code % 64)],
      by simp [encodeChar, number, one, two], ?_⟩
    have lead : (UInt8.ofNat (0xC0 + code / 64)).toNat = 0xC0 + code / 64 := by
      simp only [UInt8.toNat_ofNat']
      omega
    have second := tail_octet (code % 64) (by omega)
    rw [List.singleton_append, next_two _ _ _ (by omega) (by omega) second.1, lead, second.2,
      show (0xC0 + code / 64 - 0xC0) * 64 + code % 64 = code by omega, whole]
  by_cases three : code < 0x10000
  · refine ⟨.ofNat (0xE0 + code / 4096),
      [.ofNat (0x80 + code / 64 % 64), .ofNat (0x80 + code % 64)],
      by simp [encodeChar, number, one, two, three], ?_⟩
    have lead : (UInt8.ofNat (0xE0 + code / 4096)).toNat = 0xE0 + code / 4096 := by
      simp only [UInt8.toNat_ofNat']
      omega
    have second := tail_octet (code / 64 % 64) (by omega)
    have third := tail_octet (code % 64) (by omega)
    have fits : mayFollow (0xE0 + code / 4096) (.ofNat (0x80 + code / 64 % 64)) = true := by
      simp only [mayFollow, isTail, UInt8.toNat_ofNat']
      repeat' split
      all_goals simp only [Bool.and_eq_true, decide_eq_true_eq]
      all_goals omega
    rw [List.cons_append, List.singleton_append,
      next_three _ _ _ _ (by omega) (by omega) (by rwa [lead]) third.1, lead, second.2, third.2,
      show (0xE0 + code / 4096 - 0xE0) * 4096 + code / 64 % 64 * 64 + code % 64 = code by omega,
      whole]
  · refine ⟨.ofNat (0xF0 + code / 262144),
      [.ofNat (0x80 + code / 4096 % 64), .ofNat (0x80 + code / 64 % 64), .ofNat (0x80 + code % 64)],
      by simp [encodeChar, number, one, two, three], ?_⟩
    have lead : (UInt8.ofNat (0xF0 + code / 262144)).toNat = 0xF0 + code / 262144 := by
      simp only [UInt8.toNat_ofNat']
      omega
    have second := tail_octet (code / 4096 % 64) (by omega)
    have third := tail_octet (code / 64 % 64) (by omega)
    have fourth := tail_octet (code % 64) (by omega)
    have fits : mayFollow (0xF0 + code / 262144) (.ofNat (0x80 + code / 4096 % 64)) = true := by
      simp only [mayFollow, isTail, UInt8.toNat_ofNat']
      repeat' split
      all_goals simp only [Bool.and_eq_true, decide_eq_true_eq]
      all_goals omega
    rw [List.cons_append, List.cons_append, List.singleton_append,
      next_four _ _ _ _ _ (by omega) (by omega) (by rwa [lead]) third.1 fourth.1, lead, second.2,
      third.2, fourth.2,
      show (0xF0 + code / 262144 - 0xF0) * 262144 + code / 4096 % 64 * 4096 +
        code / 64 % 64 * 64 + code % 64 = code by omega,
      whole]

/-- A text is read back from its octets. -/
theorem decode_encode (characters : List Char) : decode (encode characters) = .ok characters := by
  induction characters with
  | nil => simp [decode]
  | cons character rest inductionHypothesis =>
    obtain ⟨first, tail, octets, step⟩ := next_encodeChar character (encode rest)
    rw [encode_cons, octets, List.cons_append, decode]
    split
    · rename_i value after taken
      rw [step] at taken
      cases taken
      rw [inductionHypothesis]
    · rename_i after taken
      rw [step] at taken
      cases taken

/-- A string is read back from its octets. -/
theorem toString?_ofString (text : String) : toString? (ofString text) = some text := by
  simp [toString?, ofString, decode_encode]

/-- The octets of a text determine it. -/
theorem encode_injective (left right : List Char) (same : encode left = encode right) :
    left = right := by
  have read := decode_encode left
  rw [same, decode_encode] at read
  exact (Except.ok.inj read).symm

/-- The octets of an ASCII text are the numbers of its characters. -/
theorem encode_ascii (characters : List Char)
    (ascii : ∀ character ∈ characters, character.toNat < 0x80) :
    encode characters = characters.map Char.toUInt8 := by
  induction characters with
  | nil => rfl
  | cons character rest inductionHypothesis =>
    rw [encode_cons, encodeChar_ascii character (ascii character List.mem_cons_self),
      inductionHypothesis fun later member => ascii later (List.mem_cons_of_mem _ member)]
    rfl

/-- An ASCII octet of a text comes from a character of the text with that number. -/
theorem mem_encode_ascii (characters : List Char) (octet : UInt8) (ascii : octet.toNat < 0x80)
    (member : octet ∈ encode characters) :
    ∃ character ∈ characters, character.toNat = octet.toNat := by
  obtain ⟨character, held, inside⟩ := List.mem_flatMap.mp member
  refine ⟨character, held, ?_⟩
  by_cases low : character.toNat < 0x80
  · rw [encodeChar_ascii character low, List.mem_singleton] at inside
    rw [inside]
    change character.toNat = character.toNat % 256
    omega
  · have beyond := encodeChar_beyond character (Nat.le_of_not_lt low) octet inside
    omega

end AgentKit.Utf8
