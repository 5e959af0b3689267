import AgentKit.Json.Flat
import AgentKit.Proofs.PlainToken
import AgentKit.Proofs.WrittenString
import AgentKit.Record

/-!
# Reading printed objects

What the printer of records writes is read back by the reader of flat objects. The reader sees
octets from the left, so every lemma is about a written piece with anything behind it: a character
of a string, a string, a value, a member, the members of an object. The octets behind a value matter
only for numbers, which a digit or a point would extend.

Nothing that is written has a control character in it, whatever the strings hold.
-/

namespace AgentKit.Json

open Utf8 (encode encodeChar)

/-- A written piece without control characters. -/
def Visible (written : List Char) : Prop := ∀ character ∈ written, 0x20 ≤ character.toNat

@[simp] theorem visible_nil : Visible [] := fun _ member => nomatch member

@[simp] theorem visible_cons (character : Char) (rest : List Char) :
    Visible (character :: rest) ↔ 0x20 ≤ character.toNat ∧ Visible rest := List.forall_mem_cons

@[simp] theorem visible_append (front back : List Char) :
    Visible (front ++ back) ↔ Visible front ∧ Visible back := List.forall_mem_append

/-- A hexadecimal digit is an ASCII character, is no control character, and is read as its value. -/
theorem hexDigit_exact (value : Nat) (small : value < 16) :
    (0x20 ≤ (hexDigit value).toNat ∧ (hexDigit value).toNat < 0x80) ∧
      hexValue? (code (hexDigit value)) = some value := by
  revert value
  decide

/-- Four hexadecimal digits of a control character are read as that character. -/
theorem scanEscape_hex (character : Char) (control : character.toNat < 0x20) (rest : Bytes) :
    scanEscape (encode ['u', '0', '0', hexDigit (character.toNat / 16),
      hexDigit (character.toNat % 16)] ++ rest) = .ok (character, rest) := by
  obtain ⟨⟨_, highAscii⟩, high⟩ := hexDigit_exact (character.toNat / 16) (by omega)
  obtain ⟨⟨_, lowAscii⟩, low⟩ := hexDigit_exact (character.toNat % 16) (by omega)
  have zero : hexValue? (code '0') = some 0 := rfl
  have octets : encode ['u', '0', '0', hexDigit (character.toNat / 16),
      hexDigit (character.toNat % 16)] = [code 'u', code '0', code '0',
        code (hexDigit (character.toNat / 16)), code (hexDigit (character.toNat % 16))] :=
    Utf8.encode_ascii _ (by simp [highAscii, lowAscii])
  have whole : ((0 * 16 + 0) * 16 + character.toNat / 16) * 16 + character.toNat % 16 =
      character.toNat := by omega
  have notHigh : isHighSurrogate character.toNat = false := by
    simp only [isHighSurrogate, Bool.and_eq_false_iff, decide_eq_false_iff_not]
    omega
  have notLow : isLowSurrogate character.toNat = false := by
    simp only [isLowSurrogate, Bool.and_eq_false_iff, decide_eq_false_iff_not]
    omega
  have byNumber : letterEscape? (code 'u') = none := rfl
  rw [octets]
  simp only [List.cons_append, List.nil_append, scanEscape, byNumber, scanHex, zero, high, low,
    whole, notHigh, notLow, if_true, Bool.false_eq_true, if_false, Char.ofNat_toNat]

/-- Every character that is not written as itself is written with a backslash, and what stands
behind the backslash is read as that character. -/
theorem scanEscape_escape (character : Char)
    (special : character = '"' ∨ character = '\\' ∨ character.toNat < 0x20) (rest : Bytes) :
    ∃ behind, escape character = '\\' :: behind ∧
      scanEscape (encode behind ++ rest) = .ok (character, rest) := by
  simp only [escape]
  split
  · rename_i quote
    subst quote
    exact ⟨['"'], rfl, rfl⟩
  split
  · rename_i backslash
    subst backslash
    exact ⟨['\\'], rfl, rfl⟩
  split
  · rename_i notQuote notBackslash printed
    rcases special with quote | backslash | control
    · exact absurd quote notQuote
    · exact absurd backslash notBackslash
    · omega
  split
  · rename_i same
    exact ⟨['b'], rfl, (Char.toNat_inj.mp same : character = '\x08') ▸ rfl⟩
  split
  · rename_i same
    exact ⟨['t'], rfl, (Char.toNat_inj.mp same : character = '\t') ▸ rfl⟩
  split
  · rename_i same
    exact ⟨['n'], rfl, (Char.toNat_inj.mp same : character = '\n') ▸ rfl⟩
  split
  · rename_i same
    exact ⟨['f'], rfl, (Char.toNat_inj.mp same : character = '\x0C') ▸ rfl⟩
  split
  · rename_i same
    exact ⟨['r'], rfl, (Char.toNat_inj.mp same : character = '\r') ▸ rfl⟩
  · exact ⟨_, rfl, scanEscape_hex character (by omega) rest⟩

/-- The written form of a text spells it. A character that is not written as itself is written as an
escape for it. -/
theorem spells_escape (text : List Char) : Spells (encode (text.flatMap escape)) text := by
  induction text with
  | nil => exact .done
  | cons character later inductionHypothesis =>
    rw [List.flatMap_cons, Utf8.encode_append]
    by_cases special : character = '"' ∨ character = '\\' ∨ character.toNat < 0x20
    · obtain ⟨behind, written, read⟩ := scanEscape_escape character special []
      obtain ⟨escaped, whole, valid⟩ := scanEscape_eq_ok.mp read
      rw [List.append_nil, List.append_nil] at whole
      rw [written, Utf8.encode_cons, whole]
      exact .escape valid inductionHypothesis
    · have noQuote : character ≠ '"' := fun same => special (Or.inl same)
      have noBackslash : character ≠ '\\' := fun same => special (Or.inr (Or.inl same))
      have printed : 0x20 ≤ character.toNat :=
        Nat.not_lt.mp fun control => special (Or.inr (Or.inr control))
      have written : escape character = [character] := by
        simp [escape, noQuote, noBackslash, printed]
      rw [written, Utf8.encode_cons, Utf8.encode_nil, List.append_nil]
      exact .plain ⟨noQuote, noBackslash, printed⟩ inductionHypothesis

/-- The written form of a text, with its closing quote, is read as that text. -/
theorem scanString_text (text : List Char) (rest : Bytes) :
    scanString (encode (text.flatMap escape ++ ['"']) ++ rest) =
      .ok (String.ofList text, rest) := by
  have body : encode (text.flatMap escape ++ ['"']) ++ rest =
      encode (text.flatMap escape) ++ code '"' :: rest := by
    rw [Utf8.encode_append, List.append_assoc]
    rfl
  rw [body]
  exact scanString_eq_ok.mpr ⟨_, rfl, by rw [String.toList_ofList]; exact spells_escape text⟩

/-- No control character is written. -/
theorem escape_visible (character : Char) : Visible (escape character) := by
  simp only [escape]
  repeat' split
  · simp
  · simp
  · rename_i printed
    simpa using printed
  · simp
  · simp
  · simp
  · simp
  · simp
  · have high := (hexDigit_exact (character.toNat / 16) (by omega)).1.1
    have low := (hexDigit_exact (character.toNat % 16) (by omega)).1.1
    simp [high, low]

/-- A quoted text has no control characters, whatever the text holds. -/
theorem quote_visible (text : List Char) : Visible (quote text) := by
  have inside : Visible (text.flatMap escape) := by
    intro character member
    obtain ⟨source, _, written⟩ := List.mem_flatMap.mp member
    exact escape_visible source character written
  simp [quote, inside]

/-- The text of a value has no control characters. -/
theorem value_visible (value : Value) : Visible value.text := by
  have number : ∀ {token : List Char}, IsNumber token → Visible token :=
    fun valid character member => (valid.plain character member).1
  cases value with
  | string text => exact quote_visible text.toList
  | int signed => exact number (integer_isNumber signed.toInt)
  | uint unsigned => exact number (natural_isNumber unsigned.toNat)
  | float real =>
    simp only [Value.text]
    split
    · exact number (binary64_isNumber real)
    · simp
  | bool truth => cases truth <;> simp [Value.text]

/-- The characters of a plain token are those of its octets. -/
theorem tokenText_plain (token : List Char) (rest : Bytes) (plain : IsPlain token) :
    tokenText (token.map code ++ rest) rest = token := by
  have cut : (token.map code ++ rest).take ((token.map code ++ rest).length - rest.length) =
      token.map code := by simp
  rw [tokenText, cut, List.map_map]
  have same : ∀ character ∈ token,
      ((fun octet => Char.ofNat octet.toNat) ∘ code) character = character := by
    intro character member
    change Char.ofNat (code character).toNat = character
    rw [Utf8.toUInt8_ascii character (plain character member).2, Char.ofNat_toNat]
  rw [List.map_congr_left same, List.map_id']

/-- What starts with an octet that opens neither a string nor a word is read as a number. -/
theorem scanScalar_token (octet : UInt8) (rest after : Bytes) (solid : isBlank octet = false)
    (noString : octet ≠ code '"') (noNull : octet ≠ code 'n') (noTrue : octet ≠ code 't')
    (noFalse : octet ≠ code 'f')
    (skipped : skipNumber (if octet = code '-' then rest else octet :: rest) = .ok after) :
    scanScalar (octet :: rest) = .ok (.number (tokenText (octet :: rest) after), after) := by
  simp only [scanScalar, skipBlanks_cons octet rest solid, if_neg noString, if_neg noNull,
    if_neg noTrue, if_neg noFalse, skipped]

/-- A number token is read character for character. -/
theorem scanScalar_number (token : List Char) (rest : Bytes) (valid : IsNumber token)
    (ends : EndsNumber rest) :
    scanScalar (encode token ++ rest) = .ok (.number token, rest) := by
  have plain := valid.plain
  have text := tokenText_plain token rest plain
  have octets : encode token = token.map code :=
    Utf8.encode_ascii token fun character member => (plain character member).2
  rw [octets]
  cases valid with
  | positive unsigned parts =>
    have skipped := skipNumber_unsigned token rest parts ends
    obtain ⟨leading, later, rfl, digit⟩ := parts.front
    have front := isDigit_code leading digit
    rw [List.map_cons, List.cons_append] at text skipped ⊢
    generalize code leading = octet at *
    have differs : ∀ other, isDigit other = false → octet ≠ other := by
      rintro other noDigit rfl
      exact absurd front (by simp [noDigit])
    have solid : isBlank octet = false := by
      simp [isBlank, differs 0x20 rfl, differs 0x09 rfl, differs 0x0A rfl, differs 0x0D rfl]
    have unsigned := differs (code '-') rfl
    rw [scanScalar_token octet _ rest solid (differs _ rfl) (differs _ rfl) (differs _ rfl)
      (differs _ rfl) (by rwa [if_neg unsigned]), text]
  | negative unsigned parts =>
    have skipped := skipNumber_unsigned unsigned rest parts ends
    rw [List.map_cons, List.cons_append] at text ⊢
    rw [scanScalar_token (code '-') _ rest rfl (by decide) (by decide) (by decide) (by decide)
      (by rwa [if_pos rfl]), text]

/-- A word is read as its value. -/
theorem scanWord_word (letters : List Char) (value : Scalar) (rest : Bytes) :
    scanWord letters value (letters.map code ++ rest) = .ok (value, rest) := by
  rw [scanWord, skipWord_eq_ok.mpr rfl]

/-- What a reader makes of the text of a value: a number keeps its token, and one that is not finite
is gone. -/
def scalar : Value → Scalar
  | .string text => .string text
  | .int number => .number (Numeral.integer number.toInt)
  | .uint number => .number (Numeral.natural number.toNat)
  | .float number => if number.isFinite then .number number.text else .null
  | .bool truth => .bool truth

/-- The octets of a quoted text are a quote, and what the reader of strings starts from. -/
theorem encode_quote (text : List Char) (rest : Bytes) :
    encode (quote text) ++ rest = code '"' :: (encode (text.flatMap escape ++ ['"']) ++ rest) := by
  rw [quote, List.cons_append, Utf8.encode_cons]
  rfl

/-- The text of a value is read back, whatever follows that does not extend a number. -/
theorem scanScalar_value (value : Value) (rest : Bytes) (ends : EndsNumber rest) :
    scanScalar (encode value.text ++ rest) = .ok (scalar value, rest) := by
  cases value with
  | string text =>
    have opens := skipBlanks_cons (code '"')
      (encode (text.toList.flatMap escape ++ ['"']) ++ rest) rfl
    rw [Value.text, encode_quote]
    simp only [scanScalar, opens, if_true, scanString_text, String.ofList_toList, scalar]
  | int number => exact scanScalar_number _ rest (integer_isNumber number.toInt) ends
  | uint number => exact scanScalar_number _ rest (natural_isNumber number.toNat) ends
  | float number =>
    simp only [Value.text, scalar]
    split
    · exact scanScalar_number _ rest (binary64_isNumber number) ends
    · exact scanWord_word ['u', 'l', 'l'] .null rest
  | bool truth =>
    cases truth with
    | false => exact scanWord_word ['a', 'l', 's', 'e'] (.bool false) rest
    | true => exact scanWord_word ['r', 'u', 'e'] (.bool true) rest

/-- A written field. -/
def written (field : String × Value) : List Char := member field.1.toList field.2.text

/-- What a reader makes of a field. -/
def readBack (field : String × Value) : String × Scalar := (field.1, scalar field.2)

/-- The octets of a written field: a quote, the key with its closing quote, a colon, the value. -/
theorem encode_written (field : String × Value) (rest : Bytes) :
    encode (written field) ++ rest =
      code '"' :: (encode (field.1.toList.flatMap escape ++ ['"']) ++
        (code ':' :: (encode field.2.text ++ rest))) := by
  rw [written, member, Utf8.encode_append, List.append_assoc, encode_quote, Utf8.encode_cons,
    List.append_assoc]
  rfl

/-- A written field is read back, whatever follows that does not extend a number. -/
theorem scanMember_written (field : String × Value) (rest : Bytes) (ends : EndsNumber rest) :
    scanMember (encode (written field) ++ rest) = .ok (readBack field, rest) := by
  have opens := skipBlanks_cons (code '"') (encode (field.1.toList.flatMap escape ++ ['"']) ++
    (code ':' :: (encode field.2.text ++ rest))) rfl
  have colon := skipBlanks_cons (code ':') (encode field.2.text ++ rest) rfl
  rw [encode_written]
  simp only [scanMember, opens, if_true, scanString_text, colon, scanScalar_value field.2 rest ends,
    String.ofList_toList, readBack]

/-- The octets of a written member behind a comma. -/
theorem encode_laterMembers (member : List Char) (later : List (List Char)) (rest : Bytes) :
    encode (laterMembers (member :: later)) ++ rest =
      code ',' :: (encode member ++ (encode (laterMembers later) ++ rest)) := by
  rw [laterMembers, List.flatMap_cons, List.cons_append, Utf8.encode_cons, Utf8.encode_append,
    List.append_assoc, List.append_assoc]
  rfl

/-- Behind a value stands the comma of the next field or the closing brace, and neither extends a
number. -/
theorem laterMembers_endsNumber (fields : Fields) (rest : Bytes) :
    EndsNumber (encode (laterMembers (fields.map written)) ++ code '\x7d' :: rest) := by
  intro octet front
  cases fields with
  | nil =>
    cases front
    decide
  | cons field later =>
    rw [List.map_cons, encode_laterMembers, List.head?_cons] at front
    cases front
    decide

/-- The brace ends the members. -/
theorem scanMembers_close (rest : Bytes) :
    scanMembers (code '\x7d' :: rest) = .ok ([], rest) := by
  have closes := skipBlanks_cons (code '\x7d') rest rfl
  rw [scanMembers]
  split
  · rename_i none
    cases closes.symm.trans none
  · rename_i octet after front
    cases closes.symm.trans front
    rfl

/-- Behind a comma stand one member and the later ones. -/
theorem scanMembers_next (octets after final : Bytes) (entry : String × Scalar)
    (later : List (String × Scalar)) (first : scanMember octets = .ok (entry, after))
    (behind : scanMembers after = .ok (later, final)) :
    scanMembers (code ',' :: octets) = .ok (entry :: later, final) := by
  have comma := skipBlanks_cons (code ',') octets rfl
  have noBrace : code ',' ≠ code '\x7d' := by decide
  rw [scanMembers]
  split
  · rename_i none
    cases comma.symm.trans none
  · rename_i octet rest front
    cases comma.symm.trans front
    rw [if_neg noBrace, if_pos rfl]
    split
    · rename_i failure failed
      cases first.symm.trans failed
    · rename_i read rest step
      cases first.symm.trans step
      rw [behind]

/-- Fields with a comma in front of each are read back up to the closing brace. -/
theorem scanMembers_laterMembers (fields : Fields) (rest : Bytes) :
    scanMembers (encode (laterMembers (fields.map written)) ++ code '\x7d' :: rest) =
      .ok (fields.map readBack, rest) := by
  induction fields with
  | nil => exact scanMembers_close rest
  | cons field later inductionHypothesis =>
    have first := scanMember_written field _ (laterMembers_endsNumber later rest)
    rw [List.map_cons, encode_laterMembers]
    exact scanMembers_next _ _ rest _ _ first inductionHypothesis

/-- Written fields are read back as those fields, in their order. The reader knows neither the
fields nor the printer. -/
theorem flatMembers_text (fields : Fields) :
    flatMembers? (encode fields.text) = some (fields.map readBack) := by
  cases fields with
  | nil => rfl
  | cons field later =>
    have first := scanMember_written field _ (laterMembers_endsNumber later [])
    have behind := scanMembers_laterMembers later []
    have octets : encode (Fields.text (field :: later)) = code '\x7b' ::
        (encode (written field) ++
          (encode (laterMembers (later.map written)) ++ [code '\x7d'])) := by
      change encode ('{' :: written field ++ laterMembers (later.map written) ++ ['}']) = _
      rw [List.cons_append, List.cons_append, List.append_assoc, Utf8.encode_cons,
        Utf8.encode_append, Utf8.encode_append]
      rfl
    have opens := skipBlanks_cons (code '\x7b') (encode (written field) ++
      (encode (laterMembers (later.map written)) ++ [code '\x7d'])) rfl
    have noBrace : code '"' ≠ code '\x7d' := by decide
    rw [octets]
    simp only [flatMembers?, opens, if_true]
    rw [encode_written] at first ⊢
    have quote := skipBlanks_cons (code '"') (encode (field.1.toList.flatMap escape ++ ['"']) ++
      (code ':' :: (encode field.2.text ++
        (encode (laterMembers (later.map written)) ++ [code '\x7d'])))) rfl
    simp only [quote, if_neg noBrace, first, behind]
    rfl

/-- Written fields have no control characters, whatever their keys and values hold. -/
theorem text_visible (fields : Fields) : Visible fields.text := by
  have field : ∀ entry : String × Value, Visible (written entry) := by
    intro entry
    simp [written, member, quote_visible, value_visible]
  have later : ∀ rest : Fields, Visible (laterMembers (rest.map written)) := by
    intro rest
    induction rest with
    | nil => exact visible_nil
    | cons entry rest inductionHypothesis =>
      rw [List.map_cons, laterMembers, List.flatMap_cons, visible_append, visible_cons]
      exact ⟨⟨by decide, field entry⟩, inductionHypothesis⟩
  cases fields with
  | nil => simp [Fields.text, object]
  | cons entry rest =>
    change Visible ('{' :: written entry ++ laterMembers (rest.map written) ++ ['}'])
    simp [field, later]

end AgentKit.Json
