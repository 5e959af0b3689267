import AgentKit.Json.Skip
import AgentKit.Proofs.PlainToken
import AgentKit.Proofs.WrittenString

/-!
# Values of any depth

A value is a word, a number, a string, or a list or an object of values, with blanks between all of
these and a comma between two elements. The grammar follows the nesting. The reader that skips a
value has a stack of open frames instead: `Closes` says what the octets behind an element have to
be for a given stack, and `Finishes` says it for each place where the reader can stand.

Every value of the grammar is skipped, and whatever is skipped is a value of the grammar. Only a
number depends on what follows it, since more digits would extend it.
-/

namespace AgentKit.Json

/-- The words that are values. -/
def valueWords : List (List Char) :=
  [['n', 'u', 'l', 'l'], ['t', 'r', 'u', 'e'], ['f', 'a', 'l', 's', 'e']]

/-- A value that is neither a list nor an object. -/
inductive IsScalar : Bytes → Prop where
  | word {letters : List Char} (known : letters ∈ valueWords) : IsScalar (letters.map code)
  | number {token : List Char} (valid : IsNumber token) : IsScalar (token.map code)
  | string {body : Bytes} (passed : IsPassed body) : IsScalar (quoted body)

/-- The octet that opens a frame. -/
def Frame.opening : Frame → UInt8
  | .list => code '['
  | .object => code '\x7b'

/-- What precedes the value of an element: nothing in a list, a key and a colon in an object. -/
inductive IsLead : Frame → Bytes → Prop where
  | list : IsLead .list []
  | object {front body between : Bytes} (before : IsBlanks front) (key : IsPassed body)
      (behind : IsBlanks between) :
      IsLead .object (front ++ (quoted body ++ (between ++ [code ':'])))

mutual

/-- A value, from its first octet to its last. -/
inductive IsValue : Bytes → Prop where
  | scalar {written : Bytes} (valid : IsScalar written) : IsValue written
  | empty (frame : Frame) {inside : Bytes} (blanks : IsBlanks inside) :
      IsValue (frame.opening :: (inside ++ [frame.closing]))
  | filled (frame : Frame) {inside : Bytes} (elements : IsInside frame inside) :
      IsValue (frame.opening :: (inside ++ [frame.closing]))

/-- The elements of a list or an object, at least one, with a comma between two of them. -/
inductive IsInside : Frame → Bytes → Prop where
  | last {frame : Frame} {lead front written back : Bytes} (leads : IsLead frame lead)
      (before : IsBlanks front) (value : IsValue written) (behind : IsBlanks back) :
      IsInside frame (lead ++ (front ++ (written ++ back)))
  | more {frame : Frame} {lead front written back later : Bytes} (leads : IsLead frame lead)
      (before : IsBlanks front) (value : IsValue written) (behind : IsBlanks back)
      (elements : IsInside frame later) :
      IsInside frame (lead ++ (front ++ (written ++ (back ++ code ',' :: later))))

end

/-! ## One token -/

/-- A colon is passed with the blanks before it. -/
theorem skipColon_eq_ok {octets rest : Bytes} :
    skipColon octets = .ok rest ↔ ∃ front, IsBlanks front ∧ octets = front ++ code ':' :: rest := by
  constructor
  · intro skipped
    obtain ⟨front, blanks, split⟩ := skipBlanks_split octets
    unfold skipColon at skipped
    split at skipped
    · cases skipped
    rename_i octet after left
    split at skipped
    · rename_i colon
      cases skipped
      rw [left, colon] at split
      exact ⟨front, blanks, split⟩
    · cases skipped
  · rintro ⟨front, blanks, rfl⟩
    rw [skipColon, skipBlanks_front blanks (code ':') rest rfl]
    rfl

/-- A key is passed with its colon. -/
theorem skipKey_eq_ok {octets rest : Bytes} :
    skipKey octets = .ok rest ↔ ∃ lead, IsLead .object lead ∧ octets = lead ++ rest := by
  constructor
  · intro skipped
    obtain ⟨front, before, split⟩ := skipBlanks_split octets
    unfold skipKey at skipped
    split at skipped
    · cases skipped
    rename_i octet after left
    rw [left] at split
    split at skipped
    · rename_i quote
      split at skipped
      · rename_i behind step
        obtain ⟨body, rfl, key⟩ := skipString_eq_ok.mp step
        obtain ⟨between, blanks, rfl⟩ := skipColon_eq_ok.mp skipped
        refine ⟨_, .object before key blanks, ?_⟩
        rw [split, quote]
        simp [quoted]
      · cases skipped
    · cases skipped
  · rintro ⟨_, leads, rfl⟩
    cases leads with
    | @object front body between before key behind =>
      have quote := skipBlanks_front before (code '"')
        (body ++ code '"' :: (between ++ code ':' :: rest)) rfl
      have written : front ++ (quoted body ++ (between ++ [code ':'])) ++ rest =
          front ++ code '"' :: (body ++ code '"' :: (between ++ code ':' :: rest)) := by
        simp [quoted]
      rw [written, skipKey, quote]
      simp only [if_true, key.skipString]
      exact skipColon_eq_ok.mpr ⟨between, behind, rfl⟩

/-- What precedes the value of an element is passed exactly. -/
theorem skipLead_eq_ok {frame : Frame} {octets rest : Bytes} :
    frame.skipLead octets = .ok rest ↔ ∃ lead, IsLead frame lead ∧ octets = lead ++ rest := by
  cases frame with
  | object => exact skipKey_eq_ok
  | list =>
    constructor
    · rintro ⟨⟩
      exact ⟨[], .list, rfl⟩
    · rintro ⟨_, ⟨⟩, rfl⟩
      rfl

/-- The first octet of a value that is neither a list nor an object: no blank and no bracket. -/
def BeginsScalar (octet : UInt8) : Prop :=
  isBlank octet = false ∧ ∀ frame : Frame, octet ≠ frame.opening ∧ octet ≠ frame.closing

instance (octet : UInt8) : Decidable (BeginsScalar octet) :=
  decidable_of_iff (isBlank octet = false ∧
      (octet ≠ Frame.list.opening ∧ octet ≠ Frame.list.closing) ∧
        octet ≠ Frame.object.opening ∧ octet ≠ Frame.object.closing)
    ⟨fun ⟨solid, list, object⟩ => ⟨solid, fun | .list => list | .object => object⟩,
      fun ⟨solid, all⟩ => ⟨solid, all .list, all .object⟩⟩

/-- A digit begins a number and none of the other values. -/
theorem digit_begins {octet : UInt8} (digit : isDigit octet = true) :
    BeginsScalar octet ∧ octet ≠ code 'n' ∧ octet ≠ code 't' ∧ octet ≠ code 'f' ∧
      octet ≠ code '-' := by
  have differs : ∀ other, isDigit other = false → octet ≠ other := by
    rintro other noDigit rfl
    exact absurd digit (by simp [noDigit])
  have solid : isBlank octet = false := by
    simp [isBlank, differs 0x20 rfl, differs 0x09 rfl, differs 0x0A rfl, differs 0x0D rfl]
  refine ⟨⟨solid, fun frame => ?_⟩, differs _ rfl, differs _ rfl, differs _ rfl, differs _ rfl⟩
  cases frame with
  | list => exact ⟨differs _ rfl, differs _ rfl⟩
  | object => exact ⟨differs _ rfl, differs _ rfl⟩

/-- A word, a number or a string is passed exactly, unless it is a number that goes on. -/
theorem IsScalar.skipScalar {written : Bytes} (valid : IsScalar written) {rest : Bytes}
    (ends : EndsNumber rest) :
    ∃ octet behind, written = octet :: behind ∧ BeginsScalar octet ∧
      skipScalar octet (behind ++ rest) = .ok rest := by
  cases valid with
  | word known =>
    have passed (letters : List Char) : skipWord letters (letters.map code ++ rest) = .ok rest :=
      skipWord_eq_ok.mpr rfl
    simp only [valueWords, List.mem_cons, List.not_mem_nil, or_false] at known
    rcases known with rfl | rfl | rfl
    · exact ⟨code 'n', _, rfl, by decide, passed ['u', 'l', 'l']⟩
    · exact ⟨code 't', _, rfl, by decide, passed ['r', 'u', 'e']⟩
    · exact ⟨code 'f', _, rfl, by decide, passed ['a', 'l', 's', 'e']⟩
  | @string body passed =>
    refine ⟨code '"', body ++ [code '"'], rfl, by decide, ?_⟩
    rw [List.append_assoc]
    exact passed.skipString rest
  | number number =>
    cases number with
    | negative unsigned parts =>
      exact ⟨code '-', _, rfl, by decide, skipNumber_unsigned unsigned rest parts ends⟩
    | positive token parts =>
      have skipped := skipNumber_unsigned _ rest parts ends
      obtain ⟨leading, later, rfl, valid⟩ := parts.front
      have digit := isDigit_code leading valid
      obtain ⟨begins, noNull, noTrue, noFalse, noMinus⟩ := digit_begins digit
      refine ⟨code leading, later.map code, rfl, begins, ?_⟩
      rw [Json.skipScalar, if_neg noNull, if_neg noTrue, if_neg noFalse, if_neg noMinus,
        if_pos digit]
      exact skipped

/-- What is passed as a word, a number or a string is one. -/
theorem skipScalar_split {octet : UInt8} {octets rest : Bytes}
    (skipped : skipScalar octet octets = .ok rest) :
    ∃ written, IsScalar written ∧ octet :: octets = written ++ rest := by
  unfold skipScalar at skipped
  split at skipped
  · rename_i first
    rw [first, skipWord_eq_ok.mp skipped]
    have known : ['n', 'u', 'l', 'l'] ∈ valueWords := by decide
    exact ⟨_, .word known, rfl⟩
  split at skipped
  · rename_i first
    rw [first, skipWord_eq_ok.mp skipped]
    have known : ['t', 'r', 'u', 'e'] ∈ valueWords := by decide
    exact ⟨_, .word known, rfl⟩
  split at skipped
  · rename_i first
    rw [first, skipWord_eq_ok.mp skipped]
    have known : ['f', 'a', 'l', 's', 'e'] ∈ valueWords := by decide
    exact ⟨_, .word known, rfl⟩
  split at skipped
  · rename_i minus
    obtain ⟨token, unsigned, rfl⟩ := skipNumber_split skipped
    exact ⟨_, .number (.negative token unsigned), by rw [minus]; rfl⟩
  split at skipped
  · obtain ⟨token, unsigned, split⟩ := skipNumber_split skipped
    exact ⟨_, .number (.positive token unsigned), split⟩
  split at skipped
  · rename_i quote
    obtain ⟨body, rfl, passed⟩ := skipString_eq_ok.mp skipped
    exact ⟨_, .string passed, by rw [quote]; simp [quoted]⟩
  · cases skipped

/-! ## What is skipped is a value -/

/-- What stands between the brackets of a frame: blanks, or its elements. -/
def IsContent (frame : Frame) (inside : Bytes) : Prop := IsBlanks inside ∨ IsInside frame inside

/-- A frame with its content is a value. -/
theorem IsContent.isValue {frame : Frame} {inside : Bytes} (content : IsContent frame inside) :
    IsValue (frame.opening :: (inside ++ [frame.closing])) := by
  rcases content with blanks | elements
  · exact .empty frame blanks
  · exact .filled frame elements

/-- What stands between an element and the bracket that closes its frame: blanks, and then a comma
and further elements or nothing. -/
inductive IsBehind (frame : Frame) : Bytes → Prop where
  | last {back : Bytes} (blanks : IsBlanks back) : IsBehind frame back
  | more {back later : Bytes} (blanks : IsBlanks back) (elements : IsInside frame later) :
      IsBehind frame (back ++ code ',' :: later)

/-- An element and what stands behind it are elements. -/
theorem IsBehind.isInside {frame : Frame} {lead front written back : Bytes}
    (behind : IsBehind frame back) (leads : IsLead frame lead) (before : IsBlanks front)
    (value : IsValue written) : IsInside frame (lead ++ (front ++ (written ++ back))) := by
  cases behind with
  | last blanks => exact .last leads before value blanks
  | more blanks elements => exact .more leads before value blanks elements

/-- The octets from behind an element to the end of the outermost frame that is open. -/
inductive Closes : List Frame → Bytes → Prop where
  | done : Closes [] []
  | frame {frame : Frame} {outer : List Frame} {back later : Bytes} (behind : IsBehind frame back)
      (closes : Closes outer later) : Closes (frame :: outer) (back ++ frame.closing :: later)

/-- The octets from a place to the end of the outermost frame that is open. -/
inductive Finishes : Place → List Frame → Bytes → Prop where
  | value {frames : List Frame} {front written later : Bytes} (before : IsBlanks front)
      (value : IsValue written) (closes : Closes frames later) :
      Finishes .value frames (front ++ (written ++ later))
  | unopened : Finishes .opened [] []
  | opened {frame : Frame} {outer : List Frame} {inside later : Bytes}
      (content : IsContent frame inside) (closes : Closes outer later) :
      Finishes .opened (frame :: outer) (inside ++ frame.closing :: later)
  | element {frames : List Frame} {later : Bytes} (closes : Closes frames later) :
      Finishes .element frames later

/-- Blanks in front of what precedes a value are part of it, or of the blanks behind it. -/
theorem IsLead.indent {frame : Frame} {front lead between : Bytes} (leads : IsLead frame lead)
    (before : IsBlanks front) (behind : IsBlanks between) :
    ∃ lead' between', IsLead frame lead' ∧ IsBlanks between' ∧
      front ++ (lead ++ between) = lead' ++ between' := by
  cases leads with
  | list => exact ⟨[], front ++ between, .list, by simp [before, behind], rfl⟩
  | @object margin body middle first key second =>
    have margins : IsBlanks (front ++ margin) := (isBlanks_append front margin).mpr ⟨before, first⟩
    exact ⟨_, between, .object margins key second, behind, by simp⟩

/-- Elements stay elements with blanks in front of them. -/
theorem IsInside.indent {frame : Frame} {front inside : Bytes} (elements : IsInside frame inside)
    (before : IsBlanks front) : IsInside frame (front ++ inside) := by
  cases elements with
  | last leads between value behind =>
    obtain ⟨lead', between', leads', blanks, same⟩ := leads.indent before between
    have whole := IsInside.last leads' blanks value behind
    rwa [← List.append_assoc lead', ← same, List.append_assoc, List.append_assoc] at whole
  | more leads between value behind later =>
    obtain ⟨lead', between', leads', blanks, same⟩ := leads.indent before between
    have whole := IsInside.more leads' blanks value behind later
    rwa [← List.append_assoc lead', ← same, List.append_assoc, List.append_assoc] at whole

/-- In front of an opening bracket stands the value that it opens. -/
theorem Finishes.open {frame : Frame} {frames : List Frame} {front passed : Bytes}
    (before : IsBlanks front) (finishes : Finishes .opened (frame :: frames) passed) :
    Finishes .value frames (front ++ frame.opening :: passed) := by
  cases finishes with
  | opened content closes =>
    have whole := Finishes.value before content.isValue closes
    simpa using whole

/-- With what precedes it, the value that is still to come is one of the elements of its frame. -/
theorem Finishes.element_of_lead {frame : Frame} {outer : List Frame} {lead passed : Bytes}
    (leads : IsLead frame lead) (finishes : Finishes .value (frame :: outer) passed) :
    ∃ inside later, IsInside frame inside ∧ Closes outer later ∧
      lead ++ passed = inside ++ frame.closing :: later := by
  cases finishes with
  | value before value closes =>
    cases closes with
    | frame behind closes =>
      exact ⟨_, _, behind.isInside leads before value, closes, by simp⟩

/-- Whatever the reader passes from a place on finishes the frames that are open there. -/
theorem skipFrom_split {place : Place} {frames : List Frame} {octets rest : Bytes}
    (skipped : skipFrom place frames octets = .ok rest) :
    ∃ passed, Finishes place frames passed ∧ octets = passed ++ rest := by
  fun_induction skipFrom place frames octets with
  | case1 => cases skipped
  | case2 octets frames after left inductionHypothesis =>
    obtain ⟨front, before, rfl⟩ := skipBlanks_cut left
    obtain ⟨passed, finishes, rfl⟩ := inductionHypothesis skipped
    exact ⟨_, finishes.open before, by simp [Frame.opening]⟩
  | case3 octets frames after left _ inductionHypothesis =>
    obtain ⟨front, before, rfl⟩ := skipBlanks_cut left
    obtain ⟨passed, finishes, rfl⟩ := inductionHypothesis skipped
    exact ⟨_, finishes.open before, by simp [Frame.opening]⟩
  | case4 octets frames octet after left _ _ final scalar inductionHypothesis =>
    obtain ⟨front, before, rfl⟩ := skipBlanks_cut left
    obtain ⟨later, finishes, rfl⟩ := inductionHypothesis skipped
    obtain ⟨written, valid, whole⟩ := skipScalar_split scalar
    cases finishes with
    | element closes => exact ⟨_, .value before (.scalar valid) closes, by rw [whole]; simp⟩
  | case5 => cases skipped
  | case6 =>
    cases skipped
    exact ⟨[], .unopened, rfl⟩
  | case7 =>
    cases skipped
    exact ⟨[], .element .done, rfl⟩
  | case8 => cases skipped
  | case9 octets frame outer after left inductionHypothesis =>
    obtain ⟨front, before, rfl⟩ := skipBlanks_cut left
    obtain ⟨later, finishes, rfl⟩ := inductionHypothesis skipped
    cases finishes with
    | element closes => exact ⟨_, .opened (.inl before) closes, by simp⟩
  | case10 octets frame outer octet after left _ final step inductionHypothesis =>
    obtain ⟨front, before, rfl⟩ := skipBlanks_cut left
    obtain ⟨passed, finishes, rfl⟩ := inductionHypothesis skipped
    obtain ⟨lead, leads, whole⟩ := skipLead_eq_ok.mp step
    obtain ⟨inside, later, elements, closes, same⟩ := finishes.element_of_lead leads
    refine ⟨_, .opened (.inr (elements.indent before)) closes, ?_⟩
    rw [whole, ← List.append_assoc lead, same]
    simp
  | case11 => cases skipped
  | case12 => cases skipped
  | case13 octets frame outer after left inductionHypothesis =>
    obtain ⟨back, blanks, rfl⟩ := skipBlanks_cut left
    obtain ⟨later, finishes, rfl⟩ := inductionHypothesis skipped
    cases finishes with
    | element closes => exact ⟨_, .element (.frame (.last blanks) closes), by simp⟩
  | case14 octets frame outer after final step left _ inductionHypothesis =>
    obtain ⟨back, blanks, rfl⟩ := skipBlanks_cut left
    obtain ⟨passed, finishes, rfl⟩ := inductionHypothesis skipped
    obtain ⟨lead, leads, rfl⟩ := skipLead_eq_ok.mp step
    obtain ⟨inside, later, elements, closes, same⟩ := finishes.element_of_lead leads
    refine ⟨_, .element (.frame (.more blanks elements) closes), ?_⟩
    rw [← List.append_assoc lead, same]
    simp
  | case15 => cases skipped
  | case16 => cases skipped

/-- What is skipped is a value of the grammar, with blanks before it. -/
theorem skipValue_split {octets rest : Bytes} (skipped : skipValue octets = .ok rest) :
    ∃ front written, IsBlanks front ∧ IsValue written ∧ octets = front ++ (written ++ rest) := by
  obtain ⟨passed, finishes, rfl⟩ := skipFrom_split skipped
  cases finishes with
  | value before value closes =>
    cases closes with
    | done => exact ⟨_, _, before, value, by simp⟩

/-! ## Every value is skipped -/

/-- Blanks in front of a value are skipped with it. -/
theorem skipFrom_blanks {front : Bytes} (before : IsBlanks front) (frames : List Frame)
    (octets : Bytes) :
    skipFrom .value frames (front ++ octets) = skipFrom .value frames octets := by
  rw [skipFrom, skipFrom, skipBlanks_append before]

/-- Skip the next element of a frame and all that is still open. -/
def Frame.skipNext (frame : Frame) (outer : List Frame) (octets : Bytes) : Except Failure Bytes :=
  match frame.skipLead octets with
  | .ok after => skipFrom .value (frame :: outer) after
  | .error failure => .error failure

-- At each place, the first octet behind the blanks decides what is done.
section Places

variable {octets rest : Bytes} {octet : UInt8} (left : skipBlanks octets = octet :: rest)

include left

/-- In front of a value, a bracket opens a frame, and anything else is passed at once. -/
theorem skipFrom_value (frames : List Frame) : skipFrom .value frames octets =
    if octet = code '[' then skipFrom .opened (.list :: frames) rest
    else if octet = code '\x7b' then skipFrom .opened (.object :: frames) rest
    else
      match skipScalar octet rest with
      | .ok after => skipFrom .element frames after
      | .error failure => .error failure := by
  rw [skipFrom]
  split
  · rename_i none
    cases left.symm.trans none
  rename_i first after step
  cases left.symm.trans step
  split
  · rfl
  split
  · rfl
  · split <;> rename_i scalar <;> rw [scalar]

/-- Behind an opening bracket stands the bracket that closes the frame, or the first element. -/
theorem skipFrom_opened (frame : Frame) (outer : List Frame) :
    skipFrom .opened (frame :: outer) octets =
      if octet = frame.closing then skipFrom .element outer rest
      else frame.skipNext outer (octet :: rest) := by
  rw [skipFrom]
  split
  · rename_i none
    cases left.symm.trans none
  rename_i first after step
  cases left.symm.trans step
  rw [Frame.skipNext]
  split
  · rfl
  · split <;> rename_i lead <;> rw [lead]

/-- Behind an element stands the bracket that closes the frame, or a comma and the next element. -/
theorem skipFrom_element (frame : Frame) (outer : List Frame) :
    skipFrom .element (frame :: outer) octets =
      if octet = frame.closing then skipFrom .element outer rest
      else if octet = code ',' then frame.skipNext outer rest
      else .error (.ahead frame.expectedEnd (octet :: rest)) := by
  rw [skipFrom]
  split
  · rename_i none
    cases left.symm.trans none
  rename_i first after step
  cases left.symm.trans step
  rw [Frame.skipNext]
  split
  · rfl
  split
  · split <;> rename_i lead <;> rw [lead]
  · rfl

end Places

/-- The opening bracket of a value leads into its frame. -/
theorem skipFrom_open (frame : Frame) (frames : List Frame) (octets : Bytes) :
    skipFrom .value frames (frame.opening :: octets) =
      skipFrom .opened (frame :: frames) octets := by
  have solid : isBlank frame.opening = false := by cases frame <;> rfl
  rw [skipFrom_value (skipBlanks_cons frame.opening octets solid)]
  cases frame with
  | list => rfl
  | object => rfl

/-- A word, a number or a string is passed at once. -/
theorem skipFrom_scalar {octet : UInt8} {octets rest : Bytes} (frames : List Frame)
    (begins : BeginsScalar octet) (skipped : skipScalar octet octets = .ok rest) :
    skipFrom .value frames (octet :: octets) = skipFrom .element frames rest := by
  have noList : octet ≠ code '[' := (begins.2 .list).1
  have noObject : octet ≠ code '\x7b' := (begins.2 .object).1
  rw [skipFrom_value (skipBlanks_cons octet octets begins.1), if_neg noList, if_neg noObject,
    skipped]

/-- Behind what precedes its value, the next element is that value. -/
theorem skipNext_lead {frame : Frame} {lead : Bytes} (leads : IsLead frame lead)
    (outer : List Frame) (octets : Bytes) :
    frame.skipNext outer (lead ++ octets) = skipFrom .value (frame :: outer) octets := by
  rw [Frame.skipNext, skipLead_eq_ok.mpr ⟨lead, leads, rfl⟩]

/-- Blanks in front of an element are skipped with it. -/
theorem skipNext_blanks (frame : Frame) {front : Bytes} (before : IsBlanks front)
    (outer : List Frame) (octets : Bytes) :
    frame.skipNext outer (front ++ octets) = frame.skipNext outer octets := by
  cases frame with
  | list => exact skipFrom_blanks before (.list :: outer) octets
  | object => simp only [Frame.skipNext, Frame.skipLead, skipKey, skipBlanks_append before]

/-- A closing bracket is no blank. -/
theorem Frame.closing_solid (frame : Frame) : isBlank frame.closing = false := by
  cases frame <;> rfl

/-- A closing bracket ends a number. -/
theorem Frame.closing_ends (frame : Frame) (rest : Bytes) : EndsNumber (frame.closing :: rest) := by
  rintro octet ⟨⟩
  cases frame <;> decide

/-- A comma ends a number. -/
theorem comma_ends (rest : Bytes) : EndsNumber (code ',' :: rest) := by
  rintro octet ⟨⟩
  decide

/-- A value begins neither with a blank nor with a closing bracket. -/
theorem IsValue.front {written : Bytes} (value : IsValue written) :
    ∃ octet behind, written = octet :: behind ∧ isBlank octet = false ∧
      ∀ frame : Frame, octet ≠ frame.closing := by
  have bracket (frame : Frame) : isBlank frame.opening = false ∧
      ∀ other : Frame, frame.opening ≠ other.closing := by
    constructor
    · cases frame <;> rfl
    · intro other
      cases frame <;> cases other <;> decide
  cases value with
  | scalar valid =>
    have ends : EndsNumber [] := fun _ front => nomatch front
    obtain ⟨octet, behind, rfl, begins, _⟩ := valid.skipScalar ends
    exact ⟨octet, behind, rfl, begins.1, fun frame => (begins.2 frame).2⟩
  | empty frame blanks => exact ⟨frame.opening, _, rfl, bracket frame⟩
  | filled frame elements => exact ⟨frame.opening, _, rfl, bracket frame⟩

/-- The first element of a frame begins neither with a blank nor with the bracket that closes it. -/
theorem IsInside.front {frame : Frame} {inside : Bytes} (elements : IsInside frame inside) :
    ∃ front octet behind, IsBlanks front ∧ inside = front ++ octet :: behind ∧
      isBlank octet = false ∧ octet ≠ frame.closing := by
  have led {lead front written : Bytes} (leads : IsLead frame lead) (before : IsBlanks front)
      (value : IsValue written) (later : Bytes) :
      ∃ margin octet behind, IsBlanks margin ∧
        lead ++ (front ++ (written ++ later)) = margin ++ octet :: behind ∧
        isBlank octet = false ∧ octet ≠ frame.closing := by
    cases leads with
    | list =>
      obtain ⟨octet, behind, rfl, solid, inner⟩ := value.front
      exact ⟨front, octet, _, before, rfl, solid, inner .list⟩
    | object margin key between =>
      exact ⟨_, code '"', _, margin, List.append_assoc _ _ _, rfl, by decide⟩
  cases elements with
  | last leads before value behind => exact led leads before value _
  | more leads before value behind later => exact led leads before value _

/-- Behind blanks, a comma or a bracket, no digit goes on. -/
theorem endsNumber_blanks {back : Bytes} (blanks : IsBlanks back) (octet : UInt8) (rest : Bytes)
    (ends : EndsNumber (octet :: rest)) : EndsNumber (back ++ octet :: rest) := by
  cases back with
  | nil => exact ends
  | cons blank later =>
    intro first front
    cases front
    have known := blanks blank List.mem_cons_self
    simp only [blankOctets, List.map_cons, List.map_nil, List.mem_cons, List.not_mem_nil,
      or_false] at known
    rcases known with rfl | rfl | rfl | rfl <;> decide

/-- Elements of which the reader passes the whole are passed from behind the opening bracket. -/
theorem IsInside.skipOpened {frame : Frame} {inside : Bytes} (elements : IsInside frame inside)
    (outer : List Frame) (octets : Bytes) :
    skipFrom .opened (frame :: outer) (inside ++ octets) =
      frame.skipNext outer (inside ++ octets) := by
  obtain ⟨front, octet, behind, before, rfl, solid, inner⟩ := elements.front
  have left := skipBlanks_front before octet (behind ++ octets) solid
  rw [List.append_assoc, List.cons_append, skipFrom_opened left, if_neg inner,
    skipNext_blanks frame before]

-- The induction follows the grammar. The frames that are open around a value and what stands behind
-- it are arbitrary, since both grow on the way to an inner value.
mutual

/-- A value is skipped, unless it is a number that goes on. -/
theorem IsValue.skipFrom {written : Bytes} (value : IsValue written) (frames : List Frame)
    {rest : Bytes} (ends : EndsNumber rest) :
    skipFrom .value frames (written ++ rest) = skipFrom .element frames rest := by
  match value with
  | .scalar valid =>
    obtain ⟨octet, behind, rfl, begins, skipped⟩ := valid.skipScalar ends
    exact skipFrom_scalar frames begins skipped
  | .empty frame blanks =>
    have left := skipBlanks_front blanks frame.closing rest frame.closing_solid
    rw [List.cons_append, skipFrom_open, List.append_assoc, List.singleton_append,
      skipFrom_opened left, if_pos rfl]
  | .filled frame elements =>
    rw [List.cons_append, skipFrom_open, List.append_assoc, elements.skipOpened]
    exact elements.skipNext frames rest

/-- The elements of a frame are skipped up to the bracket that closes it. -/
theorem IsInside.skipNext {frame : Frame} {inside : Bytes} (elements : IsInside frame inside)
    (outer : List Frame) (rest : Bytes) :
    frame.skipNext outer (inside ++ frame.closing :: rest) = Json.skipFrom .element outer rest := by
  match elements with
  | .last leads before value behind =>
    have ends := endsNumber_blanks behind frame.closing rest (frame.closing_ends rest)
    have left := skipBlanks_front behind frame.closing rest frame.closing_solid
    simp only [List.append_assoc]
    rw [skipNext_lead leads, skipFrom_blanks before, value.skipFrom (frame :: outer) ends,
      skipFrom_element left, if_pos rfl]
  | @IsInside.more _ _ _ _ _ later leads before value behind elements =>
    have comma : code ',' ≠ frame.closing := by cases frame <;> decide
    have ends := endsNumber_blanks behind (code ',') (later ++ frame.closing :: rest)
      (comma_ends _)
    have left := skipBlanks_front behind (code ',') (later ++ frame.closing :: rest) rfl
    simp only [List.append_assoc, List.cons_append]
    rw [skipNext_lead leads, skipFrom_blanks before, value.skipFrom (frame :: outer) ends,
      skipFrom_element left, if_neg comma, if_pos rfl]
    exact elements.skipNext outer rest

end

/-- A value is skipped with the blanks in front of it, unless it is a number that goes on. -/
theorem IsValue.skipValue {front written rest : Bytes} (value : IsValue written)
    (before : IsBlanks front) (ends : EndsNumber rest) :
    skipValue (front ++ (written ++ rest)) = .ok rest := by
  rw [Json.skipValue, skipFrom_blanks before, value.skipFrom [] ends, Json.skipFrom]

end AgentKit.Json
