import AgentKit.Json.Failure
/-!
# Strings, words and number tokens

The leaves of the reader. Each takes the octets from its own start on and gives back what follows
it, always fewer octets than it was given; the lemmas say so, and the loops that use the leaves end
because of them.

A string is read in one of two ways. Reading it decodes escapes and checks the octets; skipping it
only finds its end, and so admits lone surrogates and octets that are no characters. That the octets
of a string are no text is reported after all its other faults.
-/
namespace AgentKit.Json

/-- The octet of a character below U+0080. -/
abbrev code (character : Char) : UInt8 := character.toUInt8

/-- Space, tab, line feed and carriage return may stand between tokens. -/
def isBlank (octet : UInt8) : Bool :=
  octet == 0x20 || octet == 0x09 || octet == 0x0A || octet == 0x0D

/-- The octets from the first one on that is not blank. -/
def skipBlanks (octets : Bytes) : Bytes := octets.dropWhile isBlank

theorem skipBlanks_length (octets : Bytes) : (skipBlanks octets).length ≤ octets.length :=
  (List.dropWhile_sublist isBlank).length_le

/-- A decimal digit. -/
def isDigit (octet : UInt8) : Bool := code '0' ≤ octet && octet ≤ code '9'

/-- The value of a hexadecimal digit of either case. -/
def hexValue? (octet : UInt8) : Option Nat :=
  if isDigit octet then some (octet.toNat - 0x30)
  else if code 'a' ≤ octet && octet ≤ code 'f' then some (octet.toNat - 0x57)
  else if code 'A' ≤ octet && octet ≤ code 'F' then some (octet.toNat - 0x37)
  else none

/-- Read a number of four hexadecimal digits. All four octets are passed before they are looked
at. -/
def scanHex : Bytes → Scan Nat
  | first :: second :: third :: fourth :: rest =>
    match hexValue? first, hexValue? second, hexValue? third, hexValue? fourth with
    | some high, some upper, some lower, some low =>
      .ok (((high * 16 + upper) * 16 + lower) * 16 + low, rest)
    | _, _, _, _ => .error ⟨.invalidEscape, rest⟩
  | _ => .error ⟨.endInString, []⟩

theorem scanHex_length {octets rest : Bytes} {number : Nat}
    (scanned : scanHex octets = .ok (number, rest)) : rest.length < octets.length := by
  unfold scanHex at scanned
  split at scanned
  · split at scanned
    · simp only [Except.ok.injEq, Prod.mk.injEq] at scanned
      simp only [← scanned.2, List.length_cons]
      omega
    · cases scanned
  · cases scanned

/-- A number that stands for the first half of a pair. -/
def isHighSurrogate (number : Nat) : Bool := 0xD800 ≤ number && number ≤ 0xDBFF

/-- A number that stands for the second half of a pair. -/
def isLowSurrogate (number : Nat) : Bool := 0xDC00 ≤ number && number ≤ 0xDFFF

/-- Read what has to follow the first half of a pair: a second escape with the second half. -/
def scanLowHalf (high : Nat) : Bytes → Scan Char
  | [] => .error ⟨.endInString, []⟩
  | first :: afterFirst =>
    if first = code '\\' then
      match afterFirst with
      | [] => .error ⟨.endInString, []⟩
      | second :: afterSecond =>
        if second = code 'u' then
          match scanHex afterSecond with
          | .error failure => .error failure
          | .ok (low, rest) =>
            if isLowSurrogate low then
              .ok (Char.ofNat (0x10000 + (high - 0xD800) * 0x400 + (low - 0xDC00)), rest)
            else .error ⟨.loneSurrogate, rest⟩
        else .error ⟨.unfinishedPair, afterSecond⟩
    else .error ⟨.unfinishedPair, afterFirst⟩

theorem scanLowHalf_length {high : Nat} {octets rest : Bytes} {character : Char}
    (scanned : scanLowHalf high octets = .ok (character, rest)) :
    rest.length < octets.length := by
  unfold scanLowHalf at scanned
  repeat' split at scanned
  all_goals simp only [reduceCtorEq, Except.ok.injEq, Prod.mk.injEq] at scanned
  rename_i step _
  have shorter := scanHex_length step
  simp only [← scanned.2, List.length_cons]
  omega

/-- The character of an escape by letter. -/
def letterEscape? (letter : UInt8) : Option Char :=
  if letter = code '"' then some '"'
  else if letter = code '\\' then some '\\'
  else if letter = code '/' then some '/'
  else if letter = code 'b' then some '\x08'
  else if letter = code 'f' then some '\x0C'
  else if letter = code 'n' then some '\n'
  else if letter = code 'r' then some '\r'
  else if letter = code 't' then some '\t'
  else none

/-- Read an escape from behind its backslash. A character outside the basic plane takes a pair of
escapes, and half a pair is refused. -/
def scanEscape : Bytes → Scan Char
  | [] => .error ⟨.endInString, []⟩
  | letter :: rest =>
    match letterEscape? letter with
    | some character => .ok (character, rest)
    | none =>
      if letter = code 'u' then
        match scanHex rest with
        | .error failure => .error failure
        | .ok (number, after) =>
          if isLowSurrogate number then .error ⟨.loneSurrogate, after⟩
          else if isHighSurrogate number then scanLowHalf number after
          else .ok (Char.ofNat number, after)
      else .error ⟨.invalidEscape, rest⟩

theorem scanEscape_length {octets rest : Bytes} {character : Char}
    (scanned : scanEscape octets = .ok (character, rest)) : rest.length < octets.length := by
  unfold scanEscape at scanned
  repeat' split at scanned
  all_goals first
    | cases scanned
      done
    | skip
  · cases scanned
    simp
  · rename_i step _ _
    have first := scanHex_length step
    have second := scanLowHalf_length scanned
    simp only [List.length_cons]
    omega
  · rename_i step _ _
    have first := scanHex_length step
    cases scanned
    simp only [List.length_cons]
    omega

/-- Read a string from behind its opening quote to behind its closing one. The octets are those that
stand there, and those of the characters that escapes stand for. -/
def scanOctets : Bytes → Scan Bytes
  | [] => .error ⟨.endInString, []⟩
  | octet :: rest =>
    if octet = code '"' then .ok ([], rest)
    else if octet = code '\\' then
      match _escaped : scanEscape rest with
      | .error failure => .error failure
      | .ok (character, after) =>
        match scanOctets after with
        | .ok (octets, final) => .ok (Utf8.encodeChar character ++ octets, final)
        | .error failure => .error failure
    else if octet < 0x20 then .error ⟨.controlCharacter, rest⟩
    else
      match scanOctets rest with
      | .ok (octets, final) => .ok (octet :: octets, final)
      | .error failure => .error failure
termination_by octets => octets.length
decreasing_by
  · have shorter := scanEscape_length _escaped
    simp only [List.length_cons]
    omega
  · simp

theorem scanOctets_length {octets held rest : Bytes}
    (scanned : scanOctets octets = .ok (held, rest)) : rest.length < octets.length := by
  fun_induction scanOctets octets generalizing held rest with
  | case1 => cases scanned
  | case2 => cases scanned; simp
  | case3 => cases scanned
  | case4 tail character after escaped octets final inner _ induction =>
    cases scanned
    have first := scanEscape_length escaped
    have second := induction inner
    simp only [List.length_cons]
    omega
  | case5 => cases scanned
  | case6 => cases scanned
  | case7 octet tail _ _ _ octets final inner induction =>
    cases scanned
    have second := induction inner
    simp only [List.length_cons]
    omega
  | case8 => cases scanned

/-- Read a string and insist on its text. The report about octets that are no text stands so far in
front of what follows the string as the octets from the first ill-formed part on reach. -/
def scanString (octets : Bytes) : Scan String :=
  match scanOctets octets with
  | .error failure => .error failure
  | .ok (held, rest) =>
    match Utf8.decode held with
    | .ok characters => .ok (String.ofList characters, rest)
    | .error illFormed =>
      .error ⟨.invalidCodePoint,
        octets.drop (octets.length - (rest.length + illFormed.length))⟩

theorem scanString_length {octets rest : Bytes} {text : String}
    (scanned : scanString octets = .ok (text, rest)) : rest.length < octets.length := by
  unfold scanString at scanned
  split at scanned
  · cases scanned
  · rename_i step
    split at scanned
    · cases scanned
      exact scanOctets_length step
    · cases scanned

/-- Skip an escape from behind its backslash. -/
def skipEscape : Bytes → Except Failure Bytes
  | [] => .error ⟨.endInString, []⟩
  | letter :: rest =>
    match letterEscape? letter with
    | some _ => .ok rest
    | none =>
      if letter = code 'u' then
        match scanHex rest with
        | .error failure => .error failure
        | .ok (_, after) => .ok after
      else .error ⟨.invalidEscape, rest⟩

theorem skipEscape_length {octets rest : Bytes} (skipped : skipEscape octets = .ok rest) :
    rest.length < octets.length := by
  unfold skipEscape at skipped
  repeat' split at skipped
  all_goals first
    | cases skipped
      done
    | skip
  · cases skipped
    simp
  · rename_i step
    have first := scanHex_length step
    cases skipped
    simp only [List.length_cons]
    omega

/-- Skip a string from behind its opening quote to behind its closing one. A control character is
reported in front of itself. -/
def skipString : Bytes → Except Failure Bytes
  | [] => .error ⟨.endInString, []⟩
  | octet :: rest =>
    if octet = code '"' then .ok rest
    else if octet = code '\\' then
      match _escaped : skipEscape rest with
      | .error failure => .error failure
      | .ok after => skipString after
    else if octet < 0x20 then .error ⟨.controlCharacter, octet :: rest⟩
    else skipString rest
termination_by octets => octets.length
decreasing_by
  · have shorter := skipEscape_length _escaped
    simp only [List.length_cons]
    omega
  · simp

theorem skipString_length {octets rest : Bytes} (skipped : skipString octets = .ok rest) :
    rest.length < octets.length := by
  fun_induction skipString octets generalizing rest with
  | case1 => cases skipped
  | case2 => cases skipped; simp
  | case3 => cases skipped
  | case4 tail after escaped _ induction =>
    have first := skipEscape_length escaped
    have second := induction skipped
    simp only [List.length_cons]
    omega
  | case5 => cases skipped
  | case6 octet after _ _ _ induction =>
    have first := induction skipped
    simp only [List.length_cons]
    omega

/-- Read the remaining letters of a word. A wrong octet is passed before it is reported. -/
def skipWord : List Char → Bytes → Except Failure Bytes
  | [], octets => .ok octets
  | _ :: _, [] => .error ⟨.endInValue, []⟩
  | letter :: letters, octet :: rest =>
    if octet = code letter then skipWord letters rest else .error ⟨.expectedWord, rest⟩

theorem skipWord_length {letters : List Char} {octets rest : Bytes}
    (skipped : skipWord letters octets = .ok rest) : rest.length ≤ octets.length := by
  fun_induction skipWord letters octets with
  | case1 => cases skipped; exact Nat.le_refl _
  | case2 => cases skipped
  | case3 _ _ _ induction =>
    have first := induction skipped
    simp only [List.length_cons]
    omega
  | case4 => cases skipped

/-- The octets from the first one on that is no digit. -/
def skipDigits (octets : Bytes) : Bytes := octets.dropWhile isDigit

theorem skipDigits_length (octets : Bytes) : (skipDigits octets).length ≤ octets.length :=
  (List.dropWhile_sublist isDigit).length_le

/-- The next octet is a digit. -/
def startsWithDigit : Bytes → Bool
  | octet :: _ => isDigit octet
  | [] => false

/-- Skip an exponent from behind its mark: an optional sign and at least one digit. -/
def skipExponent (octets : Bytes) : Except Failure Bytes :=
  let unsigned :=
    match octets with
    | sign :: rest => if sign = code '+' || sign = code '-' then rest else sign :: rest
    | [] => []
  match unsigned with
  | octet :: rest =>
    if isDigit octet then .ok (skipDigits rest) else .error ⟨.invalidNumber, rest⟩
  | [] => .error ⟨.invalidNumber, []⟩

theorem skipExponent_length {octets rest : Bytes} (skipped : skipExponent octets = .ok rest) :
    rest.length ≤ octets.length := by
  have digits := skipDigits_length
  unfold skipExponent at skipped
  rcases octets with _ | ⟨sign, after⟩
  · cases skipped
  · simp only at skipped
    split at skipped
    · rename_i octet tail step
      split at skipped
      · cases skipped
        have bound := digits tail
        split at step
        · subst step
          simp only [List.length_cons] at *
          omega
        · cases step
          simp only [List.length_cons]
          omega
      · cases skipped
    · cases skipped

/-- The mark in front of an exponent. -/
def isExponentMark (octet : UInt8) : Bool := octet == code 'e' || octet == code 'E'

/-- Skip an exponent if there is one. -/
def skipExponentPart (octets : Bytes) : Except Failure Bytes :=
  match octets with
  | mark :: rest => if isExponentMark mark then skipExponent rest else .ok (mark :: rest)
  | [] => .ok []

theorem skipExponentPart_length {octets rest : Bytes}
    (skipped : skipExponentPart octets = .ok rest) : rest.length ≤ octets.length := by
  unfold skipExponentPart at skipped
  split at skipped
  · split at skipped
    · have bound := skipExponent_length skipped
      simp only [List.length_cons]
      omega
    · cases skipped
      exact Nat.le_refl _
  · cases skipped
    exact Nat.le_refl _

/-- Skip what may follow the whole part of a number: a point with at least one digit, and an
exponent. -/
def skipFraction (octets : Bytes) : Except Failure Bytes :=
  match octets with
  | point :: rest =>
    if point = code '.' then
      if startsWithDigit rest then skipExponentPart (skipDigits rest)
      else .error (.ahead .invalidNumber rest)
    else skipExponentPart (point :: rest)
  | [] => .ok []

theorem skipFraction_length {octets rest : Bytes} (skipped : skipFraction octets = .ok rest) :
    rest.length ≤ octets.length := by
  unfold skipFraction at skipped
  split at skipped
  · rename_i point after
    split at skipped
    · split at skipped
      · have first := skipExponentPart_length skipped
        have second := skipDigits_length after
        simp only [List.length_cons]
        omega
      · cases skipped
    · exact skipExponentPart_length skipped
  · cases skipped
    exact Nat.le_refl _

/-- Skip a number from behind its minus sign, if it has one. A zero in front of another digit is
refused. -/
def skipNumber : Bytes → Except Failure Bytes
  | [] => .error ⟨.invalidNumber, []⟩
  | first :: rest =>
    if first = code '0' then
      if startsWithDigit rest then .error (.ahead .invalidNumber rest) else skipFraction rest
    else if isDigit first then skipFraction (skipDigits rest)
    else .error ⟨.invalidNumber, rest⟩

theorem skipNumber_length {octets rest : Bytes} (skipped : skipNumber octets = .ok rest) :
    rest.length < octets.length := by
  unfold skipNumber at skipped
  split at skipped
  · cases skipped
  · rename_i first after
    repeat' split at skipped
    · cases skipped
    · have bound := skipFraction_length skipped
      simp only [List.length_cons]
      omega
    · have bound := skipFraction_length skipped
      have digits := skipDigits_length after
      simp only [List.length_cons]
      omega
    · cases skipped

end AgentKit.Json
