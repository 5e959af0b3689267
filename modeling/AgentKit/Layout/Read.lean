import AgentKit.Json.Number
import AgentKit.Json.Skip
import AgentKit.Layout.Field
/-!
# Reading a layout

A layout is written as an object or as a list. In an object the three members stand in any order,
each at most once; members with other keys are skipped. In a list they stand in their own order,
and later ones may be missing. Only blanks may follow.

A member whose key was found before is refused in front of its value; the report stands behind
the blanks after the key, and behind a closing brace there.
-/
namespace AgentKit.Layout

open Json

/-- A word in the place of something else. -/
def unexpectedWord (letters : List Char) (found : Found) (expectation : String) (octets : Bytes) :
    Failure :=
  match skipWord letters octets with
  | .ok rest => ⟨.unexpected found expectation, rest⟩
  | .error failure => failure

/-- A number in the place of something else. -/
def unexpectedNumber (negative : Bool) (expectation : String) (octets : Bytes) : Failure :=
  match scanNumber negative octets with
  | .ok (found, rest) => ⟨.unexpected found expectation, rest⟩
  | .error failure => failure

/-- The report about a value, given from its first octet on, that is not what is expected. Scalars
are read first, so a fault inside one comes before the report about its type. -/
def unexpectedValue (expectation : String) (octet : UInt8) (rest : Bytes) : Failure :=
  if octet = code 'n' then unexpectedWord ['u', 'l', 'l'] .null expectation rest
  else if octet = code 't' then unexpectedWord ['r', 'u', 'e'] (.bool true) expectation rest
  else if octet = code 'f' then unexpectedWord ['a', 'l', 's', 'e'] (.bool false) expectation rest
  else if octet = code '-' then unexpectedNumber true expectation rest
  else if isDigit octet then unexpectedNumber false expectation (octet :: rest)
  else if octet = code '"' then
    match scanString rest with
    | .ok (text, after) => ⟨.unexpected (.string text) expectation, after⟩
    | .error failure => failure
  else if octet = code '[' then ⟨.unexpected .sequence expectation, octet :: rest⟩
  else if octet = code '\x7b' then ⟨.unexpected .map expectation, octet :: rest⟩
  else .ahead .expectedValue (octet :: rest)

/-- Read a string value. -/
def scanText (expectation : String) (octets : Bytes) : Scan String :=
  match skipBlanks octets with
  | [] => .error ⟨.endInValue, []⟩
  | octet :: rest =>
    if octet = code '"' then scanString rest
    else .error (unexpectedValue expectation octet rest)

/-- Skip the value of a member with another key, from the colon on. -/
def skipMember (octets : Bytes) : Except Failure Bytes :=
  match skipColon octets with
  | .ok rest => skipValue rest
  | .error failure => .error failure

theorem skipMember_length {octets rest : Bytes} (skipped : skipMember octets = .ok rest) :
    rest.length < octets.length := by
  unfold skipMember at skipped
  split at skipped
  · rename_i step
    have first := skipColon_length step
    have second := skipValue_length skipped
    omega
  · cases skipped

/-- Read the value of a member, from the colon on. -/
def scanField (draft : Draft) (field : Field) (octets : Bytes) : Scan Draft :=
  match skipColon octets with
  | .error failure => .error failure
  | .ok rest =>
    match scanText field.expectation rest with
    | .ok (text, after) => .ok (draft.put field text, after)
    | .error failure => .error failure

theorem scanText_length {expectation text : String} {octets rest : Bytes}
    (scanned : scanText expectation octets = .ok (text, rest)) : rest.length < octets.length := by
  have blanks := skipBlanks_length octets
  unfold scanText at scanned
  split at scanned
  · cases scanned
  · rename_i step
    rw [step, List.length_cons] at blanks
    split at scanned
    · have bound := scanString_length scanned
      omega
    · cases scanned

theorem scanField_length {draft found : Draft} {field : Field} {octets rest : Bytes}
    (scanned : scanField draft field octets = .ok (found, rest)) :
    rest.length < octets.length := by
  unfold scanField at scanned
  split at scanned
  · cases scanned
  · rename_i step
    have first := skipColon_length step
    split at scanned
    · rename_i inner
      have second := scanText_length inner
      cases scanned
      omega
    · cases scanned

/-- What is left behind the blanks after a key, and behind a closing brace there. -/
def behindBrace (octets : Bytes) : Bytes :=
  match skipBlanks octets with
  | octet :: rest => if octet = code '\x7d' then rest else octet :: rest
  | [] => []

/-- Read the value of the member with a given key, from behind the key on. -/
def scanKeyed (draft : Draft) (key : String) (octets : Bytes) : Scan Draft :=
  match Field.ofKey? key with
  | none =>
    match skipMember octets with
    | .ok rest => .ok (draft, rest)
    | .error failure => .error failure
  | some field =>
    if (draft.get? field).isSome then .error ⟨.duplicateField key, behindBrace octets⟩
    else scanField draft field octets

theorem scanKeyed_length {draft found : Draft} {key : String} {octets rest : Bytes}
    (scanned : scanKeyed draft key octets = .ok (found, rest)) :
    rest.length < octets.length := by
  unfold scanKeyed at scanned
  split at scanned
  · split at scanned
    · rename_i step
      have bound := skipMember_length step
      cases scanned
      omega
    · cases scanned
  · split at scanned
    · cases scanned
    · exact scanField_length scanned

/-- Read a key from its opening quote on. -/
def scanKey (octets : Bytes) : Scan String :=
  match octets with
  | [] => .error ⟨.endInValue, []⟩
  | octet :: rest =>
    if octet = code '"' then scanString rest
    else if octet = code '\x7d' then .error (.ahead .trailingComma (octet :: rest))
    else .error (.ahead .keyNotString (octet :: rest))

theorem scanKey_length {octets rest : Bytes} {key : String}
    (scanned : scanKey octets = .ok (key, rest)) : rest.length < octets.length := by
  unfold scanKey at scanned
  split at scanned
  · cases scanned
  · repeat' split at scanned
    · have bound := scanString_length scanned
      rw [List.length_cons]
      omega
    · cases scanned
    · cases scanned

/-- Pass to the key of a next member, or leave the object. A comma stands in front of every member
but the first. -/
def nextKey (first : Bool) (octets : Bytes) : Except Failure (Option String × Bytes) :=
  match skipBlanks octets with
  | [] => .error ⟨.endInObject, []⟩
  | octet :: rest =>
    if octet = code '\x7d' then .ok (none, rest)
    else if !first && octet != code ',' then .error (.ahead .expectedObjectEnd (octet :: rest))
    else
      match scanKey (if first then octet :: rest else skipBlanks rest) with
      | .ok (key, after) => .ok (some key, after)
      | .error failure => .error failure

theorem nextKey_length {first : Bool} {octets rest : Bytes} {key : Option String}
    (passed : nextKey first octets = .ok (key, rest)) : rest.length < octets.length := by
  have blanks := skipBlanks_length octets
  unfold nextKey at passed
  split at passed
  · cases passed
  · rename_i octet after step
    rw [step, List.length_cons] at blanks
    repeat' split at passed
    · cases passed
      omega
    · cases passed
    · rename_i inner
      have bound := scanKey_length inner
      have later := skipBlanks_length after
      cases passed
      cases first
      · simp only [Bool.false_eq_true, if_false] at bound
        omega
      · simp only [if_true, List.length_cons] at bound
        omega
    · cases passed

/-- Read the members of an object, from behind its opening brace or behind a member, to behind its
closing brace. -/
def scanFields (draft : Draft) (first : Bool) (octets : Bytes) : Scan Draft :=
  match _keyed : nextKey first octets with
  | .error failure => .error failure
  | .ok (none, rest) => .ok (draft, rest)
  | .ok (some key, rest) =>
    match _step : scanKeyed draft key rest with
    | .error failure => .error failure
    | .ok (found, after) => scanFields found false after
termination_by octets.length
decreasing_by
  have passed := nextKey_length _keyed
  have shorter := scanKeyed_length _step
  omega

/-- Leave a list in which every member has been found. -/
def endList (octets : Bytes) : Except Failure Bytes :=
  match skipBlanks octets with
  | [] => .error ⟨.endInList, []⟩
  | octet :: rest =>
    if octet = code ']' then .ok rest
    else if octet = code ',' then
      let later := skipBlanks rest
      if later.head? = some (code ']') then .error (.ahead .trailingComma later)
      else .error (.ahead .trailingCharacters later)
    else .error (.ahead .trailingCharacters (octet :: rest))

/-- Pass to the next element of a list, unless the list ends here. A comma stands in front of every
element but the first. -/
def nextElement? (first : Bool) (octets : Bytes) : Except Failure (Option Bytes) :=
  match skipBlanks octets with
  | [] => .error ⟨.endInList, []⟩
  | octet :: rest =>
    if octet = code ']' then .ok none
    else if first then .ok (some (octet :: rest))
    else if octet = code ',' then
      match skipBlanks rest with
      | [] => .error ⟨.endInValue, []⟩
      | next :: after =>
        if next = code ']' then .error (.ahead .trailingComma (next :: after))
        else .ok (some (next :: after))
    else .error (.ahead .expectedListEnd (octet :: rest))

/-- Read the elements of a list for the members that remain, to behind its closing bracket. -/
def scanElements (draft : Draft) (first : Bool) : List Field → Bytes → Scan Draft
  | [], octets =>
    match endList octets with
    | .ok rest => .ok (draft, rest)
    | .error failure => .error failure
  | field :: fields, octets =>
    match nextElement? first octets with
    | .error failure => .error failure
    | .ok none =>
      match endList octets with
      | .ok rest => .ok (draft, rest)
      | .error failure => .error failure
    | .ok (some element) =>
      match scanText field.expectation element with
      | .ok (text, rest) => scanElements (draft.put field text) false fields rest
      | .error failure => .error failure

/-- Read an object or a list. -/
def scanLayout (octets : Bytes) : Scan Draft :=
  match skipBlanks octets with
  | [] => .error ⟨.endInValue, []⟩
  | octet :: rest =>
    if octet = code '[' then scanElements .empty true Field.all rest
    else if octet = code '\x7b' then scanFields .empty true rest
    else .error (unexpectedValue "struct WorkspaceLayout" octet rest)

/-- The layout that a text is. -/
def read (octets : Bytes) : Except Failure Layout :=
  match scanLayout octets with
  | .error failure => .error failure
  | .ok (draft, rest) =>
    match skipBlanks rest with
    | [] => .ok draft.complete
    | octet :: after => .error (.ahead .trailingCharacters (octet :: after))

end AgentKit.Layout
