import AgentKit.Json.Scan
/-!
# Skipping a value

A value nobody asks for is skipped whole, whatever its shape and however deep it is nested. The
lists and objects that are still open form a stack; each step passes at least one octet or turns
from a bracket to the first element behind it.
-/
namespace AgentKit.Json

/-- A list or an object that is still open. -/
inductive Frame where
  | list
  | object

/-- Where in an open list or object the reader stands. -/
inductive Place where
  /-- In front of a value. -/
  | value
  /-- Behind the opening bracket. -/
  | opened
  /-- Behind an element. -/
  | element

namespace Frame

/-- The octet that closes a frame. -/
def closing : Frame → UInt8
  | .list => code ']'
  | .object => code '\x7d'

/-- The text ends inside a frame. -/
def endCause : Frame → Cause
  | .list => .endInList
  | .object => .endInObject

/-- Something stands where a comma or the closing bracket is due. -/
def expectedEnd : Frame → Cause
  | .list => .expectedListEnd
  | .object => .expectedObjectEnd

end Frame

/-- Pass the colon between a key and its value. -/
def skipColon (octets : Bytes) : Except Failure Bytes :=
  match skipBlanks octets with
  | [] => .error ⟨.endInObject, []⟩
  | octet :: rest =>
    if octet = code ':' then .ok rest else .error (.ahead .expectedColon (octet :: rest))

theorem skipColon_length {octets rest : Bytes} (skipped : skipColon octets = .ok rest) :
    rest.length < octets.length := by
  have blanks := skipBlanks_length octets
  unfold skipColon at skipped
  split at skipped
  · cases skipped
  · rename_i octet after step
    rw [step, List.length_cons] at blanks
    split at skipped
    · cases skipped
      omega
    · cases skipped

/-- Skip a key and the colon behind it. -/
def skipKey (octets : Bytes) : Except Failure Bytes :=
  match skipBlanks octets with
  | [] => .error ⟨.endInObject, []⟩
  | octet :: rest =>
    if octet = code '"' then
      match skipString rest with
      | .ok after => skipColon after
      | .error failure => .error failure
    else .error (.ahead .keyNotString (octet :: rest))

theorem skipKey_length {octets rest : Bytes} (skipped : skipKey octets = .ok rest) :
    rest.length < octets.length := by
  have blanks := skipBlanks_length octets
  unfold skipKey at skipped
  split at skipped
  · cases skipped
  · rename_i octet after step
    rw [step, List.length_cons] at blanks
    split at skipped
    · split at skipped
      · rename_i inner
        have first := skipString_length inner
        have second := skipColon_length skipped
        omega
      · cases skipped
    · cases skipped

/-- Skip what has to precede the value of a next element: a key in an object, nothing in a
list. -/
def Frame.skipLead (frame : Frame) (octets : Bytes) : Except Failure Bytes :=
  match frame with
  | .list => .ok octets
  | .object => skipKey octets

theorem Frame.skipLead_length {frame : Frame} {octets rest : Bytes}
    (skipped : frame.skipLead octets = .ok rest) : rest.length ≤ octets.length := by
  cases frame with
  | list => cases skipped; exact Nat.le_refl _
  | object => exact Nat.le_of_lt (skipKey_length skipped)

/-- Skip a value that is neither a list nor an object, from its first octet on. -/
def skipScalar (octet : UInt8) (rest : Bytes) : Except Failure Bytes :=
  if octet = code 'n' then skipWord ['u', 'l', 'l'] rest
  else if octet = code 't' then skipWord ['r', 'u', 'e'] rest
  else if octet = code 'f' then skipWord ['a', 'l', 's', 'e'] rest
  else if octet = code '-' then skipNumber rest
  else if isDigit octet then skipNumber (octet :: rest)
  else if octet = code '"' then skipString rest
  else .error (.ahead .expectedValue (octet :: rest))

theorem skipScalar_length {octet : UInt8} {octets rest : Bytes}
    (skipped : skipScalar octet octets = .ok rest) : rest.length < octets.length + 1 := by
  unfold skipScalar at skipped
  repeat' split at skipped
  · have bound := skipWord_length skipped
    omega
  · have bound := skipWord_length skipped
    omega
  · have bound := skipWord_length skipped
    omega
  · have bound := skipNumber_length skipped
    omega
  · have bound := skipNumber_length skipped
    simpa only [List.length_cons] using bound
  · have bound := skipString_length skipped
    omega
  · cases skipped

/-- Progress of the reader at one place, for the measure of the loop below. -/
def Place.rank : Place → Nat
  | .value => 0
  | .opened | .element => 1

/-- Skip from a place inside open frames to behind the bracket that closes the outermost one. With
no frame open, skip one value, or nothing when a value has just been passed. -/
def skipFrom (place : Place) (frames : List Frame) (octets : Bytes) : Except Failure Bytes :=
  match place, frames with
  | .value, frames =>
    match _blanks : skipBlanks octets with
    | [] => .error ⟨.endInValue, []⟩
    | octet :: rest =>
      if octet = code '[' then skipFrom .opened (.list :: frames) rest
      else if octet = code '\x7b' then skipFrom .opened (.object :: frames) rest
      else
        match _scalar : skipScalar octet rest with
        | .ok after => skipFrom .element frames after
        | .error failure => .error failure
  | .opened, [] => .ok octets
  | .element, [] => .ok octets
  | .opened, frame :: outer =>
    match _blanks : skipBlanks octets with
    | [] => .error ⟨frame.endCause, []⟩
    | octet :: rest =>
      if octet = frame.closing then skipFrom .element outer rest
      else
        match _lead : frame.skipLead (octet :: rest) with
        | .ok after => skipFrom .value (frame :: outer) after
        | .error failure => .error failure
  | .element, frame :: outer =>
    match _blanks : skipBlanks octets with
    | [] => .error ⟨frame.endCause, []⟩
    | octet :: rest =>
      if octet = frame.closing then skipFrom .element outer rest
      else if octet = code ',' then
        match _lead : frame.skipLead rest with
        | .ok after => skipFrom .value (frame :: outer) after
        | .error failure => .error failure
      else .error (.ahead frame.expectedEnd (octet :: rest))
termination_by (octets.length, place.rank)
decreasing_by
  all_goals
    have bound := skipBlanks_length octets
    rw [_blanks, List.length_cons] at bound
    simp only [Prod.lex_def, Place.rank]
  · omega
  · omega
  · have shorter := skipScalar_length _scalar
    omega
  · omega
  · have shorter := Frame.skipLead_length _lead
    simp only [List.length_cons] at shorter
    omega
  · omega
  · have shorter := Frame.skipLead_length _lead
    omega

theorem skipFrom_length {place : Place} {frames : List Frame} {octets rest : Bytes}
    (skipped : skipFrom place frames octets = .ok rest) :
    rest.length + (1 - place.rank) ≤ octets.length := by
  fun_induction skipFrom place frames octets with
  | case1 => cases skipped
  | case2 octets frames after blanks induction =>
    have bound := skipBlanks_length octets
    have inner := induction skipped
    simp only [blanks, List.length_cons, Place.rank] at *
    omega
  | case3 octets frames after blanks _ induction =>
    have bound := skipBlanks_length octets
    have inner := induction skipped
    simp only [blanks, List.length_cons, Place.rank] at *
    omega
  | case4 octets frames octet after blanks _ _ final scalar induction =>
    have bound := skipBlanks_length octets
    have shorter := skipScalar_length scalar
    have inner := induction skipped
    simp only [blanks, List.length_cons, Place.rank] at *
    omega
  | case5 => cases skipped
  | case6 => cases skipped; simp [Place.rank]
  | case7 => cases skipped; simp [Place.rank]
  | case8 => cases skipped
  | case9 octets frame outer after blanks induction =>
    have bound := skipBlanks_length octets
    have inner := induction skipped
    simp only [blanks, List.length_cons, Place.rank] at *
    omega
  | case10 octets frame outer octet after blanks _ final lead induction =>
    have bound := skipBlanks_length octets
    have shorter := Frame.skipLead_length lead
    have inner := induction skipped
    simp only [blanks, List.length_cons, Place.rank] at *
    omega
  | case11 => cases skipped
  | case12 => cases skipped
  | case13 octets frame outer after blanks induction =>
    have bound := skipBlanks_length octets
    have inner := induction skipped
    simp only [blanks, List.length_cons, Place.rank] at *
    omega
  | case14 octets frame outer after final lead blanks _ induction =>
    have bound := skipBlanks_length octets
    have shorter := Frame.skipLead_length lead
    have inner := induction skipped
    simp only [blanks, List.length_cons, Place.rank] at *
    omega
  | case15 => cases skipped
  | case16 => cases skipped

/-- Skip one value. -/
def skipValue (octets : Bytes) : Except Failure Bytes := skipFrom .value [] octets

theorem skipValue_length {octets rest : Bytes} (skipped : skipValue octets = .ok rest) :
    rest.length < octets.length := by
  have bound := skipFrom_length skipped
  simp only [Place.rank] at bound
  omega

end AgentKit.Json
