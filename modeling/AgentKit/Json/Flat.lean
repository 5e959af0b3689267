import AgentKit.Json.Scan
/-!
# Flat objects

A flat object has string keys and values without structure. The reader keeps the members in the
order of the text, repeated keys included, and gives number tokens character for character.
-/
namespace AgentKit.Json

/-- A value without structure. -/
inductive Scalar where
  | null
  | bool (truth : Bool)
  | number (token : List Char)
  | string (text : String)
deriving DecidableEq

/-- A value behind a word. -/
def scanWord (letters : List Char) (value : Scalar) (octets : Bytes) : Scan Scalar :=
  match skipWord letters octets with
  | .ok rest => .ok (value, rest)
  | .error failure => .error failure

/-- The characters of a number token, given the octets at its start and those behind it. -/
def tokenText (octets rest : Bytes) : List Char :=
  (octets.take (octets.length - rest.length)).map fun octet => Char.ofNat octet.toNat

/-- Read a value without structure. -/
def scanScalar (octets : Bytes) : Scan Scalar :=
  match skipBlanks octets with
  | [] => .error ⟨.endInValue, []⟩
  | octet :: rest =>
    if octet = code '"' then
      match scanString rest with
      | .ok (text, after) => .ok (.string text, after)
      | .error failure => .error failure
    else if octet = code 'n' then scanWord ['u', 'l', 'l'] .null rest
    else if octet = code 't' then scanWord ['r', 'u', 'e'] (.bool true) rest
    else if octet = code 'f' then scanWord ['a', 'l', 's', 'e'] (.bool false) rest
    else
      match skipNumber (if octet = code '-' then rest else octet :: rest) with
      | .ok after => .ok (.number (tokenText (octet :: rest) after), after)
      | .error failure => .error failure

theorem scanScalar_length {octets rest : Bytes} {value : Scalar}
    (scanned : scanScalar octets = .ok (value, rest)) : rest.length < octets.length := by
  have blanks := skipBlanks_length octets
  unfold scanScalar scanWord at scanned
  split at scanned
  · cases scanned
  · rename_i octet after step
    rw [step, List.length_cons] at blanks
    repeat' split at scanned
    all_goals first
      | cases scanned
        done
      | skip
    · rename_i inner
      have bound := scanString_length inner
      cases scanned
      omega
    · rename_i inner
      have bound := skipWord_length inner
      cases scanned
      omega
    · rename_i inner
      have bound := skipWord_length inner
      cases scanned
      omega
    · rename_i inner
      have bound := skipWord_length inner
      cases scanned
      omega
    · rename_i inner
      have bound := skipNumber_length inner
      have whole : (if octet = code '-' then after else octet :: after).length
          ≤ after.length + 1 := by
        split
        · omega
        · simp
      cases scanned
      omega

/-- Read a key, the colon behind it and a value. -/
def scanMember (octets : Bytes) : Scan (String × Scalar) :=
  match skipBlanks octets with
  | [] => .error ⟨.endInObject, []⟩
  | octet :: rest =>
    if octet = code '"' then
      match scanString rest with
      | .error failure => .error failure
      | .ok (key, afterKey) =>
        match skipBlanks afterKey with
        | [] => .error ⟨.endInObject, []⟩
        | colon :: afterColon =>
          if colon = code ':' then
            match scanScalar afterColon with
            | .ok (value, after) => .ok ((key, value), after)
            | .error failure => .error failure
          else .error (.ahead .expectedColon (colon :: afterColon))
    else .error (.ahead .keyNotString (octet :: rest))

theorem scanMember_length {octets rest : Bytes} {entry : String × Scalar}
    (scanned : scanMember octets = .ok (entry, rest)) : rest.length < octets.length := by
  have blanks := skipBlanks_length octets
  unfold scanMember at scanned
  split at scanned
  · cases scanned
  · rename_i octet after step
    rw [step, List.length_cons] at blanks
    split at scanned
    · split at scanned
      · cases scanned
      · rename_i key afterKey keyStep
        have keyBound := scanString_length keyStep
        have laterBlanks := skipBlanks_length afterKey
        split at scanned
        · cases scanned
        · rename_i colon afterColon colonStep
          rw [colonStep, List.length_cons] at laterBlanks
          split at scanned
          · split at scanned
            · rename_i valueStep
              have valueBound := scanScalar_length valueStep
              cases scanned
              omega
            · cases scanned
          · cases scanned
    · cases scanned

/-- Read members from behind the one before them to behind the closing brace. -/
def scanMembers (octets : Bytes) : Scan (List (String × Scalar)) :=
  match _blanks : skipBlanks octets with
  | [] => .error ⟨.endInObject, []⟩
  | octet :: rest =>
    if octet = code '\x7d' then .ok ([], rest)
    else if octet = code ',' then
      match _step : scanMember rest with
      | .error failure => .error failure
      | .ok (entry, after) =>
        match scanMembers after with
        | .ok (later, final) => .ok (entry :: later, final)
        | .error failure => .error failure
    else .error (.ahead .expectedObjectEnd (octet :: rest))
termination_by octets.length
decreasing_by
  have bound := skipBlanks_length octets
  rw [_blanks, List.length_cons] at bound
  have shorter := scanMember_length _step
  omega

/-- The members of a text that is one flat object and nothing else but blanks. -/
def flatMembers? (octets : Bytes) : Option (List (String × Scalar)) :=
  match skipBlanks octets with
  | [] => none
  | octet :: rest =>
    if octet = code '\x7b' then
      let scanned :=
        match skipBlanks rest with
        | [] => Except.error (Failure.mk .endInObject [])
        | next :: after =>
          if next = code '\x7d' then .ok ([], after)
          else
            match scanMember rest with
            | .error failure => .error failure
            | .ok (entry, afterEntry) =>
              match scanMembers afterEntry with
              | .ok (later, final) => .ok (entry :: later, final)
              | .error failure => .error failure
      match scanned with
      | .ok (entries, final) => if skipBlanks final = [] then some entries else none
      | .error _ => none
    else none

end AgentKit.Json
