import AgentKit.Text.Utf8
/-!
# Request targets

A target is a path with an optional query, an address with a scheme, a lone authority, or a star. It
is read octet by octet. A fragment is dropped. Octets beyond ASCII may stand in a path and a query
as long as they are characters.
-/
namespace AgentKit.Http

/-- Why a text is no target. -/
inductive TargetFault where
  | empty
  | tooLong
  | character
  | authority
  | format
  | schemeTooLong
deriving DecidableEq, Repr

/-- A fault in words. -/
def TargetFault.message : TargetFault → String
  | .empty => "empty string"
  | .tooLong => "uri too long"
  | .character => "invalid uri character"
  | .authority => "invalid authority"
  | .format => "invalid format"
  | .schemeTooLong => "scheme too long"

/-- The target of a request. -/
structure Target where
  scheme : Option Bytes
  authority : Bytes
  /-- The path and the query, with the question mark between them. -/
  resource : Bytes
deriving DecidableEq, Repr

namespace Target

/-- The octet of a character below U+0080. -/
abbrev mark (character : Char) : UInt8 := character.toUInt8

/-- The octets of some characters below U+0080. -/
def marks (characters : String) : Bytes := characters.toList.map mark

/-- A letter or a digit below U+0080. -/
def isAlphanumeric (octet : UInt8) : Bool := (Char.ofNat octet.toNat).isAlphanum

/-- May stand in a scheme. -/
def isSchemeOctet (octet : UInt8) : Bool :=
  isAlphanumeric octet || (marks "+-.~").contains octet

/-- May stand in an authority, apart from what has a meaning there. -/
def isAuthorityOctet (octet : UInt8) : Bool :=
  isAlphanumeric octet || (marks "!$&'()*+,-.;=_~").contains octet

/-- May stand in a path. -/
def isPathOctet (octet : UInt8) : Bool :=
  isAlphanumeric octet || 0x80 ≤ octet ||
    (marks "!\"$%&'()*+,-./:;=@[\\]^_\x7b|\x7d~").contains octet

/-- May stand in a query. -/
def isQueryOctet (octet : UInt8) : Bool :=
  octet == 0x21 || (0x24 ≤ octet && octet ≤ 0x3B) || octet == 0x3D ||
    (0x3F ≤ octet && octet ≤ 0x7E) || 0x80 ≤ octet

/-- Read a path and a query up to a fragment or the end. -/
def readResource (octets : Bytes) : Except TargetFault Bytes :=
  let path := octets.takeWhile isPathOctet
  let behindPath := octets.drop path.length
  let checked (resource : Bytes) : Except TargetFault Bytes :=
    match Utf8.toString? resource with
    | some _ => .ok resource
    | none => .error .character
  match behindPath with
  | [] => checked path
  | octet :: rest =>
    if octet = mark '#' then checked path
    else if octet = mark '?' then
      let query := rest.takeWhile isQueryOctet
      match rest.drop query.length with
      | [] => checked (path ++ octet :: query)
      | next :: _ =>
        if next = mark '#' then checked (path ++ octet :: query) else .error .character
    else .error .character

/-- What a walk through an authority has seen since its user part. -/
structure AuthorityState where
  colons : Nat
  opened : Bool
  closed : Bool
  percent : Bool
  /-- The last octet was an at sign. -/
  atEnd : Bool

/-- One octet of an authority. A port has one colon and an address in brackets several; a percent
sign is allowed in front of an at sign or inside brackets. -/
def AuthorityState.step (state : AuthorityState) (octet : UInt8) :
    Except TargetFault AuthorityState :=
  let plain := { state with atEnd := false }
  if octet = mark ':' then
    if 8 ≤ state.colons then .error .authority else .ok { plain with colons := state.colons + 1 }
  else if octet = mark '[' then
    if state.percent || state.opened then .error .authority else .ok { plain with opened := true }
  else if octet = mark ']' then
    if !state.opened || state.closed then .error .authority
    else .ok { plain with closed := true, colons := 0, percent := false }
  else if octet = mark '@' then .ok { state with colons := 0, percent := false, atEnd := true }
  else if octet = mark '%' then .ok { plain with percent := true }
  else if isAuthorityOctet octet then .ok plain
  else .error .character

/-- An authority may end here. -/
def AuthorityState.mayEnd (state : AuthorityState) : Bool :=
  state.opened == state.closed && state.colons ≤ 1 && !state.atEnd && !state.percent

/-- Ends an authority. -/
def isAuthorityEnd (octet : UInt8) : Bool := (marks "/?#").contains octet

/-- The authority at the front of some octets. It may be empty. -/
def readAuthority (octets : Bytes) : Except TargetFault Bytes := do
  let authority := octets.takeWhile fun octet => !isAuthorityEnd octet
  let state ← authority.foldlM AuthorityState.step ⟨0, false, false, false, false⟩
  if state.mayEnd then .ok authority else .error .authority

/-- The longest scheme. -/
def longestScheme : Nat := 64

/-- The scheme at the front of some octets, when a colon and two slashes follow it. -/
def readScheme? (octets : Bytes) : Except TargetFault (Option Bytes) :=
  let scheme := octets.takeWhile isSchemeOctet
  if octets.length ≤ 3 || !(marks "://").isPrefixOf (octets.drop scheme.length) then .ok none
  else if longestScheme < scheme.length then .error .schemeTooLong
  else .ok (some scheme)

/-- Read a target that does not begin with a slash. -/
def readFull (octets : Bytes) : Except TargetFault Target := do
  match ← readScheme? octets with
  | none =>
    let authority ← readAuthority octets
    if authority.length = octets.length then .ok ⟨none, authority, []⟩ else .error .format
  | some scheme =>
    let behind := octets.drop (scheme.length + 3)
    let authority ← readAuthority behind
    if behind = [] then .error .empty
    else if authority = [] then .error .format
    else .ok ⟨some scheme, authority, ← readResource (behind.drop authority.length)⟩

/-- The longest target. -/
def longest : Nat := 65534

/-- Read a target. -/
def read (octets : Bytes) : Except TargetFault Target := do
  if longest < octets.length then .error .tooLong
  else
    match octets with
    | [] => .error .empty
    | [single] =>
      if single = mark '/' || single = mark '*' then .ok ⟨none, [], [single]⟩
      else
        let authority ← readAuthority [single]
        if authority = [] then .error .character else .ok ⟨none, authority, []⟩
    | first :: rest =>
      if first = mark '/' then .ok ⟨none, [], ← readResource (first :: rest)⟩
      else readFull (first :: rest)

/-- The path. An address with a scheme has the path `/` when it names none. -/
def path (target : Target) : Bytes :=
  let named := target.resource.takeWhile fun octet => octet != mark '?'
  if named = [] && target.scheme.isSome then [mark '/'] else named

/-- A target whose path begins with a slash. -/
def isRouted (target : Target) : Bool := target.path.head? == some (mark '/')

/-- The path and the query as a record shows them. -/
def resourceText (target : Target) : String :=
  if target.resource = [] then "/" else Utf8.toStringLossy target.resource

end Target

end AgentKit.Http
