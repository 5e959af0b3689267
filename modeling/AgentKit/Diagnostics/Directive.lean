import AgentKit.Diagnostics.Event
import AgentKit.Diagnostics.FieldValue
import AgentKit.Diagnostics.Threshold
/-!
# Directives of a filter

A directive is written `target[span{field}]=level`, all parts optional but not all at once. Without
a level it admits everything, and one that is only a level has no target.

A directive that names a span, or asks for a value of a field, cares about no event outside spans,
and the events here are never inside one.

Blanks in front of a directive shift the places at which it is cut, so a cut may fall inside a
character.
-/
namespace AgentKit

/-- One rule of a filter. -/
structure Directive where
  target : Option String
  span : Option String
  fields : List String
  threshold : Threshold
deriving DecidableEq, Repr

/-- Why a filter is not read. -/
inductive FilterFault where
  /-- A directive is not written as one. -/
  | malformed
  /-- A piece of a directive begins or ends inside a character. -/
  | severed
deriving DecidableEq, Repr

namespace Directive

/-- A position between two characters. -/
def isBoundary (octets : Bytes) (position : Nat) : Bool :=
  match octets[position]? with
  | some octet => !Utf8.isTail octet
  | none => true

/-- A piece of a directive, cut out by octet positions. -/
def piece (octets : Bytes) (start stop : Nat) : Except FilterFault String :=
  if isBoundary octets start && isBoundary octets stop then
    .ok (Utf8.toStringLossy ((octets.take stop).drop start))
  else .error .severed

/-- Where the reader of a directive stands, with the position at which the current piece starts. -/
inductive State where
  | start
  | levelOrTarget (start : Nat)
  | span (start : Nat)
  | field (start : Nat)
  | fields
  | target
  | level (start : Nat)

/-- A directive that admits everything. -/
def empty : Directive := ⟨none, none, [], .trace⟩

/-- May stand at the start of a level or a target. -/
def isStart (character : Char) : Bool :=
  character == '-' || character == ':' || character == '_' || Text.isLetter character ||
    Text.isNumber character

/-- A field, which has a name, and whose value is usable if it has one. -/
def field (text : String) : Except FilterFault String :=
  if text.isEmpty then .error .malformed
  else
    match FieldValue.ofField? text.toList with
    | none => .ok text
    | some value => if FieldValue.isUsable value then .ok text else .error .malformed

/-- Pass one character. -/
def step (octets : Bytes) (state : State) (draft : Directive) (position : Nat) (character : Char) :
    Except FilterFault (State × Directive) :=
  match state with
  | .start =>
    if character = '[' then .ok (.span (position + 1), draft)
    else if isStart character then .ok (.levelOrTarget position, draft)
    else .error .malformed
  | .levelOrTarget start =>
    if character = '=' then do
      let target ← piece octets start position
      return (.level (position + 1), { draft with target := some target })
    else if character = '[' then do
      let target ← piece octets start position
      return (.span (position + 1), { draft with target := some target })
    else .ok (.levelOrTarget start, draft)
  | .span start =>
    if character = ']' then do
      let name ← piece octets start position
      return (.target, { draft with span := some name })
    else if character = '\x7b' then do
      let name ← piece octets start position
      return (.field (position + 1),
        { draft with span := if name.isEmpty then none else some name })
    else .ok (.span start, draft)
  | .field start =>
    if character = '\x7d' then do
      let found ← field (← piece octets start position)
      return (.fields, { draft with fields := draft.fields ++ [found] })
    else .ok (.field start, draft)
  | .fields => if character = ']' then .ok (.target, draft) else .error .malformed
  | .target => if character = '=' then .ok (.level (position + 1), draft) else .error .malformed
  | .level start => .ok (.level start, draft)

/-- Pass all characters. -/
def run (octets : Bytes) (state : State) (draft : Directive) (position : Nat) :
    List Char → Except FilterFault (State × Directive)
  | [] => .ok (state, draft)
  | character :: rest =>
    match step octets state draft position character with
    | .error fault => .error fault
    | .ok (next, changed) =>
      run octets next changed (position + (Utf8.encodeChar character).length) rest

/-- The characters without blanks at either end. -/
def trimmed (characters : List Char) : List Char :=
  ((characters.dropWhile Text.isBlank).reverse.dropWhile Text.isBlank).reverse

/-- The directive of a reader that has passed all characters. -/
def finish (octets : Bytes) (state : State) (draft : Directive) : Except FilterFault Directive :=
  match state with
  | .levelOrTarget start => do
    let last ← piece octets start octets.length
    match Threshold.ofText? last.toList with
    | some threshold => return { draft with threshold, target := none }
    | none =>
      return { draft with threshold := .trace, target := if last.isEmpty then none else some last }
  | .level start => do
    let last ← piece octets start octets.length
    if last.isEmpty then return { draft with threshold := .trace }
    else
      match Threshold.ofText? last.toList with
      | some threshold => return { draft with threshold }
      | none => .error .malformed
  | .target => .ok draft
  | .start | .span _ | .field _ | .fields => .error .malformed

/-- Read a directive. Positions are those of the text without blanks at its ends, but pieces are
cut from the text as it is, so a cut may fall into a character. -/
def read (text : String) : Except FilterFault Directive :=
  let octets := Utf8.ofString text
  match run octets .start empty 0 (trimmed text.toList) with
  | .error fault => .error fault
  | .ok (state, draft) => finish octets state draft

/-- A directive that can care about an event outside spans. -/
def isStatic (directive : Directive) : Bool :=
  directive.span.isNone && directive.fields.all fun field => !field.toList.contains '='

/-- A directive cares about an event: its target begins the event's, and the event has all of its
fields. The message counts as a field. -/
def caresAbout (directive : Directive) (event : Event) : Bool :=
  directive.isStatic &&
    (match directive.target with
      | none => true
      | some target => target.toList.isPrefixOf event.target.toList) &&
    directive.fields.all fun field => ("message" :: event.fields.map Prod.fst).contains field

/-- The length of the target, with no target below the empty one. -/
def reach (directive : Directive) : Nat :=
  match directive.target with
  | none => 0
  | some target => target.utf8ByteSize + 1

/-- One directive comes before another. Directives about one event with targets of one length have
the same target. -/
def precedes (first second : Directive) : Bool :=
  if first.reach ≠ second.reach then second.reach < first.reach
  else if first.fields.length ≠ second.fields.length then
    second.fields.length < first.fields.length
  else second.fields < first.fields

end Directive

end AgentKit
