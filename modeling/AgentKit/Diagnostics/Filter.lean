import AgentKit.Diagnostics.Directive
/-!
# Filters of diagnostics

A filter is a list of directives. An event is admitted by the most specific directive that cares
about it: the one with the longest target that begins the event's, then with the most fields, then
the later of two that are alike.

When the filter is absent or malformed, warnings and errors are admitted; when it is empty, errors
only. A directive cut inside a character leaves no filter at all, and nothing starts without one.
-/
namespace AgentKit

/-- The rules that decide which events are shown. -/
abbrev Filter := List Directive

namespace Filter

/-- The filter of a single threshold. -/
def ofThreshold (threshold : Threshold) : Filter := [⟨none, none, [], threshold⟩]

/-- The pieces of a text between commas. -/
def pieces (text : String) : List (List Char) := text.toList.splitOn ','

/-- Read a filter. Empty pieces between commas are left out, and the first fault counts. -/
def read (text : String) : Except FilterFault Filter := do
  let directives ← ((pieces text).filter fun piece => !piece.isEmpty).mapM fun piece =>
    Directive.read (String.ofList piece)
  return if directives.isEmpty then ofThreshold .error else directives

/-- The filter that the value of a variable asks for. There is none when a piece of it is
severed. -/
def ofVariable? (value : Option Bytes) : Option Filter :=
  match value.bind Utf8.toString? with
  | none => some (ofThreshold .warn)
  | some text =>
    match read text with
    | .ok filter => some filter
    | .error .malformed => some (ofThreshold .warn)
    | .error .severed => none

/-- The more specific of two directives about one event; of two that are alike, the later one. -/
def better (best : Option Directive) (next : Directive) : Option Directive :=
  match best with
  | none => some next
  | some held => if held.precedes next then some held else some next

/-- The directive that decides about an event. -/
def deciding? (filter : Filter) (event : Event) : Option Directive :=
  (filter.filter fun directive => directive.caresAbout event).foldl better none

/-- An event is shown. -/
def admits (filter : Filter) (event : Event) : Bool :=
  match filter.deciding? event with
  | some directive => directive.threshold.admits event.level
  | none => false

end Filter

end AgentKit
