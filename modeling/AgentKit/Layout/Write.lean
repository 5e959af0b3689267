import AgentKit.Json.Quote
import AgentKit.Layout.Field
/-!
# Writing a layout

A layout is written as an object of its three members in their own order. Text is all that JSON can
hold, so a layout with a path that is no text has no written form.
-/
namespace AgentKit.Layout

/-- The value of a member as text, if it is text. -/
def text? (layout : Layout) : Field → Option String
  | .overrideVariable => some layout.overrideVariable
  | .mountPath => Utf8.toString? layout.mountPath.octets
  | .fallbackPath => Utf8.toString? layout.fallbackPath.octets

/-- A written member. -/
def member? (layout : Layout) (field : Field) : Option (List Char) :=
  (layout.text? field).map fun text =>
    Json.member field.key.toList (Json.quote text.toList)

/-- The written form, if there is one. -/
def write? (layout : Layout) : Option (List Char) :=
  (Field.all.mapM layout.member?).map Json.object

/-- What is said about a layout without a written form. -/
def unwritable : String := "path contains invalid UTF-8 characters"

end AgentKit.Layout
