import AgentKit.Layout.Basic
/-!
# The members of a written layout

A written layout has three members, each a string under its own key. A draft is what reading has
found so far; a member that is not found takes the value of the standard convention.
-/
namespace AgentKit.Layout

/-- A member of a written layout. -/
inductive Field where
  | overrideVariable
  | mountPath
  | fallbackPath
deriving DecidableEq, Repr

namespace Field

/-- The members in the order in which they are written. -/
def all : List Field := [.overrideVariable, .mountPath, .fallbackPath]

/-- The key of a member. -/
def key : Field → String
  | .overrideVariable => "override_var"
  | .mountPath => "mount_path"
  | .fallbackPath => "fallback_path"

/-- The member of a key. -/
def ofKey? (key : String) : Option Field := all.find? fun field => field.key == key

/-- What a reader expects as the value of a member. -/
def expectation : Field → String
  | .overrideVariable => "a string"
  | .mountPath | .fallbackPath => "path string"

end Field

/-- The members found so far. -/
structure Draft where
  overrideVariable : Option String
  mountPath : Option String
  fallbackPath : Option String
deriving DecidableEq, Repr

namespace Draft

/-- Nothing is found yet. -/
def empty : Draft := ⟨none, none, none⟩

/-- The value found for a member. -/
def get? (draft : Draft) : Field → Option String
  | .overrideVariable => draft.overrideVariable
  | .mountPath => draft.mountPath
  | .fallbackPath => draft.fallbackPath

/-- A member is found. -/
def put (draft : Draft) (field : Field) (text : String) : Draft :=
  match field with
  | .overrideVariable => { draft with overrideVariable := some text }
  | .mountPath => { draft with mountPath := some text }
  | .fallbackPath => { draft with fallbackPath := some text }

/-- The layout with the members found and the standard ones in the place of the others. -/
def complete (draft : Draft) : Layout where
  overrideVariable := draft.overrideVariable.getD standard.overrideVariable
  mountPath := (draft.mountPath.map Path.ofString).getD standard.mountPath
  fallbackPath := (draft.fallbackPath.map Path.ofString).getD standard.fallbackPath

end Draft

end AgentKit.Layout
