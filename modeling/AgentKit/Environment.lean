import AgentKit.Fault.Basic
import AgentKit.Text.Visible
/-!
# Environments

An environment answers what value a variable has. A table holds names and values as text. The
environment of a process is a block of octet strings `NAME=VALUE`; a look-up takes the first one
that begins with the name and an equals sign, and the value is read with replacement.

Names and values of a process are stored without a length, so a zero octet fits into neither, and a
name that is empty or holds an equals sign cannot be set. Since no variable has such a name,
there is nothing to remove under it either.
-/
namespace AgentKit

/-- A source of variables. -/
inductive Environment where
  | table (entries : List (String × String))
  | process (block : List Bytes)
deriving DecidableEq, Repr

namespace Environment

/-- The octet between a name and its value. -/
def equals : UInt8 := 0x3D

/-- The value in an entry of a block, if the entry begins with the name and an equals sign. -/
def valueIn? (name entry : Bytes) : Option Bytes :=
  if (name ++ [equals]).isPrefixOf entry then some (entry.drop (name.length + 1)) else none

/-- The value that a block gives for a name. -/
def blockValue? (block : List Bytes) (name : Bytes) : Option Bytes :=
  if name = [] ∨ 0 ∈ name then none else block.findSome? (valueIn? name)

/-- The value of a variable as octets. -/
def octets? (environment : Environment) (name : String) : Option Bytes :=
  match environment with
  | .table entries => (entries.lookup name).map Utf8.ofString
  | .process block => blockValue? block (Utf8.ofString name)

/-- The value of a variable. -/
def value? (environment : Environment) (name : String) : Option String :=
  match environment with
  | .table entries => entries.lookup name
  | .process block => (blockValue? block (Utf8.ofString name)).map Utf8.toStringLossy

/-- Why a process refuses to set a variable. -/
def refusal? (name value : Bytes) : Option IoError :=
  if 0 ∈ name ∨ 0 ∈ value then some .zeroOctet
  else if name = [] ∨ equals ∈ name then some (.system .invalidArgument)
  else none

/-- A block with the value of a name replaced, or added behind all others. -/
def putInBlock (name value : Bytes) : List Bytes → List Bytes
  | [] => [name ++ equals :: value]
  | entry :: rest =>
    if (valueIn? name entry).isSome then (name ++ equals :: value) :: rest
    else entry :: putInBlock name value rest

/-- The environment with a variable set. A refused name or value is the caller's fault, so the
answer to it is the text of a panic. -/
def set (environment : Environment) (name : String) (value : Bytes) : Except String Environment :=
  match environment with
  | .table entries =>
    .ok (.table ((name, Utf8.toStringLossy value) ::
      entries.filter fun held => held.1 != name))
  | .process block =>
    match refusal? (Utf8.ofString name) value with
    | some error =>
      .error ("failed to set environment variable `" ++ Visible.quote name ++ "` to `" ++
        Visible.quoteOctets value ++ "`: " ++ error.message)
    | none => .ok (.process (putInBlock (Utf8.ofString name) value block))

/-- The environment without a variable. -/
def unset (environment : Environment) (name : String) : Environment :=
  match environment with
  | .table entries => .table (entries.filter fun held => held.1 != name)
  | .process block =>
    if (refusal? (Utf8.ofString name) []).isSome then .process block
    else .process (block.filter fun entry => (valueIn? (Utf8.ofString name) entry).isNone)

end Environment

/-- A secret that has to be there. -/
def Environment.require (environment : Environment) (name : String) : Except AgentError String :=
  match environment.value? name with
  | some value => .ok value
  | none => .error (.secretUnavailable name)

end AgentKit
