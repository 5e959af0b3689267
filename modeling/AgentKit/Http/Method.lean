/-!
# Request methods

A method is a token: one or more letters, digits and certain marks. Case matters, and any token is
a method, whether or not anything answers it.
-/
namespace AgentKit.Http

/-- A character of a token. -/
def isTokenCharacter (character : Char) : Bool :=
  character.isAlphanum || "!#$%&'*+-.^_`|~".toList.contains character

/-- The method of a request. -/
structure Method where
  name : String
deriving DecidableEq, Repr

namespace Method

/-- The method that a text is. -/
def ofText? (text : String) : Option Method :=
  if !text.isEmpty && text.toList.all isTokenCharacter then some ⟨text⟩ else none

/-- What is said about a text that is no method. -/
def refusal : String := "invalid HTTP method"

/-- Asks for a page. -/
def get : Method := ⟨"GET"⟩

/-- Asks for what a page would be sent with, without the page. -/
def head : Method := ⟨"HEAD"⟩

/-- A method that the status page answers. -/
def isAnswered (method : Method) : Bool := method = get || method = head

end Method

end AgentKit.Http
