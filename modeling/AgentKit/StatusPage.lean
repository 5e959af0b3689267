import AgentKit.Time.Timestamp
/-!
# The status page

The page says whether a key is configured, names the entries of the workspace and gives the time.
Names are foreign text: the characters that mean something to a reader of markup are written as
entities, so a name can neither open an element nor end one.
-/
namespace AgentKit

/-- What the status page shows. -/
structure StatusPage where
  hasKey : Bool
  names : List String
  clock : Clock

namespace StatusPage

/-- A character as page text. -/
def escape (character : Char) : List Char :=
  match character with
  | '&' => "&amp;".toList
  | '<' => "&lt;".toList
  | '>' => "&gt;".toList
  | '"' => "&quot;".toList
  | other => [other]

/-- A name as page text. -/
def escapeName (name : String) : List Char := name.toList.flatMap escape

/-- The names, or a remark that there are none. -/
def namesText (page : StatusPage) : List Char :=
  match page.names with
  | [] => "(empty)".toList
  | names => (", ".toList).intercalate (names.map escapeName)

/-- Whether a key is configured. -/
def keyText (page : StatusPage) : List Char :=
  if page.hasKey then "yes".toList else "no".toList

/-- The page up to the answer about the key. -/
def opening : List Char :=
  "<html>\n<body>\n<h1>AegisVM HTTP Server</h1>\n<p>API_KEY configured: ".toList

/-- The page between the answer about the key and the names. -/
def beforeNames : List Char := "</p>\n<p>Workspace files: ".toList

/-- The page between the names and the time. -/
def beforeTime : List Char := "</p>\n<p>Time: ".toList

/-- The page behind the time. -/
def closing : List Char := "</p>\n</body>\n</html>".toList

/-- The whole page. -/
def text (page : StatusPage) : List Char :=
  opening ++ page.keyText ++ beforeNames ++ page.namesText ++ beforeTime ++ page.clock.text ++
    closing

end StatusPage

end AgentKit
