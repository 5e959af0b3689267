import AgentKit.CommandLine.Options
/-!
# Help and refusals

What a program prints about itself: the help with its options in two columns, the version, and the
refusal of a command line.
-/
namespace AgentKit.CommandLine

/-- What a program says about itself. -/
structure About where
  name : String
  version : String
  purpose : String
  /-- What each option is for, and its value when it is not given. -/
  options : List (OptionRule × String × String)
  notices : List Notice

namespace About

/-- The rules of the program's command line. -/
def rules (about : About) : Rules := ⟨about.options.map Prod.fst, about.notices⟩

/-- What a flag is for. -/
def noticePurpose : Notice → String
  | .help => "Print help"
  | .version => "Print version"

/-- The rows of the help: how an option is written and what it is for. -/
def rows (about : About) : List (Styled × String) :=
  (about.options.map fun (rule, purpose, otherwise) =>
    (.plain "    " ++ literal ("--" ++ rule.name) ++ .plain (" <" ++ rule.placeholder ++ ">"),
      purpose ++ " [default: " ++ otherwise ++ "]")) ++
  about.notices.map fun notice =>
    (literal (String.ofList ['-', notice.letter]) ++ .plain ", " ++ literal ("--" ++ notice.name),
      noticePurpose notice)

/-- The width of an entry in the first column. -/
def entryWidth (entry : Styled) : Nat := entry.bare.length

/-- The width of the first column. -/
def width (about : About) : Nat :=
  about.rows.foldl (fun widest row => max widest (entryWidth row.1)) 0

/-- A row, with the second column two blanks behind the widest entry of the first. -/
def rowText (width : Nat) (row : Styled × String) : Styled :=
  .plain "  " ++ row.1 ++
    .plain (String.ofList (List.replicate (width - entryWidth row.1 + 2) ' ') ++ row.2 ++ "\n")

/-- A word above or in front of what it announces. -/
def heading (text : String) : Styled := .looking [.bold, .underlined] text

/-- The line that shows how the program is called. -/
def usage (about : About) : Styled :=
  heading "Usage:" ++ .plain " " ++ literal about.name ++ .plain " [OPTIONS]\n"

/-- The help. -/
def help (about : About) : Styled :=
  .plain (about.purpose ++ "\n\n") ++ about.usage ++ .plain "\n" ++ heading "Options:" ++
    .plain "\n" ++ about.rows.flatMap (rowText about.width)

/-- The answer to a flag. -/
def notice (about : About) : Notice → Styled
  | .help => about.help
  | .version => .plain (about.name ++ " " ++ about.version ++ "\n")

/-- The refusal of a command line. -/
def refusal (about : About) (error : UsageError) : Styled :=
  .looking [.bold, .red] "error:" ++ .plain " " ++ error.message ++ .plain "\n\n" ++ about.usage ++
    .plain "\nFor more information, try '" ++ literal "--help" ++ .plain "'.\n"

end About

end AgentKit.CommandLine
