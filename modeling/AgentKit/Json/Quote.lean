/-!
# Quoted strings

A string stands between quotes. Inside, the quote, the backslash and the characters below U+0020
are written with an escape, the common ones by a letter and the others by four hexadecimal digits;
every other character stands for itself.
-/
namespace AgentKit.Json

/-- A hexadecimal digit in lower case. -/
def hexDigit (value : Nat) : Char :=
  if value < 10 then Char.ofNat (48 + value) else Char.ofNat (87 + value)

/-- The written form of one character inside quotes. -/
def escape (character : Char) : List Char :=
  if character = '"' then ['\\', '"']
  else if character = '\\' then ['\\', '\\']
  else if 0x20 ≤ character.toNat then [character]
  else if character.toNat = 0x08 then ['\\', 'b']
  else if character.toNat = 0x09 then ['\\', 't']
  else if character.toNat = 0x0A then ['\\', 'n']
  else if character.toNat = 0x0C then ['\\', 'f']
  else if character.toNat = 0x0D then ['\\', 'r']
  else
    ['\\', 'u', '0', '0', hexDigit (character.toNat / 16), hexDigit (character.toNat % 16)]

/-- The written form of a text. -/
def quote (text : List Char) : List Char := '"' :: text.flatMap escape ++ ['"']

/-- One member of an object: the quoted key, a colon and the value. -/
def member (key : List Char) (value : List Char) : List Char := quote key ++ ':' :: value

/-- Members with a comma in front of each. -/
def laterMembers (members : List (List Char)) : List Char :=
  members.flatMap fun written => ',' :: written

/-- An object of written members, in order and without spaces. -/
def object : List (List Char) → List Char
  | [] => ['{', '}']
  | first :: later => '{' :: first ++ laterMembers later ++ ['}']

end AgentKit.Json
