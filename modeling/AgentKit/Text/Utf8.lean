/-!
# Octets and characters

Whatever crosses the edge of a program is a list of octets: a path, the value of a variable, the
contents of a file, a line of a stream. Inside, texts are characters. This module holds the step
between the two: the octets of a character, the first character of an octet list, and the two ways
of reading a whole list, one that refuses and one that replaces.

An octet list is read from the left. Each step takes either one character or one ill-formed part,
and the part is the longest initial piece of a character that the octets still allow, at least one
octet. The bounds on the second octet exclude overlong forms, surrogates and numbers past the last
character.
-/
namespace AgentKit

/-- A finite sequence of octets. -/
abbrev Bytes := List UInt8

namespace Utf8

/-- The one to four octets of a character, most significant bits first. -/
def encodeChar (character : Char) : Bytes :=
  let code := character.toNat
  if code < 0x80 then
    [.ofNat code]
  else if code < 0x800 then
    [.ofNat (0xC0 + code / 64), .ofNat (0x80 + code % 64)]
  else if code < 0x10000 then
    [.ofNat (0xE0 + code / 4096), .ofNat (0x80 + code / 64 % 64), .ofNat (0x80 + code % 64)]
  else
    [.ofNat (0xF0 + code / 262144), .ofNat (0x80 + code / 4096 % 64),
      .ofNat (0x80 + code / 64 % 64), .ofNat (0x80 + code % 64)]

/-- The octets of a text are those of its characters, in order. -/
def encode (characters : List Char) : Bytes := characters.flatMap encodeChar

/-- The octets of a string. -/
def ofString (text : String) : Bytes := encode text.toList

/-- What one step of reading takes off the front, with the octets that remain. -/
inductive Decoded where
  /-- A whole character. -/
  | character (value : Char) (rest : Bytes)
  /-- A maximal ill-formed part. -/
  | illFormed (rest : Bytes)

/-- The octets that remain after a step. -/
def Decoded.rest : Decoded → Bytes
  | .character _ rest => rest
  | .illFormed rest => rest

/-- A continuation octet carries six bits below the mark `10`. -/
def isTail (octet : UInt8) : Bool := 0x80 ≤ octet.toNat && octet.toNat < 0xC0

/-- The second octet is a continuation octet inside the bounds that its lead octet sets. -/
def mayFollow (lead : Nat) (second : UInt8) : Bool :=
  if lead = 0xE0 then 0xA0 ≤ second.toNat && second.toNat < 0xC0
  else if lead = 0xED then 0x80 ≤ second.toNat && second.toNat < 0xA0
  else if lead = 0xF0 then 0x90 ≤ second.toNat && second.toNat < 0xC0
  else if lead = 0xF4 then 0x80 ≤ second.toNat && second.toNat < 0x90
  else isTail second

/-- The six bits of a continuation octet. -/
def tailBits (octet : UInt8) : Nat := octet.toNat - 0x80

/-- One step of reading, for a first octet and those after it. A missing or unfitting octet ends
the ill-formed part in front of itself, so it is read again as the start of what follows. -/
def next (first : UInt8) (rest : Bytes) : Decoded :=
  let lead := first.toNat
  if lead < 0x80 then
    .character (Char.ofNat lead) rest
  else if lead < 0xC2 || 0xF5 ≤ lead then
    .illFormed rest
  else
    match rest with
    | [] => .illFormed []
    | second :: afterSecond =>
      if !mayFollow lead second then
        .illFormed (second :: afterSecond)
      else if lead < 0xE0 then
        .character (Char.ofNat ((lead - 0xC0) * 64 + tailBits second)) afterSecond
      else
        match afterSecond with
        | [] => .illFormed []
        | third :: afterThird =>
          if !isTail third then
            .illFormed (third :: afterThird)
          else if lead < 0xF0 then
            .character
              (Char.ofNat ((lead - 0xE0) * 4096 + tailBits second * 64 + tailBits third)) afterThird
          else
            match afterThird with
            | [] => .illFormed []
            | fourth :: afterFourth =>
              if !isTail fourth then
                .illFormed (fourth :: afterFourth)
              else
                .character
                  (Char.ofNat ((lead - 0xF0) * 262144 + tailBits second * 4096 +
                    tailBits third * 64 + tailBits fourth)) afterFourth

/-- A step never gives back more than followed the first octet. -/
theorem next_rest_length (first : UInt8) (rest : Bytes) :
    (next first rest).rest.length ≤ rest.length := by
  rcases rest with _ | ⟨second, _ | ⟨third, _ | ⟨fourth, afterFourth⟩⟩⟩ <;>
    simp only [next] <;> repeat' split
  all_goals (simp only [Decoded.rest, List.length_cons]; omega)

/-- Read every character, or stop with the octets from the first ill-formed part on. -/
def decode : Bytes → Except Bytes (List Char)
  | [] => .ok []
  | first :: rest =>
    match _step : next first rest with
    | .character value after =>
      match decode after with
      | .ok characters => .ok (value :: characters)
      | .error illFormed => .error illFormed
    | .illFormed _ => .error (first :: rest)
termination_by octets => octets.length
decreasing_by
  have bound := next_rest_length first rest
  rw [_step] at bound
  simp only [Decoded.rest] at bound
  simp only [List.length_cons]
  omega

/-- Read every character, with U+FFFD in the place of each maximal ill-formed part. -/
def decodeLossy : Bytes → List Char
  | [] => []
  | first :: rest =>
    match _step : next first rest with
    | .character value after => value :: decodeLossy after
    | .illFormed after => '\uFFFD' :: decodeLossy after
termination_by octets => octets.length
decreasing_by
  all_goals
    have bound := next_rest_length first rest
    rw [_step] at bound
    simp only [Decoded.rest] at bound
    simp only [List.length_cons]
    omega

/-- The string of an octet list that holds no ill-formed part. -/
def toString? (octets : Bytes) : Option String :=
  match decode octets with
  | .ok characters => some (String.ofList characters)
  | .error _ => none

/-- The string of any octet list, read with replacement. -/
def toStringLossy (octets : Bytes) : String := String.ofList (decodeLossy octets)

end Utf8

end AgentKit
