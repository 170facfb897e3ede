/-
  TestRig.Json.Printer

  Writing JSON values: as tokens, as text without white space, and as text with a
  line of its own for each item and member.
-/
import TestRig.Json.Basic
import TestRig.Json.Token

namespace TestRig.Json

/-! ## Tokens and compact text -/

mutual

/-- The tokens of a value. -/
def tokens : Json → List Token
  | .null => [.null]
  | .bool b => [.bool b]
  | .int n => [.int n]
  | .real text => [.real text]
  | .str text => [.str text]
  | .arr items => .openBracket :: itemTokens true items ++ [.closeBracket]
  | .obj members => .openBrace :: memberTokens true members ++ [.closeBrace]

/-- The tokens of the items of an array, with a comma in front of each but the first. -/
def itemTokens (first : Bool) : List Json → List Token
  | [] => []
  | item :: rest => (if first then [] else [.comma]) ++ tokens item ++ itemTokens false rest

/-- The tokens of the members of an object, with a comma in front of each but the first. -/
def memberTokens (first : Bool) : List (Option String × Json) → List Token
  | [] => []
  | (name, value) :: rest =>
    (if first then [] else [.comma]) ++ [.str name, .colon] ++ tokens value ++
      memberTokens false rest

end

/-- The value as text without white space. -/
def compact (value : Json) : String := String.ofList (value.tokens.flatMap Token.spell)

/-! ## Indented text -/

/-- A line break and the indentation of a level. -/
def newLine (level : Nat) : List Char := '\n' :: List.replicate (2 * level) ' '

mutual

/-- The value as indented text, at a level. -/
def prettyChars (level : Nat) : Json → List Char
  | .arr [] => ['[', ']']
  | .arr (item :: rest) =>
    '[' :: newLine (level + 1) ++ prettyChars (level + 1) item ++ prettyItems level rest ++
      newLine level ++ [']']
  | .obj [] => ['\x7b', '\x7d']
  | .obj ((name, value) :: rest) =>
    '\x7b' :: newLine (level + 1) ++ Token.spell (.str name) ++ [':', ' '] ++
      prettyChars (level + 1) value ++ prettyMembers level rest ++ newLine level ++ ['\x7d']
  | .null => Token.null.spell
  | .bool b => (Token.bool b).spell
  | .int n => (Token.int n).spell
  | .real text => (Token.real text).spell
  | .str text => (Token.str text).spell

/-- The items behind the first one. -/
def prettyItems (level : Nat) : List Json → List Char
  | [] => []
  | item :: rest =>
    ',' :: newLine (level + 1) ++ prettyChars (level + 1) item ++ prettyItems level rest

/-- The members behind the first one. -/
def prettyMembers (level : Nat) : List (Option String × Json) → List Char
  | [] => []
  | (name, value) :: rest =>
    ',' :: newLine (level + 1) ++ Token.spell (.str name) ++ [':', ' '] ++
      prettyChars (level + 1) value ++ prettyMembers level rest

end

/-- The value as text with a line for each item and member, indented by two spaces a level. -/
def pretty (value : Json) : String := String.ofList (prettyChars 0 value)

end TestRig.Json
