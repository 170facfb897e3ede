/-
  TestRig.Json.Parser

  Reading a JSON value from tokens, one token at a time.  The arrays and objects
  that are still open lie on a stack, so that neither depth nor length costs more
  than the tokens themselves.
-/
import TestRig.Json.Basic
import TestRig.Json.Token

namespace TestRig.Json

/-- An array or object that is still open, with what it holds so far, last first. -/
inductive Frame where
  | array (items : List Json)
  /-- An object and the name of the member whose value comes next. -/
  | object (members : List (Option String × Json)) (name : Option String)

/-- What may come next. -/
inductive Expectation where
  | value
  /-- A value, or the end of an array that is still empty. -/
  | valueOrClose
  /-- The name of a member of the object whose members so far are given. -/
  | name (members : List (Option String × Json))
  /-- The same, or the end of the object. -/
  | nameOrClose
  | colon (members : List (Option String × Json)) (name : Option String)
  /-- A comma or the end of the innermost open frame, to which the value belongs. -/
  | afterValue (value : Json)

/-- The state of the parser. -/
structure Parser where
  stack : List Frame
  expect : Expectation

/-- The parser in front of a text. -/
def Parser.start : Parser := ⟨[], .value⟩

/-- Begins a value with a token. -/
def Parser.beginValue (stack : List Frame) : Token → Option Parser
  | .openBracket => some ⟨.array [] :: stack, .valueOrClose⟩
  | .openBrace => some ⟨stack, .nameOrClose⟩
  | .null => some ⟨stack, .afterValue .null⟩
  | .bool b => some ⟨stack, .afterValue (.bool b)⟩
  | .int n => some ⟨stack, .afterValue (.int n)⟩
  | .real text => some ⟨stack, .afterValue (.real text)⟩
  | .str text => some ⟨stack, .afterValue (.str text)⟩
  | _ => none

/-- Takes one token; `none` when it cannot stand there. -/
def Parser.step (p : Parser) (token : Token) : Option Parser :=
  match p.expect with
  | .value => beginValue p.stack token
  | .valueOrClose =>
    match token, p.stack with
    | .closeBracket, .array items :: stack => some ⟨stack, .afterValue (.arr items.reverse)⟩
    | _, _ => beginValue p.stack token
  | .nameOrClose =>
    match token with
    | .closeBrace => some ⟨p.stack, .afterValue (.obj [])⟩
    | .str name => some ⟨p.stack, .colon [] name⟩
    | _ => none
  | .name members =>
    match token with
    | .str name => some ⟨p.stack, .colon members name⟩
    | _ => none
  | .colon members name =>
    match token with
    | .colon => some ⟨.object members name :: p.stack, .value⟩
    | _ => none
  | .afterValue value =>
    match token, p.stack with
    | .comma, .array items :: stack => some ⟨.array (value :: items) :: stack, .value⟩
    | .closeBracket, .array items :: stack =>
      some ⟨stack, .afterValue (.arr (value :: items).reverse)⟩
    | .comma, .object members name :: stack => some ⟨stack, .name ((name, value) :: members)⟩
    | .closeBrace, .object members name :: stack =>
      some ⟨stack, .afterValue (.obj ((name, value) :: members).reverse)⟩
    | _, _ => none

/-- The value that was read, when nothing is open any more. -/
def Parser.finish (p : Parser) : Option Json :=
  match p.stack, p.expect with
  | [], .afterValue value => some value
  | _, _ => none

/-- The value that a list of tokens spells. -/
def ofTokens? (tokens : List Token) : Option Json :=
  (tokens.foldlM Parser.step Parser.start).bind Parser.finish

/-- The value that a text spells. -/
def parse? (text : String) : Option Json := (tokens? text.toList).bind ofTokens?

end TestRig.Json
