/-
  TestRig.Toml.Parser

  Reading TOML text.  Each reader takes the text in front of it and gives what it
  read together with the text behind that, or nothing when the text is no TOML.
-/
import TestRig.Toml.Scalar

namespace TestRig.Toml

/-! ## White space and comments -/

/-- A space or a tab. -/
def isGap (c : Char) : Bool := c = ' ' || c = '\t'

/-- The text behind spaces and tabs. -/
def skipGap (text : List Char) : List Char := text.dropWhile isGap

/-- A character that may stand in text as itself: no control character but the tab. -/
def isPlain (c : Char) : Bool := c = '\t' || (0x20 ≤ c.toNat && c.toNat ≠ 0x7F)

/-- The text behind white space, line breaks and comments. -/
def skipSpace (inComment : Bool) : List Char → Option (List Char)
  | [] => some []
  | '\r' :: '\n' :: rest => skipSpace false rest
  | c :: rest =>
    if c = '\n' then skipSpace false rest
    else if inComment then if isPlain c then skipSpace true rest else none
    else if isGap c then skipSpace false rest
    else if c = '#' then skipSpace true rest
    else some (c :: rest)

/-- The text behind the end of a line, in front of which only a comment may stand. -/
def endLine (inComment : Bool) : List Char → Option (List Char)
  | [] => some []
  | '\r' :: '\n' :: rest => some rest
  | c :: rest =>
    if c = '\n' then some rest
    else if inComment then if isPlain c then endLine true rest else none
    else if isGap c then endLine false rest
    else if c = '#' then endLine true rest
    else none

/-! ## Strings -/

/-- The character that a letter behind a backslash stands for. -/
def escaped? : Char → Option Char
  | 'b' => some '\x08'
  | 't' => some '\t'
  | 'n' => some '\n'
  | 'f' => some '\x0c'
  | 'r' => some '\r'
  | 'e' => some '\x1b'
  | '"' => some '"'
  | '\\' => some '\\'
  | _ => none

/-- The character of a code point in hexadecimal digits. -/
def charOf? (digits : List Char) : Option Char :=
  if digits.all Text.Hex.isDigit then
    let n := naturalOf 16 digits
    if n < 0xD800 ∨ (0xE000 ≤ n ∧ n < 0x110000) then some (Char.ofNat n) else none
  else none

/-- The rest of a string between single quotation marks; what was read comes last first. -/
def literal (read : List Char) : List Char → Option (String × List Char)
  | [] => none
  | '\'' :: rest => some (String.ofList read.reverse, rest)
  | c :: rest => if isPlain c then literal (c :: read) rest else none

/-- The rest of a string between double quotation marks. -/
def basic (read : List Char) : List Char → Option (String × List Char)
  | [] => none
  | '"' :: rest => some (String.ofList read.reverse, rest)
  | '\\' :: 'x' :: a :: b :: rest => do basic ((← charOf? [a, b]) :: read) rest
  | '\\' :: 'u' :: a :: b :: c :: d :: rest => do basic ((← charOf? [a, b, c, d]) :: read) rest
  | '\\' :: 'U' :: a :: b :: c :: d :: e :: f :: g :: h :: rest => do
    basic ((← charOf? [a, b, c, d, e, f, g, h]) :: read) rest
  | '\\' :: c :: rest => do basic ((← escaped? c) :: read) rest
  | c :: rest => if isPlain c then basic (c :: read) rest else none

/-- The end of a string between three quotation marks: up to two more of them still belong to it. -/
def closing (mark : Char) (read : List Char) : List Char → String × List Char
  | a :: b :: rest =>
    if a = mark && b = mark then (String.ofList (mark :: mark :: read).reverse, rest)
    else if a = mark then (String.ofList (mark :: read).reverse, b :: rest)
    else (String.ofList read.reverse, a :: b :: rest)
  | [a] => if a = mark then (String.ofList (mark :: read).reverse, [])
    else (String.ofList read.reverse, [a])
  | [] => (String.ofList read.reverse, [])

/-- The rest of a literal string of several lines. -/
def literalLines (read : List Char) : List Char → Option (String × List Char)
  | [] => none
  | '\'' :: '\'' :: '\'' :: rest => some (closing '\'' read rest)
  | '\r' :: '\n' :: rest => literalLines ('\n' :: read) rest
  | c :: rest => if c = '\n' || isPlain c then literalLines (c :: read) rest else none

/-- Is the rest of the line blank? -/
def endsBlank (text : List Char) : Bool :=
  match skipGap text with
  | '\n' :: _ => true
  | '\r' :: '\n' :: _ => true
  | _ => false

/-- The rest of a basic string of several lines.  A backslash at the end of a line takes away all
white space up to the next other character: that is what `trimming` says. -/
def basicLines (trimming : Bool) (read : List Char) : List Char → Option (String × List Char)
  | [] => none
  | '"' :: '"' :: '"' :: rest => some (closing '"' read rest)
  | '\r' :: '\n' :: rest => basicLines trimming (if trimming then read else '\n' :: read) rest
  | '\\' :: 'x' :: a :: b :: rest => do basicLines false ((← charOf? [a, b]) :: read) rest
  | '\\' :: 'u' :: a :: b :: c :: d :: rest => do
    basicLines false ((← charOf? [a, b, c, d]) :: read) rest
  | '\\' :: 'U' :: a :: b :: c :: d :: e :: f :: g :: h :: rest => do
    basicLines false ((← charOf? [a, b, c, d, e, f, g, h]) :: read) rest
  | '\\' :: c :: rest =>
    if endsBlank (c :: rest) then
      basicLines true read rest
    else do basicLines false ((← escaped? c) :: read) rest
  | c :: rest =>
    if c = '\n' then basicLines trimming (if trimming then read else c :: read) rest
    else if isGap c && trimming then basicLines true read rest
    else if isPlain c then basicLines false (c :: read) rest
    else none

/-- The text behind a line break that may stand first in a string of several lines. -/
def dropFirstBreak : List Char → List Char
  | '\n' :: rest => rest
  | '\r' :: '\n' :: rest => rest
  | text => text

/-- A string of any of the four kinds, if the text begins with one. -/
def quoted? : List Char → Option (Option (String × List Char))
  | '"' :: '"' :: '"' :: rest => some (basicLines false [] (dropFirstBreak rest))
  | '\'' :: '\'' :: '\'' :: rest => some (literalLines [] (dropFirstBreak rest))
  | '"' :: rest => some (basic [] rest)
  | '\'' :: rest => some (literal [] rest)
  | _ => none

/-! ## Keys -/

/-- A character of a bare key. -/
def isKeyChar (c : Char) : Bool := c.isAlphanum || c = '_' || c = '-'

/-- One key: bare, or a string of one line. -/
def simpleKey : List Char → Option (String × List Char)
  | '"' :: rest => basic [] rest
  | '\'' :: rest => literal [] rest
  | text =>
    let key := text.takeWhile isKeyChar
    if key.isEmpty then none else some (String.ofList key, text.dropWhile isKeyChar)

/-- Keys with dots between them, at most as many as are given. -/
def dottedKey : Nat → List Char → Option (List String × List Char)
  | 0, _ => none
  | limit + 1, text => do
    let (key, rest) ← simpleKey (skipGap text)
    match skipGap rest with
    | '.' :: rest => do
      let (keys, rest) ← dottedKey limit rest
      some (key :: keys, rest)
    | rest => some ([key], rest)

/-! ## Values -/

/-- A character of a bare word. -/
def isWordChar (c : Char) : Bool :=
  c.isAlphanum || c = '_' || c = '-' || c = '+' || c = '.' || c = ':'

/-- A bare word.  A date takes the time behind a space with it. -/
def bareWord (text : List Char) : List Char × List Char :=
  let word := text.takeWhile isWordChar
  let rest := text.dropWhile isWordChar
  match afterDate? word, rest with
  -- only a date without a time takes a space and goes on
  | some [], ' ' :: more =>
    if (more.head?.any Char.isDigit) then
      (word ++ ' ' :: more.takeWhile isWordChar, more.dropWhile isWordChar)
    else (word, rest)
  | _, _ => (word, rest)

mutual

/-- A value.  `fuel` bounds the steps and `depth` the arrays and tables inside one another. -/
def value (fuel depth : Nat) (text : List Char) : Option (Value × List Char) :=
  match fuel with
  | 0 => none
  | fuel + 1 =>
    match quoted? text with
    | some read => read.map fun (s, rest) => (.string s, rest)
    | none =>
      match text with
      -- arrays and tables inside one another are counted down
      | '[' :: rest =>
        match depth with
        | 0 => none
        | depth + 1 => (items fuel depth [] rest).map fun (vs, rest) => (.array vs, rest)
      | '\x7b' :: rest =>
        match depth with
        | 0 => none
        | depth + 1 =>
          (members fuel depth [] rest).map fun (es, rest) => (.table (entriesToTable es), rest)
      | _ =>
        let (word, rest) := bareWord text
        (scalar? word).map fun v => (v, rest)

/-- The items of an array up to its end, behind those read so far (last first). -/
def items (fuel depth : Nat) (read : List Value) (text : List Char) :
    Option (List Value × List Char) :=
  match fuel with
  | 0 => none
  | fuel + 1 => do
    match ← skipSpace false text with
    | ']' :: rest => some (read.reverse, rest)
    | text => do
      let (v, rest) ← value fuel depth text
      match ← skipSpace false rest with
      | ']' :: rest => some ((v :: read).reverse, rest)
      | ',' :: rest => items fuel depth (v :: read) rest
      | _ => none

/-- The entries of a table between braces up to its end. -/
def members (fuel depth : Nat) (read : Entries) (text : List Char) : Option (Entries × List Char) :=
  match fuel with
  | 0 => none
  | fuel + 1 => do
    match ← skipSpace false text with
    | '\x7d' :: rest => some (read, rest)
    | text => do
      let (keys, rest) ← dottedKey fuel text
      match rest with
      | '=' :: rest => do
        let (v, rest) ← value fuel depth (skipGap rest)
        let read ← Entries.add v keys read
        match ← skipSpace false rest with
        | '\x7d' :: rest => some (read, rest)
        | ',' :: rest => members fuel depth read rest
        | _ => none
      | _ => none

end

/-! ## Documents -/

/-- How many arrays and tables may lie inside one another. -/
def depthLimit : Nat := 80

/-- What one line says. -/
inductive Line where
  | table (keys : List String)
  | item (keys : List String)
  | entry (keys : List String) (value : Value)

/-- The line at the front of a text, which is not blank. -/
def line (fuel : Nat) (text : List Char) : Option (Line × List Char) :=
  match text with
  | '[' :: '[' :: rest => do
    let (keys, rest) ← dottedKey fuel rest
    match rest with
    | ']' :: ']' :: rest => some (.item keys, ← endLine false rest)
    | _ => none
  | '[' :: rest => do
    let (keys, rest) ← dottedKey fuel rest
    match rest with
    | ']' :: rest => some (.table keys, ← endLine false rest)
    | _ => none
  | _ => do
    let (keys, rest) ← dottedKey fuel text
    match rest with
    | '=' :: rest => do
      let (v, rest) ← value fuel depthLimit (skipGap rest)
      some (.entry keys v, ← endLine false rest)
    | _ => none

/-- Takes a line into a document whose current table is at the end of `header`. -/
def takeLine (header : List String) (root : Entries) : Line → Option (List String × Entries)
  | .table keys => do
    let root ← Entries.alongHeader (Entries.openTable (keys.getLastD "")) keys.dropLast root
    some (keys, root)
  | .item keys => do
    let root ← Entries.alongHeader (Entries.openItem (keys.getLastD "")) keys.dropLast root
    some (keys, root)
  | .entry keys v => do
    let root ← Entries.alongHeader (Entries.add v keys) header root
    some (header, root)

/-- The lines of a text in turn. -/
def lines (fuel : Nat) (header : List String) (root : Entries) (text : List Char) :
    Option Entries :=
  match fuel with
  | 0 => none
  | fuel + 1 => do
    match ← skipSpace false text with
    | [] => some root
    | text => do
      let (l, rest) ← line fuel text
      let (header, root) ← takeLine header root l
      lines fuel header root rest

/-- The document that a text is.  A byte order mark may stand in front of it. -/
def parse? (text : String) : Option Table :=
  let text := match text.toList with
    | '\uFEFF' :: rest => rest
    | text => text
  (lines (2 * text.length + 2) [] [] text).map entriesToTable

end TestRig.Toml
