/-
  TestRig.Shell.Parser

  Reading a script.  A script is read one unit at a time, and a unit reaches to the
  end of a line that ends a command: what stands in front of a fault in the syntax
  has run already when the fault is found.  Expansions may hold whole scripts, so the
  readers of words and of commands call each other; what bounds them is the length
  of the text.
-/
import TestRig.Shell.Token

namespace TestRig.Shell

/-- A script as far as it is read. -/
structure Scan where
  rest : Octets
  line : Nat := 1
  /-- Lines cut out behind the current one. -/
  skipped : Nat := 0
  /-- A token that was looked at and put back. -/
  pending : Option Token := none

/-- Readers of scripts. -/
abbrev Parse := StateT Scan (Except SyntaxError)

namespace Parse

/-- Ends with a fault on the current line. -/
def fault {α : Type} (f : SyntaxFault) : Parse α := do
  throw ⟨(← get).line, f⟩

/-- Ends with a fault about a token. -/
def unexpected {α : Type} (found : Token) (expected : Option String) : Parse α :=
  fault (.unexpected found.name expected)

/-! ## Characters -/

/-- The next character, which stays. -/
def peek? : Parse (Option Char) := do return (← get).rest.head?

/-- Passes over `n` characters and counts the lines. -/
def skip (n : Nat) : Parse Unit := modify fun s =>
  -- documents behind a line count as soon as the line in front of them ends
  let lines := (s.rest.take n).count '\n'
  { s with
    rest := s.rest.drop n
    line := s.line + lines + (if lines = 0 then 0 else s.skipped)
    skipped := if lines = 0 then s.skipped else 0 }

/-- Passes over a text if it comes next. -/
def accept (text : String) : Parse Bool := do
  if text.toList.isPrefixOf (← get).rest then
    skip text.length
    return true
  else return false

/-- Passes over the characters of a class. -/
def takeWhile (p : Char → Bool) : Parse Octets := do
  let found := (← get).rest.takeWhile p
  skip found.length
  return found

/-- Repeats a reader up to its first `none`, at most `bound` times. -/
def repeatFor {α : Type} (step : Parse (Option α)) : Nat → Parse (List α)
  | 0 => return []
  | bound + 1 => do
    match ← step with
    | none => return []
    | some a => return a :: (← repeatFor step bound)

/-- Repeats a reader that consumes text up to its first `none`. -/
def many {α : Type} (step : Parse (Option α)) : Parse (List α) := do
  repeatFor step ((← get).rest.length + 2)

/-! ## Words -/

/-- A character that begins a name. -/
def isNameStart (c : Char) : Bool := c.isAlpha || c = '_'

/-- A character of a name. -/
def isNameChar (c : Char) : Bool := c.isAlphanum || c = '_'

/-- Is the text a name? -/
def isName : Octets → Bool
  | [] => false
  | c :: rest => isNameStart c && rest.all isNameChar

/-- A parameter that is named by one sign. -/
def isSpecial (c : Char) : Bool := c ∈ ['@', '*', '#', '?', '-', '$', '!']

/-- A character that ends a word unless it is quoted. -/
def endsWord (c : Char) : Bool := c ∈ [' ', '\t', '\n', ';', '&', '|', '<', '>', '(', ')']

/-- Where parts of a word are read. -/
inductive Zone where
  /-- In a bare word. -/
  | bare
  /-- Between double quotes. -/
  | string
  /-- Behind the operator of a `${`. -/
  | braces (inQuotes : Bool)
  /-- In an arithmetic expression, with a number of open parentheses. -/
  | arithmetic (depth : Nat)
  /-- In a text of the script. -/
  | document
  deriving DecidableEq

/-- Are expansions in this zone quoted? -/
def Zone.inQuotes : Zone → Bool
  | bare => false
  | braces q => q
  | string | arithmetic _ | document => true

/-- Characters as a part of a word: quoted ones stand for themselves. -/
def Zone.literal (z : Zone) (text : Octets) : Part :=
  if z.inQuotes then .quoted text else .plain text

/-- Puts neighbouring characters of one kind into one part. -/
def join (part : Part) : Word → Word
  | next :: rest =>
    match part, next with
    | .plain a, .plain b => .plain (a ++ b) :: rest
    | .quoted a, .quoted b => .quoted (a ++ b) :: rest
    | part, next => part :: next :: rest
  | [] => [part]

/-- Reads up to the quote that closes a literal string. -/
def literalString : Parse Octets := do
  let text ← takeWhile (· ≠ '\'')
  if ← accept "'" then return text else fault .unterminatedQuotes

/-- The text between backquotes, in which a backslash protects some characters. -/
def backquoted (inQuotes : Bool) : Parse Octets := do
  let step : Parse (Option Char) := do
    match (← get).rest with
    | '`' :: _ => return none
    | '\\' :: c :: _ =>
      if c ∈ ['\\', '`', '$'] || (inQuotes && c = '"') then
        skip 2
        return some c
      else
        skip 1
        return some '\\'
    | c :: _ =>
      skip 1
      return some c
    | [] => return none
  let text ← many step
  if ← accept "`" then return text else fault .unterminatedBackquotes

/-- The name of a parameter between braces. -/
def parameterName? : Parse (Option Octets) := do
  match ← peek? with
  | none => return none
  | some c =>
    if isNameStart c then return some (← takeWhile isNameChar)
    else if c.isDigit then return some (← takeWhile Char.isDigit)
    else if isSpecial c then
      skip 1
      return some [c]
    else return none

/-- What stands behind the name of a parameter between braces, the braces included. -/
def modifier (parts : Zone → Parse Word) (q : Bool) (name : Octets) : Parse Part := do
  let close (build : Word → Part) (zone : Zone) : Parse Part := do
    let word ← parts zone
    if ← accept "\x7d" then return build word else fault .missingBrace
  let kinds : List (String × Fallback) :=
    [("-", .default), ("=", .assign), ("+", .alternative), ("?", .error)]
  if ← accept "\x7d" then return .parameter q name
  -- the text ends inside the braces
  if (← peek?).isNone then fault .missingBrace
  let colon ← accept ":"
  for (sign, kind) in kinds do
    if ← accept sign then return ← close (.fallback q name colon kind) (.braces q)
  if colon then
    -- `${x:}` is the parameter itself
    if ← accept "\x7d" then return ← close (fun _ => .parameter q name) (.braces q)
    return .malformed
  -- a doubled sign comes first, so that the longer one is taken
  for (sign, fromEnd, longest) in
      [("##", CutEnd.front, true), ("#", .front, false), ("%%", .back, true),
       ("%", .back, false)] do
    if ← accept sign then return ← close (.cut q name fromEnd longest) (.braces false)
  return .malformed

/-- Passes over what is left of a malformed expansion. -/
def skipMalformed : Part → Parse Part
  | .malformed => do
    let _ ← takeWhile (· ≠ '\x7d')
    if !(← accept "\x7d") then fault .missingBrace
    return .malformed
  | part => return part

/-- What stands behind `${`. -/
def braced (parts : Zone → Parse Word) (q : Bool) : Parse Part := do
  let lengthOf? : Parse (Option Part) := do
    let before ← get
    if ← accept "#" then
      match ← parameterName? with
      | some name =>
        if ← accept "\x7d" then return some (.length q name)
      | none => pure ()
    set before
    return none
  match ← lengthOf? with
  | some part => return part
  | none =>
    match ← parameterName? with
    | some name => skipMalformed (← modifier parts q name)
    | none => skipMalformed .malformed

/-- What stands behind a `$`. -/
def expansion (parts : Zone → Parse Word) (script : Parse Command) (z : Zone) : Parse Part := do
  let q := z.inQuotes
  if ← accept "((" then
    let expression ← parts (.arithmetic 0)
    if ← accept "))" then return .arithmetic q expression else fault .missingParens
  else if ← accept "(" then
    return .output q (← script)
  else if ← accept "\x7b" then
    braced parts q
  else
    match ← peek? with
    | none => return z.literal ['$']
    | some c =>
      if isNameStart c then return .parameter q (← takeWhile isNameChar)
      else if c.isDigit || isSpecial c then
        skip 1
        return .parameter q [c]
      else return z.literal ['$']

/-- What stands behind a backslash. -/
def escaped (z : Zone) : Parse (Option Part) := do
  match ← peek? with
  | none => return some (z.literal ['\\'])
  | some '\n' =>
    skip 1
    return none
  | some c =>
    skip 1
    let protects := match z with
      | .bare | .braces false => true
      | .string => c ∈ ['$', '`', '"', '\\']
      | .braces true => c ∈ ['$', '`', '"', '\\', '\x7d']
      | .arithmetic _ | .document => c ∈ ['$', '`', '\\']
    return some (.quoted (if protects then [c] else ['\\', c]))

/-- The parts of a word up to the end of its zone, which stays.  `script` reads a script up to the
parenthesis that closes it, `within` reads a whole text as a script. -/
def parts (script : Parse Command) (within : Octets → Parse Command) :
    Nat → Zone → Parse Word
  | 0, _ => return []
  | bound + 1, z => do
    let more (z : Zone) (part : Part) : Parse Word := do
      return join part (← parts script within bound z)
    match ← peek? with
    | none =>
      match z with
      | .string => fault .unterminatedQuotes
      | _ => return []
    | some c =>
      let here (text : Octets) (z' : Zone) : Parse Word := do
        skip 1
        more z' (z.literal text)
      if c = '\\' then
        skip 1
        match ← escaped z with
        | some part => more z part
        | none => parts script within bound z
      else if c = '$' then
        skip 1
        let part ← expansion (parts script within bound) script z
        more z part
      else if c = '`' then
        skip 1
        let text ← backquoted (z = .string)
        more z (.output z.inQuotes (← within text))
      else
        match z with
        | .bare =>
          if endsWord c then return []
          else if c = '\'' then
            skip 1
            more z (.quoted (← literalString))
          else if c = '"' then quotes bound more z
          else here [c] z
        | .string => if c = '"' then return [] else here [c] z
        | .braces inQuotes =>
          if c = '\x7d' then return []
          else if c = '\'' && !inQuotes then
            skip 1
            more z (.quoted (← literalString))
          else if c = '"' then quotes bound more z
          else here [c] z
        | .arithmetic depth =>
          -- a parenthesis of the expression, not the end of the expansion
          if c = '(' then here [c] (.arithmetic (depth + 1))
          else if c = ')' then
            match depth with
            | 0 => return []
            | depth + 1 => here [c] (.arithmetic depth)
          else here [c] z
        | .document => here [c] z
where
  /-- A string between double quotes, and what follows it. -/
  quotes (bound : Nat) (more : Zone → Part → Parse Word) (z : Zone) : Parse Word := do
    skip 1
    let inner ← parts script within bound .string
    if !(← accept "\"") then fault .unterminatedQuotes
    -- empty quotes still make a word
    if inner.isEmpty then more z (.quoted [])
    else return inner ++ (← parts script within bound z)

/-! ## Tokens -/

/-- Passes over blanks, comments and joined lines. -/
def skipBlanks : Parse Unit := do
  let step : Parse (Option Unit) := do
    match (← get).rest with
    | ' ' :: _ | '\t' :: _ =>
      skip 1
      return some ()
    | '\\' :: '\n' :: _ =>
      skip 2
      return some ()
    | '#' :: _ =>
      let _ ← takeWhile (· ≠ '\n')
      return some ()
    | _ => return none
  let _ ← many step

/-- The operators, longer ones first. -/
def operators : List (String × Operator) :=
  [("&&", .andIf), ("||", .orIf), (";;", .endOfArm), (";", .semicolon), ("&", .ampersand),
   ("|", .bar), ("(", .openParen), (")", .closeParen)]

/-- The signs of redirections, longer ones first, with the streams that they redirect. -/
def redirectSigns : List (String × Nat × RedirectSign) :=
  [("<<-", 0, .here true), ("<<", 0, .here false), ("<&", 0, .to .sameInput),
   ("<>", 0, .to .readWrite), ("<", 0, .to .read), (">>", 1, .to .append),
   (">&", 1, .to .sameOutput), (">|", 1, .to .write), (">", 1, .to .write)]

/-- The sign of a redirection, with a stream that is given in front of it. -/
def redirectSign? (stream : Option Nat) : Parse (Option Token) := do
  for (sign, usual, meaning) in redirectSigns do
    if ← accept sign then return some (.redirect (stream.getD usual) meaning)
  return none

/-- Reads a token. -/
def rawToken (word : Parse Word) : Parse Token := do
  skipBlanks
  match (← get).rest with
  | [] => return .endOfText
  | '\n' :: _ =>
    skip 1
    return .newline
  | c :: rest =>
    -- a digit in front of a sign names the stream that is redirected
    if c.isDigit && (rest.head? = some '<' || rest.head? = some '>') then
      skip 1
      return (← redirectSign? (some (c.toNat - '0'.toNat))).getD .endOfText
    match ← redirectSign? none with
    | some token => return token
    | none =>
      for (sign, op) in operators do
        if ← accept sign then return .operator op
      return .word (← word)

/-- How the next token is read. -/
structure Lookout where
  /-- Are line feeds passed over? -/
  passNewlines : Bool := false
  /-- Do keywords count? -/
  keywords : Bool := false

/-- Line feeds are passed over, and keywords count. -/
def Lookout.fresh : Lookout := ⟨true, true⟩

/-- Keywords count. -/
def Lookout.inLine : Lookout := ⟨false, true⟩

/-- A word as a keyword, if it is one. -/
def asKeyword : Token → Token
  | .word [.plain text] =>
    match Keyword.ofOctets? text with
    | some k => .keyword k
    | none => .word [.plain text]
  | token => token

/-- The readers that a reader of commands needs: of a word, of a command, and of the text that
stands in the script behind a line. -/
structure Readers where
  word : Parse Word
  command : Parse Command
  document : Octets → Parse Word

variable (readers : Readers)

/-- Reads the next token. -/
def token (lookout : Lookout) : Parse Token := do
  let next : Parse Token := do
    match (← get).pending with
    | some t =>
      modify fun s => { s with pending := none }
      return t
    | none => rawToken readers.word
  let newline : Parse (Option Unit) := do
    let t ← next
    match t with
    | .newline => return some ()
    | t =>
      modify fun s => { s with pending := some t }
      return none
  if lookout.passNewlines then
    let _ ← many newline
  let t ← next
  return if lookout.keywords then asKeyword t else t

/-- Puts a token back. -/
def putBack (t : Token) : Parse Unit := modify fun s => { s with pending := some t }

/-- Looks at the next token, which stays. -/
def look (lookout : Lookout) : Parse Token := do
  let t ← token readers lookout
  putBack t
  return t

/-- Passes over a token of a name, or faults. -/
def expect (lookout : Lookout) (name : String) : Parse Unit := do
  let t ← token readers lookout
  if t.name ≠ name then unexpected t (some name)

/-- The name of a keyword in messages. -/
def nameOf (k : Keyword) : String := (Token.keyword k).name

/-! ## Redirections -/

/-- The characters of a word without its quotes, and whether it had any. -/
def unquoted (word : Word) : Octets × Bool :=
  (word.flatMap fun
    | .plain text | .quoted text => text
    | .parameter _ name => '$' :: name
    | _ => [],
   word.any fun
    | .quoted _ => true
    | _ => false)

/-- The lines up to one that is the delimiter, and the text behind that. -/
def cutDocument (delimiter : Octets) (cutTabs : Bool) :
    Nat → Octets → Octets × Nat × Octets
  | 0, text => ([], 0, text)
  | bound + 1, text =>
    if text.isEmpty then ([], 0, [])
    else
      let line := text.takeWhile (· ≠ '\n')
      let rest := text.drop (line.length + 1)
      let line := if cutTabs then line.dropWhile (· = '\t') else line
      if line = delimiter then ([], 1, rest)
      else if !text.contains '\n' then (line, 0, [])
      else
        let (more, lines, rest) := cutDocument delimiter cutTabs bound rest
        (line ++ '\n' :: more, lines + 1, rest)

/-- Cuts the document of a delimiter out of the text behind the current line. -/
def takeDocument (delimiter : Octets) (cutTabs : Bool) : Parse Octets := do
  let s ← get
  let line := s.rest.takeWhile (· ≠ '\n')
  let behind := s.rest.drop (line.length + 1)
  let (content, lines, rest) := cutDocument delimiter cutTabs (behind.length + 1) behind
  set { s with rest := line ++ (if s.rest.length = line.length then [] else '\n' :: rest),
               skipped := s.skipped + lines }
  return content

/-- Reads what a redirection names. -/
def redirect (stream : Nat) (sign : RedirectSign) : Parse Redirect := do
  match ← token readers {} with
  | .word target =>
    match sign with
    | .to kind => return .file stream kind target
    | .here cutTabs =>
      let (delimiter, isQuoted) := unquoted target
      let content ← takeDocument delimiter cutTabs
      if isQuoted then return .here stream [.quoted content]
      else return .here stream (← readers.document content)
  | t => unexpected t none

/-- Reads redirections as long as there are any. -/
def redirects : Parse (List Redirect) :=
  many do
    match ← token readers .inLine with
    | .redirect stream sign => return some (← redirect readers stream sign)
    | t =>
      putBack t
      return none

/-! ## Commands -/

/-- A word as an assignment: a name, an equals sign and the value. -/
def assignment? : Word → Option (Octets × Word)
  | .plain text :: rest =>
    let name := text.takeWhile (· ≠ '=')
    if isName name && name.length < text.length then
      let value := text.drop (name.length + 1)
      some (name, if value.isEmpty then rest else .plain value :: rest)
    else none
  | _ => none

/-- The items of a simple command. -/
inductive Item where
  | assignment (name : Octets) (value : Word)
  | word (parts : Word)
  | redirect (r : Redirect)
  /-- The parentheses behind the name of a function. -/
  | parens

/-- Reads a simple command, or the definition of a function. -/
def simple : Parse Command := do
  let line := (← get).line
  let step (seen : List Item) : Parse (Option Item) := do
    let words := seen.any fun
      | .word _ => true
      | _ => false
    match ← token readers {} with
    | .word parts =>
      -- assignments stand in front of the first word only
      match if words then none else assignment? parts with
      | some (name, value) => return some (.assignment name value)
      | none => return some (.word parts)
    | .redirect stream sign => return some (.redirect (← redirect readers stream sign))
    | .operator .openParen =>
      match seen with
      | [.word _] =>
        expect readers {} (Token.operator .closeParen).name
        return some .parens
      | _ =>
        putBack (.operator .openParen)
        return none
    | t =>
      putBack t
      return none
  let rec collect (seen : List Item) : Nat → Parse (List Item)
    | 0 => return seen
    | bound + 1 => do
      match ← step seen.reverse with
      | none => return seen.reverse
      | some .parens => return seen.reverse ++ [.parens]
      | some item => collect (item :: seen) bound
  let items ← collect [] ((← get).rest.length + 2)
  match items with
  | [.word [.plain name], .parens] =>
    if !isName name then fault .badFunctionName
    let next ← token readers .fresh
    putBack next
    return .define name (← readers.command)
  | [.word _, .parens] => fault .badFunctionName
  | items =>
    let assignments := items.filterMap fun
      | .assignment name value => some (name, value)
      | _ => none
    let words := items.filterMap fun
      | .word parts => some parts
      | _ => none
    let redirects := items.filterMap fun
      | .redirect r => some r
      | _ => none
    return .simple line assignments words redirects

/-- Reads commands joined by `|`. -/
def pipeline : Parse Command := do
  let first ← token readers .fresh
  let negated := match first with
    | .keyword .bang => true
    | _ => false
  if !negated then putBack first
  -- the word behind the sign may be a keyword
  else putBack (← token readers .inLine)
  let stage : Parse (Option Command) := do
    match ← token readers {} with
    | .operator .bar =>
      -- a line may end behind the bar, and a stage may begin with a keyword
      putBack (← token readers .fresh)
      return some (← readers.command)
    | t =>
      putBack t
      return none
  let head ← readers.command
  let more ← many stage
  let command := if more.isEmpty then head else .pipeline (head :: more)
  return if negated then .not command else command

/-- Reads pipelines joined by `&&` and `||`. -/
def andOr : Parse Command := do
  let step : Parse (Option (Bool × Command)) := do
    match ← token readers {} with
    | .operator .andIf => return some (true, ← pipeline readers)
    | .operator .orIf => return some (false, ← pipeline readers)
    | t =>
      putBack t
      return none
  let head ← pipeline readers
  let more ← many step
  return more.foldl
    (fun left (both, right) => if both then .and left right else .or left right) head

/-- Does the token end a list of commands? -/
def endsList : Token → Bool
  | .endOfText | .operator .closeParen | .operator .endOfArm => true
  | .keyword k => k.endsList
  | _ => false

/-- Reads commands up to a token that ends the list, which stays.  A list must not be empty unless
`mayBeEmpty` says so. -/
def list (mayBeEmpty : Bool) : Parse Command := do
  let step (isFirst : Bool) : Parse (Option (Command × Bool)) := do
    let t ← look readers .fresh
    let atEnd := match t with
      | .endOfText => true
      -- where a command has to stand, a closing token is left for the command to refuse
      | t => endsList t && (mayBeEmpty || !isFirst)
    if atEnd then return none
    let command ← andOr readers
    match ← token readers {} with
    | .operator .ampersand => return some (.background command, true)
    | .operator .semicolon | .newline => return some (command, true)
    | t =>
      putBack t
      return some (command, false)
  let rec collect (found : List Command) : Nat → Parse (List Command)
    | 0 => return found.reverse
    | bound + 1 => do
      match ← step found.isEmpty with
      | none => return found.reverse
      | some (command, true) => collect (command :: found) bound
      | some (command, false) => return (command :: found).reverse
  match ← collect [] ((← get).rest.length + 2) with
  | [command] => return command
  | commands => return .sequence commands

/-- Reads the branches of an `if` and what ends it. -/
def choice : Parse Command := do
  let branch : Parse (Command × Command) := do
    let condition ← list readers false
    expect readers .inLine (nameOf .then)
    return (condition, ← list readers false)
  let step : Parse (Option (Command × Command)) := do
    match ← token readers .inLine with
    | .keyword .elif => return some (← branch)
    | t =>
      putBack t
      return none
  let first ← branch
  let more ← many step
  let otherwise ← match ← token readers .inLine with
    | .keyword .else => some <$> list readers false
    | t =>
      putBack t
      pure none
  expect readers .inLine (nameOf .fi)
  return .choose (first :: more) otherwise

/-- Reads what is repeated. -/
def body : Parse Command := do
  expect readers .fresh (nameOf .do)
  let commands ← list readers false
  expect readers .inLine (nameOf .done)
  return commands

/-- Reads what stands behind `for`. -/
def forLoop : Parse Command := do
  match ← token readers {} with
  | .word [.plain name] =>
    if !isName name then fault .badLoopVariable
    match ← token readers .fresh with
    | .keyword .in =>
      let words ← many do
        match ← token readers {} with
        | .word parts => return some parts
        | t =>
          putBack t
          return none
      match ← token readers {} with
      | .newline | .operator .semicolon => return .each name (some words) (← body readers)
      | t => unexpected t none
    | .operator .semicolon => return .each name none (← body readers)
    | t =>
      putBack t
      return .each name none (← body readers)
  | _ => fault .badLoopVariable

/-- Reads an arm of a `case`. -/
def arm : Parse (Option (List Word × Command)) := do
  match ← token readers .fresh with
  | .keyword .esac => return none
  | first =>
    match first with
    | .operator .openParen => pure ()
    | t => putBack t
    let pattern : Parse Word := do
      match ← token readers {} with
      | .word parts => return parts
      | .keyword k => return [.plain k.spelling.toList]
      | t => unexpected t none
    let head ← pattern
    let more ← many do
      match ← token readers {} with
      | .operator .bar => return some (← pattern)
      | t =>
        putBack t
        return none
    expect readers {} (Token.operator .closeParen).name
    let commands ← list readers true
    match ← token readers .fresh with
    | .operator .endOfArm => pure ()
    | .keyword .esac => putBack (.keyword .esac)
    | t => unexpected t (some (Token.operator .endOfArm).name)
    return some (head :: more, commands)

/-- Reads what stands behind `case`. -/
def selection : Parse Command := do
  match ← token readers {} with
  | .word subject =>
    expect readers .fresh (nameOf .in)
    return .select subject (← many (arm readers))
  | t => unexpected t (some "word")

/-- Reads one command with its redirections. -/
def oneCommand : Parse Command := do
  let compound ← match ← token readers .inLine with
    | .keyword .if => some <$> choice readers
    | .keyword .while => do
      let condition ← list readers false
      pure (some (.loop false condition (← body readers)))
    | .keyword .until => do
      let condition ← list readers false
      pure (some (.loop true condition (← body readers)))
    | .keyword .for => some <$> forLoop readers
    | .keyword .case => some <$> selection readers
    | .operator .openParen => do
      let commands ← list readers false
      expect readers .inLine (Token.operator .closeParen).name
      pure (some (.subshell commands))
    | .keyword .openBrace => do
      let commands ← list readers false
      expect readers .inLine (nameOf .closeBrace)
      pure (some commands)
    | t@(.word _) | t@(.redirect ..) => do
      putBack t
      pure none
    | t => unexpected t none
  match compound with
  | none => simple readers
  | some command =>
    match ← redirects readers with
    | [] => return command
    | found => return .redirected command found

/-! ## Scripts -/

/-- Reads the text of the script in a state of its own, and goes on behind it. -/
def apart {α : Type} (text : Octets) (reader : Parse α) : Parse α := do
  let before ← get
  set { rest := text, line := before.line : Scan }
  let result ← reader
  set before
  return result

/-- The readers for scripts whose expansions are nested at most so deep. -/
def readersFor : Nat → Readers
  | 0 => ⟨return [], return default, fun _ => return []⟩
  | depth + 1 =>
    let inner := readersFor depth
    let script : Parse Command := do
      let pending := (← get).pending
      modify fun s => { s with pending := none }
      let commands ← list inner true
      expect inner .inLine (Token.operator .closeParen).name
      modify fun s => { s with pending }
      return commands
    let within (text : Octets) : Parse Command := apart text do
      let commands ← list inner true
      match ← token inner {} with
      | .endOfText => return commands
      | t => unexpected t none
    let zone (z : Zone) : Parse Word := do
      parts script within ((← get).rest.length + 1) z
    ⟨zone .bare, oneCommand inner, fun text => apart text (zone .document)⟩

/-- Reads the next unit of a script: the commands up to the end of their last line. -/
def unit (depth : Nat) : Parse (Option Command) := do
  let readers := readersFor depth
  let step (isFirst : Bool) : Parse (Option (Command × Bool)) := do
    match ← token readers .inLine with
    | .newline => if isFirst then return some (.sequence [], false) else return none
    | .endOfText => return none
    | t =>
      putBack t
      let command ← andOr readers
      match ← token readers {} with
      | .operator .ampersand => return some (.background command, true)
      | .operator .semicolon => return some (command, true)
      | .newline => return some (command, false)
      | .endOfText => return some (command, false)
      | t => unexpected t none
  let rec collect (found : List Command) : Nat → Parse (List Command)
    | 0 => return found.reverse
    | bound + 1 => do
      match ← step found.isEmpty with
      | none => return found.reverse
      | some (command, true) => collect (command :: found) bound
      | some (command, false) => return (command :: found).reverse
  match ← collect [] ((← get).rest.length + 2) with
  | [] => return none
  | [command] => return some command
  | commands => return some (.sequence commands)

end Parse

/-- Reads the next unit of a script. -/
def nextUnit (scan : Scan) : Except SyntaxError (Option Command × Scan) :=
  (Parse.unit (scan.rest.length + 1)).run scan

end TestRig.Shell
