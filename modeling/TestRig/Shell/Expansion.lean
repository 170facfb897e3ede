/-
  TestRig.Shell.Expansion

  From the words of a script to the arguments of a command: values are put in, the
  results are cut into fields at the separators of `IFS`, and patterns are replaced
  by the names that fit them.
-/
import TestRig.Shell.Arithmetic
import TestRig.Shell.Pattern
import TestRig.Shell.State

namespace TestRig.Shell

namespace Run

/-- Writes what is wrong, with the name of the shell, the line, and who says it. -/
def reportAs (speaker : Option Octets) (message : Octets) : Run Unit := do
  let s ← get
  let by_ := match speaker with
    | some name => name ++ ": ".toList
    | none => []
  complain (s.name ++ ": ".toList ++ (toString s.line).toList ++ ": ".toList ++ by_ ++ message)

/-- Writes what is wrong with a command. -/
def report (message : Octets) : Run Unit := do reportAs (← get).speaker message

/-- Ends the shell with an error of its own. -/
def fail {α : Type} (message : Octets) : Run α := do
  report message
  throw (.exit 2)

/-- Gives a variable a value. -/
def assign (name value : Octets) : Run Unit := do
  match ← namedVariable? name with
  | some v =>
    if v.readOnly then fail (name ++ ": is read only".toList)
    putVariable { v with value? := some value }
  | none => putVariable { name, value? := some value }

end Run

namespace Expansion

open Run

/-- A piece of an expanded word. -/
inductive Piece where
  | text (glyphs : List Glyph)
  /-- Quotes with nothing between them, which still make a field. -/
  | present
  /-- The end of a field. -/
  | separator

/-- The glyphs of pieces without regard to fields; separated ones are joined by spaces. -/
def flatten (pieces : List Piece) : List Glyph := pieces.flatMap fun
  | .text glyphs => glyphs
  | .present => []
  | .separator => [⟨' ', .expanded⟩]

/-! ## Parameters -/

/-- The process number of the shell; the ones behind it belong to what it starts. -/
def processId : Nat := 4242

/-- The switches of the shell as letters. -/
def optionLetters (o : Options) : Octets :=
  [(o.exitOnError, 'e'), (o.noGlob, 'f'), (o.noUnset, 'u'), (o.trace, 'x'),
    (o.verbose, 'v')].filterMap
    fun (on, c) => if on then some c else none

/-- The characters that separate fields. -/
def fieldSeparators : Run Octets := do
  return (← valueOf? "IFS".toList).getD [' ', '\t', '\n']

/-- The value of a parameter; `@` and `*` have several and are no case of this. -/
def parameter? (name : Octets) : Run (Option Octets) := do
  let s ← get
  let number := fun (n : Nat) => some (toString n).toList
  match name with
  | ['#'] => return number s.arguments.length
  | ['?'] => return number s.status
  | ['$'] => return number processId
  | ['!'] => return s.jobs.head?.map fun (n, _) => (toString n).toList
  | ['-'] => return some (optionLetters s.options)
  | ['0'] => return some s.name
  | ['@'] | ['*'] =>
    return if s.arguments.isEmpty then none else some ([' '].intercalate s.arguments)
  | name =>
    if name.all Char.isDigit then return s.arguments[Nat.ofDigitChars 10 name 0 - 1]?
    else valueOf? name

/-- The pieces of a value. -/
def ofValue (inQuotes : Bool) (value : Octets) : List Piece :=
  if inQuotes then
    if value.isEmpty then [.present] else [.text (Glyph.ofText .quoted value)]
  else [.text (Glyph.ofText .expanded value)]

/-- The pieces of all arguments. -/
def ofArguments (inQuotes joined : Bool) : Run (List Piece) := do
  let arguments := (← get).arguments
  if inQuotes && joined then
    let separator := (← fieldSeparators).take 1
    return ofValue true (separator.intercalate arguments)
  else
    let pieces := arguments.map (ofValue inQuotes)
    return [Piece.separator].intercalate pieces

/-- The pieces of a parameter. -/
def ofParameter (inQuotes : Bool) (name : Octets) : Run (List Piece) := do
  match name with
  | ['@'] => ofArguments inQuotes false
  | ['*'] => ofArguments inQuotes true
  | name =>
    match ← parameter? name with
    | some value => return ofValue inQuotes value
    | none =>
      if (← get).options.noUnset && name ≠ ['!'] then fail (name ++ ": parameter not set".toList)
      return ofValue inQuotes []

/-! ## Words -/

/-- Lets the plain text of a word in place of a value count as part of that value. -/
def asValue : List Piece → List Piece := List.map fun
  | .text glyphs =>
    .text (glyphs.map fun g => if g.mark = .plain then { g with mark := .expanded } else g)
  | piece => piece

/-- Changes the text between `$((` and `))` into its value. -/
def calculate (text : Octets) : Run Octets := do
  let s ← get
  let value? := fun name => (s.known.find? (·.name = name)).bind (·.value?)
  match Arithmetic.evaluate value? text with
  | .ok (n, assigned) =>
    for (name, value) in assigned do
      assign name (toString value.toInt).toList
    return (toString n.toInt).toList
  | .error fault => fail (fault.message text)

/-- The directory that `~` stands for, at the front of a word. -/
def home (word : Word) : Run (List Piece × Word) := do
  match word with
  | .plain ('~' :: rest) :: more =>
    let name := rest.takeWhile (· ≠ '/')
    let complete := more.isEmpty || name.length < rest.length
    let value ←
      if name.isEmpty then valueOf? "HOME".toList
      else pure (if name = "root".toList then some "/root".toList else none)
    match value with
    | some value =>
      if complete then
        return ([.text (Glyph.ofText .quoted value)], .plain (rest.drop name.length) :: more)
      else return ([], word)
    | none => return ([], word)
  | word => return ([], word)

mutual

/-- The pieces of a part of a word. -/
def ofPart (output : Command → Run Octets) : Part → Run (List Piece)
  | .plain text => return [.text (Glyph.ofText .plain text)]
  | .quoted text => return if text.isEmpty then [.present] else [.text (Glyph.ofText .quoted text)]
  | .parameter q name => ofParameter q name
  | .length q name => do
    let n ← match name with
      | ['@'] | ['*'] => pure (← get).arguments.length
      | name => do
        match ← parameter? name with
        | some value => pure value.length
        | none =>
          if (← get).options.noUnset then fail (name ++ ": parameter not set".toList)
          pure 0
    return ofValue q (toString n).toList
  | .fallback q name orEmpty kind word => do
    let value ← parameter? name
    let missing := match value with
      | none => true
      | some v => orEmpty && v.isEmpty
    let instead : Run (List Piece) := do
      let pieces ← ofParts output word
      return if q then (if pieces.isEmpty then [.present] else pieces) else asValue pieces
    match kind with
    | .default => if missing then instead else ofParameter q name
    | .alternative => if missing then return (if q then [.present] else []) else instead
    | .assign =>
      if missing then
        let text := Glyph.toText (flatten (← instead))
        assign name text
        return ofValue q text
      else ofParameter q name
    | .error =>
      if missing then
        let text := Glyph.toText (flatten (← instead))
        let usual := "parameter not set" ++ (if orEmpty then " or null" else "")
        fail (name ++ ": ".toList ++ (if text.isEmpty then usual.toList else text))
      else ofParameter q name
  | .cut q name end_ longest pattern => do
    match ← parameter? name with
    | none =>
      if (← get).options.noUnset then fail (name ++ ": parameter not set".toList)
      return ofValue q []
    | some value =>
      let glyphs := flatten (← ofParts output pattern)
      return ofValue q ((Pattern.ofGlyphs glyphs).cut end_ longest value)
  | .output q body => do
    let text ← output body
    -- line feeds at the end do not count, and zero bytes are lost
    let text := (text.filter (· ≠ Char.ofNat 0)).reverse.dropWhile (· = '\n') |>.reverse
    return ofValue q text
  | .arithmetic q expression => do
    let text := Glyph.toText (flatten (← ofParts output expression))
    return ofValue q (← calculate text)
  | .malformed => fail "Bad substitution".toList

/-- The pieces of a word. -/
def ofParts (output : Command → Run Octets) : List Part → Run (List Piece)
  | [] => return []
  | part :: rest => do
    let pieces ← ofPart output part
    return pieces ++ (← ofParts output rest)

end

/-- The pieces of a word, with the directory of the user put in. -/
def ofWord (output : Command → Run Octets) (word : Word) : Run (List Piece) := do
  let (front, rest) ← home word
  return front ++ (← ofParts output rest)

/-! ## Fields -/

/-- A word that is being cut into fields. -/
structure Cutting where
  fields : List (List Glyph) := []
  /-- The field that is being read, its last glyph first. -/
  current : Option (List Glyph) := none
  /-- Was the last field ended by a blank? -/
  afterBlank : Bool := false

namespace Cutting

/-- Ends the current field. -/
def close (c : Cutting) (byBlank : Bool) : Cutting :=
  match c.current with
  | some glyphs => ⟨glyphs.reverse :: c.fields, none, byBlank⟩
  | none => c

/-- Takes a glyph. -/
def take (separators : Octets) (c : Cutting) (g : Glyph) : Cutting :=
  if g.mark = .expanded && separators.contains g.char then
    -- blanks only end a field; any other separator also stands for an empty one
    if g.char = ' ' || g.char = '\t' || g.char = '\n' then c.close true
    else if c.current.isSome then c.close false
    else if c.afterBlank then { c with afterBlank := false }
    else { c with fields := [] :: c.fields }
  else { c with current := some (g :: c.current.getD []), afterBlank := false }

end Cutting

/-- The fields of an expanded word. -/
def fieldsOf (separators : Octets) (pieces : List Piece) : List (List Glyph) :=
  let cutting := pieces.foldl (fun (c : Cutting) piece => match piece with
    | .text glyphs => glyphs.foldl (Cutting.take separators) c
    | .present => { c with current := some (c.current.getD []) }
    | .separator => { c.close false with afterBlank := false }) {}
  (cutting.close false).fields.reverse

/-! ## Names -/

/-- The names in a directory that fit a pattern, in ascending order.  Hidden names fit only where
the pattern begins with a point. -/
def namesFitting (fs : FileSystem) (dir : Octets) (p : Pattern) : List Octets :=
  let path := if dir.isEmpty then ['.'] else dir
  let hidden := match p with
    | .char '.' :: _ => true
    | _ => false
  match fs.entries (Octets.toBytes path) with
  | .ok names =>
    let names := names.map Octets.ofBytes
    (names.filter fun n => p.fits n && (hidden || n.head? ≠ some '.')).mergeSort Octets.upTo
  | .error _ => []

/-- The paths that fit a pattern given by its names, behind a path that is settled. -/
def pathsFitting (fs : FileSystem) (settled : Octets) : List (List Glyph) → List Octets
  | [] => []
  | name :: rest =>
    let p := Pattern.ofGlyphs name
    let text := settled ++ Glyph.toText name
    match rest with
    | [] =>
      if p.isActive then (namesFitting fs settled p).map (settled ++ ·)
      else if name.isEmpty || fs.pathExists text.toBytes then [text]
      else []
    | rest =>
      if p.isActive then
        (namesFitting fs settled p).flatMap fun found =>
          let dir := settled ++ found
          if fs.isDirectory dir.toBytes then pathsFitting fs (dir ++ ['/']) rest else []
      else pathsFitting fs (text ++ ['/']) rest

/-- The glyphs between slashes. -/
def namesOf (field : List Glyph) : List (List Glyph) :=
  field.foldr (fun g names =>
    if g.char = '/' then [] :: names
    else match names with
      | name :: more => (g :: name) :: more
      | [] => [[g]]) [[]]

/-- The arguments that a field amounts to. -/
def argumentsOf (fs : FileSystem) (noGlob : Bool) (field : List Glyph) : List Octets :=
  if noGlob || !(Pattern.ofGlyphs field).isActive then [Glyph.toText field]
  else match pathsFitting fs [] (namesOf field) with
    | [] => [Glyph.toText field]
    | found => found

/-! ## Whole words -/

/-- The arguments that words amount to. -/
def arguments (output : Command → Run Octets) (words : List Word) : Run (List Octets) := do
  let found ← words.mapM fun word => do
    let pieces ← ofWord output word
    let separators ← fieldSeparators
    let s ← get
    return (fieldsOf separators pieces).flatMap (argumentsOf s.files s.options.noGlob)
  return found.flatten

/-- The glyphs of a word that is not cut into fields. -/
def glyphs (output : Command → Run Octets) (word : Word) : Run (List Glyph) := do
  return flatten (← ofWord output word)

/-- The text of a word that is not cut into fields. -/
def text (output : Command → Run Octets) (word : Word) : Run Octets := do
  return Glyph.toText (← glyphs output word)

end Expansion

end TestRig.Shell
