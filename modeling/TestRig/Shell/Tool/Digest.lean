/-
  TestRig.Shell.Tool.Digest

  Tools that compute digests of files, and those that write bytes as text.
-/
import TestRig.Digest.Basic
import TestRig.Shell.Tool.Basic
import TestRig.Text.Base64

namespace TestRig.Shell.Tool

open Run

/-! ## Digests -/

/-- A name as digest tools write it: with escapes, which a backslash in front of the line
announces. -/
def escapedName (name : Octets) : Octets × Octets :=
  let escaped := name.flatMap fun c =>
    if c = '\\' then ['\\', '\\'] else if c = '\n' then ['\\', 'n'] else [c]
  (if escaped = name then [] else ['\\'], escaped)

/-- What a line of a list of digests says: the digits, in lower case, and the name of the file. -/
def entry? (algorithm : Digest.Algorithm) (line : Octets) : Option (Octets × Octets) :=
  let width := 2 * (Digest.ofMessage algorithm []).bytes.length
  let isDigit := fun (c : Char) => c.isDigit || ('a' ≤ c.toLower && c.toLower ≤ 'f')
  let entry := fun (digits name : Octets) =>
    if digits.length = width && digits.all isDigit && !name.isEmpty then
      some (digits.map Char.toLower, name)
    else none
  let tag := (algorithm.name.toUpper ++ " (").toList
  if tag.isPrefixOf line then
    let back := line.reverse
    let digits := (back.take width).reverse
    match back.drop width with
    | ' ' :: '=' :: ' ' :: ')' :: name => entry digits (name.reverse.drop tag.length)
    | _ => none
  else
    match line.drop width with
    | ' ' :: ' ' :: name | ' ' :: '*' :: name => entry (line.take width) name
    | _ => none

/-- A number of things, and the wording of what is wrong with one or with several. -/
def warning (n : Nat) (one several : String) : String :=
  "WARNING: " ++ toString n ++ " " ++ (if n = 1 then one else several)

/-- Verifies the files of one list of digests; did all of them pass? -/
def verify (name : String) (algorithm : Digest.Algorithm) (a : Arguments) (list : Octets)
    (lines : List Octets) : Run Bool := do
  let silent := a.has 's'
  let mut formed := 0
  let mut malformed := 0
  let mut unread := 0
  let mut unequal := 0
  let mut equal := 0
  for (line, i) in lines.zipIdx do
    match entry? algorithm line with
    | none =>
      malformed := malformed + 1
      if a.has 'w' then
        complainAs name (showPath list ++ (": " ++ toString (i + 1) ++ ": improperly formatted " ++
          algorithm.name.toUpper ++ " checksum line").toList)
    | some (digits, file) =>
      formed := formed + 1
      match ← withOperand file readAll with
      | .error e =>
        if !(a.has 'i' && e = .noEntry) then
          complainAbout name file e
          unread := unread + 1
          if !silent then out (file ++ ": FAILED open or read\n".toList)
      | .ok text =>
        if (Digest.ofMessage algorithm text.toBytes).toHex.toList = digits then
          equal := equal + 1
          if !silent && !a.has 'q' then out (file ++ ": OK\n".toList)
        else
          unequal := unequal + 1
          if !silent then out (file ++ ": FAILED\n".toList)
  let complainOf := fun (n : Nat) (one several : String) =>
    if n ≠ 0 && !silent then complainAs name (warning n one several).toList else return ()
  if formed = 0 then
    complainAs name (showPath list ++ ": no properly formatted checksum lines found".toList)
  else
    complainOf malformed "line is improperly formatted" "lines are improperly formatted"
    complainOf unread "listed file could not be read" "listed files could not be read"
    complainOf unequal "computed checksum did NOT match" "computed checksums did NOT match"
    if a.has 'i' && equal = 0 && unequal = 0 && unread = 0 then
      complainAs name (showPath list ++ ": no file was verified".toList)
  return equal ≠ 0 && unread = 0 && unequal = 0 && (malformed = 0 || !a.has 'S')

/-- The line that a tool such as `md5sum` writes for a file. -/
def sumLine (algorithm : Digest.Algorithm) (a : Arguments) (mode : Char) (file text : Octets) :
    Octets :=
  let digest := (Digest.ofMessage algorithm text.toBytes).toHex.toList
  let (mark, shown) := if a.has 'z' then ([], file) else escapedName file
  let line :=
    if a.has 'T' then (algorithm.name.toUpper ++ " (").toList ++ shown ++ ") = ".toList ++ digest
    else digest ++ [' ', if mode = 'b' then '*' else ' '] ++ shown
  mark ++ line ++ (if a.has 'z' then [Char.ofNat 0] else ['\n'])

/-- Why switches of a tool such as `md5sum` cannot go together.  `mode` is the last one of those
that tell bytes from text, if there is one. -/
def clash? (a : Arguments) (mode : Option Char) : Option String :=
  let verifying := " when verifying checksums"
  if a.has 'T' && mode = some 't' then some "--tag does not support --text mode"
  else if a.has 'c' then
    if a.has 'z' then some ("the --zero option is not supported" ++ verifying)
    else if a.has 'T' then some ("the --tag option is meaningless" ++ verifying)
    else if mode.isSome then
      some ("the --binary and --text options are meaningless" ++ verifying)
    else none
  else
    let alone := [('i', "ignore-missing"), ('s', "status"), ('w', "warn"), ('q', "quiet"),
      ('S', "strict")]
    (alone.find? fun (c, _) => a.has c).map fun (_, word) =>
      "the --" ++ word ++ " option is meaningful only when verifying checksums"

/-- A tool such as `md5sum`: writes digests with the names of the files, or verifies them. -/
def sum (name : String) (algorithm : Digest.Algorithm) : Tool :=
  withArguments name "bctwz" [("binary", 'b'), ("check", 'c'), ("ignore-missing", 'i'),
    ("quiet", 'q'), ("status", 's'), ("strict", 'S'), ("tag", 'T'), ("text", 't'), ("warn", 'w'),
    ("zero", 'z')] 1 fun a => do
  let modes := a.switches.filter fun (c, _) => c = 'b' || c = 't' || c = 'T'
  let mode := (modes.getLast?).map (·.1)
  match clash? a mode with
  | some message => misused name message.toList 1
  | none =>
    let mut status := 0
    for operand in if a.operands.isEmpty then [['-']] else a.operands do
      match ← withOperand operand readAll with
      | .error e =>
        complainAbout name operand e
        status := 1
      | .ok text =>
        if a.has 'c' then
          let shown := if operand = ['-'] then "standard input".toList else operand
          let lines := Text.splitAt '\n' (if text.getLast? = some '\n' then text.dropLast else text)
          if !(← verify name algorithm a shown (if text.isEmpty then [] else lines)) then
            status := 1
        else out (sumLine algorithm a (mode.getD 't') operand text)
    return status

/-- Writes the digests of files, or of the input, in the forms of `openssl`: bare bytes, digits
before the name, or digits behind it. -/
def writeDigests (algorithm : Digest.Algorithm) (label : String)
    (switches operands : List Octets) : Run Nat := do
  let form := fun (name : String) => switches.contains ('-' :: name.toList)
  let mut status := 0
  for operand in if operands.isEmpty then [['-']] else operands do
    let shown := if operands.isEmpty then "stdin".toList else operand
    let content ← if operands.isEmpty then .ok <$> readAll 0 else withFile operand readAll
    match content with
    | .error e =>
      complain ("Can't open ".toList ++ operand ++ " for reading, ".toList ++ reason e)
      status := 1
    | .ok text =>
      let digest := Digest.ofMessage algorithm text.toBytes
      if form "binary" then out (Octets.ofBytes digest.bytes)
      else if form "r" then out (digest.toHex.toList ++ " *".toList ++ shown ++ ['\n'])
      else out (label.toList ++ '(' :: shown ++ ")= ".toList ++ digest.toHex.toList ++ ['\n'])
  return status

/-- `openssl`: digests of files. -/
def openssl : Tool := fun arguments => do
  let isAlgorithm := fun (name : Octets) =>
    (Digest.Algorithm.ofName? (String.ofList name)).isSome
  -- the algorithm that is used when none is named goes by another label
  let (command, rest, unnamed) := match arguments with
    | c :: rest => if c = "dgst".toList then
        match rest with
        | ('-' :: name) :: more =>
          if isAlgorithm name then (name, more, false) else ("sha256".toList, rest, true)
        | rest => ("sha256".toList, rest, true)
      else (c, rest, false)
    | [] => ([], [], false)
  match Digest.Algorithm.ofName? (String.ofList command) with
  | none =>
    complain ("Invalid command '".toList ++ command ++ "'; type \"help\" for a list.".toList)
    return 1
  | some algorithm =>
    let isSwitch := fun (a : Octets) => a.head? = some '-' && a.length > 1
    let (switches, operands) := rest.partition isSwitch
    let known := ["-binary", "-hex", "-r", "-c"]
    match switches.find? fun a => !known.contains (String.ofList a) with
    | some bad =>
      complain
        (algorithm.name.toList ++ ": Unknown option or message digest: ".toList ++ bad.drop 1)
      complain (algorithm.name ++ ": Use -help for summary.").toList
      return 1
    | none =>
      let label := match algorithm with
        | .md5 => "MD5"
        | .sha256 => if unnamed then "SHA256" else "SHA2-256"
      writeDigests algorithm label switches operands

/-! ## Bytes as text -/

/-- A text in lines of a width. -/
def wrapped (width : Nat) : Nat → Octets → Octets
  | 0, text => text
  | bound + 1, text =>
    if text.isEmpty then []
    else text.take width ++ '\n' :: wrapped width bound (text.drop width)

/-- The bytes that base64 text stands for as far as it is well formed, and whether all of it is. -/
def unwrapped (text : Octets) : Octets × Bool :=
  match Text.Base64.decode? text with
  | some bytes => (Octets.ofBytes bytes, true)
  | none =>
    let digits := text.takeWhile fun c => (Text.Base64.value? c).isSome
    let bytes := 6 * digits.length / 8
    let whole := digits ++ List.replicate ((4 - digits.length % 4) % 4) 'A'
    (((Text.Base64.decode? whole).map fun b => (Octets.ofBytes b).take bytes).getD [], false)

/-- `base64`: bytes as base64 in lines, and back. -/
def base64 : Tool := withAtMost 1 "base64" "diw:" [("decode", 'd'), ("wrap", 'w')] 1 fun a => do
  let complaint := fun path e =>
    if e = .isDirectory then complainAs "base64" ("read error: ".toList ++ reason e)
    else complainAbout "base64" path e
  let (text, status) ← input complaint a.operands
  if a.has 'd' then
    let kept := text.filter fun c => c ≠ '\n' && (!a.has 'i' || c.isAlphanum || c ∈ ['+', '/', '='])
    let (bytes, whole) := unwrapped kept
    out bytes
    if whole then return status
    else
      complainAs "base64" "invalid input".toList
      return 1
  else
    let shown := (Text.Base64.encode text.toBytes).toList
    match ((a.value? 'w').map number?).getD (some 76) with
    | none =>
      complainAs "base64" ("invalid wrap size: ".toList ++ quote ((a.value? 'w').getD []))
      return 1
    | some 0 => out shown
    | some width => out (wrapped width (shown.length + 1) shown)
    return status

/-- Two hexadecimal digits. -/
def hexByte (c : Char) : Octets :=
  let ds := Nat.toDigits 16 c.toNat
  if ds.length = 1 then '0' :: ds else ds

/-- A group of bytes as `od` writes them. -/
def odItem (kind : Char) (c : Char) : Octets :=
  match kind with
  | 'x' => ' ' :: hexByte c
  | 'c' =>
    let shown := match c.toNat with
      | 0 => "\\0"
      | 7 => "\\a"
      | 8 => "\\b"
      | 9 => "\\t"
      | 10 => "\\n"
      | 11 => "\\v"
      | 12 => "\\f"
      | 13 => "\\r"
      | n => if 32 ≤ n && n < 127 then String.ofList [c]
        else
          let ds := Nat.toDigits 8 n
          String.ofList (List.replicate (3 - ds.length) '0' ++ ds)
    List.replicate (4 - shown.length) ' ' ++ shown.toList
  | 'u' =>
    let ds := Nat.toDigits 10 c.toNat
    List.replicate (4 - ds.length) ' ' ++ ds
  | _ =>
    let ds := Nat.toDigits 8 c.toNat
    ' ' :: List.replicate (3 - ds.length) '0' ++ ds

/-- The lines of `od`, of sixteen bytes each. -/
def odLines (kind : Char) (addresses : Bool) (offset : Nat) : Nat → Octets → Octets
  | 0, _ => []
  | bound + 1, text =>
    let ds := Nat.toDigits 8 offset
    let address := if addresses then List.replicate (7 - ds.length) '0' ++ ds else []
    if text.isEmpty then (if addresses then address ++ ['\n'] else [])
    else
      let line := text.take 16
      address ++ line.flatMap (odItem kind) ++ '\n' ::
        odLines kind addresses (offset + line.length) bound (text.drop 16)

/-- `od`: bytes in digits or as characters, one by one. -/
def od : Tool := withArguments "od" "A:t:vcbxN:" [("address-radix", 'A'), ("format", 't')] 1
    fun a => do
  let (found, status) ← inputs (complainAbout "od") a.operands
  -- without any input there is not even an address
  if found.isEmpty then return status
  let text := found.flatMap (·.2)
  let text := match (a.value? 'N').bind number? with
    | some n => text.take n
    | none => text
  let kind := if a.has 'c' then 'c' else ((a.value? 't').bind List.head?).getD 'o'
  out (odLines kind (a.value? 'A' ≠ some ['n']) 0 (text.length + 2) text)
  return status

end TestRig.Shell.Tool
