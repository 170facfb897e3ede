/-
  TestRig.Shell.Tool.Listing

  Tools that look at files and directories without changing them.
-/
import TestRig.Shell.Format
import TestRig.Shell.Tool.Basic

namespace TestRig.Shell.Tool

open Run

/-! ## Listings -/

/-- The names in a directory, in the order in which they are listed. -/
def shownNames (a : Arguments) (names : List Octets) : List Octets :=
  let names := if a.has 'a' || a.has 'A' then names else names.filter (·.head? ≠ some '.')
  let names := if a.has 'a' then ['.'] :: ['.', '.'] :: names else names
  let sorted := names.mergeSort Octets.upTo
  if a.has 'r' then sorted.reverse else sorted

/-- The mark behind a name that tells what kind of node it names. -/
def kindMark (a : Arguments) : Node → Octets
  | .directory _ => if a.has 'p' || a.has 'F' then ['/'] else []
  | .link _ => if a.has 'F' && !a.has 'l' then ['@'] else []
  | .file mode _ => if a.has 'F' && mode &&& 0o111 ≠ 0 then ['*'] else []
  | .device _ => []

/-- The letter of a kind of node and its permissions, as nine letters. -/
def modeText (node : Node) : Octets :=
  let kind := match node with
    | .file .. => '-'
    | .directory _ => 'd'
    | .link _ => 'l'
    | .device _ => 'c'
  let bit := fun (n : Nat) (c : Char) => if node.mode &&& n ≠ 0 then c else '-'
  -- the bits beyond the nine change the letter of the right to execute
  let last := fun (extra execute : Nat) (lower upper : Char) =>
    if node.mode &&& extra = 0 then bit execute 'x'
    else if node.mode &&& execute ≠ 0 then lower else upper
  [kind, bit 0o400 'r', bit 0o200 'w', last 0o4000 0o100 's' 'S',
    bit 0o040 'r', bit 0o020 'w', last 0o2000 0o010 's' 'S',
    bit 0o004 'r', bit 0o002 'w', last 0o1000 0o001 't' 'T']

/-- The number of kibibytes that a node takes, in whole blocks. -/
def blocksOfNode : Node → Nat
  | .file _ content => (content.length + 4095) / 4096 * 4
  | .directory _ => 4
  | .link _ | .device _ => 0

/-- How many names a node has: a directory is also the `..` of those in it. -/
def linkCount (fs : FileSystem) (loc : Location) (node : Node) : Nat :=
  if node.isDirectory then
    2 + ((fs.names loc).filter fun name =>
      ((fs.lookup (loc ++ [name])).map Node.isDirectory).getD false).length
  else 1

/-- Texts of one column, with blanks in front up to a common width. -/
def alignRight (texts : List Octets) : List Octets :=
  let width := texts.foldl (fun w t => max w t.length) 0
  texts.map fun t => List.replicate (width - t.length) ' ' ++ t

/-- The lines of named nodes.  In the long form all have the time at which the clock starts. -/
def listed (a : Arguments) (fs : FileSystem) (entries : List (Octets × Location × Node)) :
    List Octets :=
  let shown := entries.map fun (name, _, node) => name ++ kindMark a node
  if a.has 'l' || a.has 'n' then
    let counts := alignRight (entries.map fun (_, loc, node) =>
      (toString (linkCount fs loc node)).toList)
    let sizes := alignRight (entries.map fun (_, _, node) => (toString node.size).toList)
    let owner := (if a.has 'n' then " 0 0 " else " root root ").toList
    let line := fun ((_, _, node), name, count, size) =>
      let target := match node with
        | .link text => " -> ".toList ++ Octets.ofBytes text
        | _ => []
      modeText node ++ ' ' :: count ++ owner ++ size ++ " Jan  1 00:00 ".toList ++ name ++ target
    ((entries.zip (shown.zip (counts.zip sizes))).map line)
  else shown

/-- The entries of a directory with their locations. -/
def entriesAt (a : Arguments) (fs : FileSystem) (loc : Location) :
    List (Octets × Location × Node) :=
  (shownNames a ((fs.names loc).map Octets.ofBytes)).filterMap fun name =>
    let there := if name = ['.'] then loc else if name = ['.', '.'] then loc.dropLast
      else loc ++ [Octets.toBytes name]
    (fs.lookup there).map fun node => (name, there, node)

/-- A directory with its path, and with the directories below it when they are asked for; the
bound is the number of nodes. -/
def groups (a : Arguments) (fs : FileSystem) : Nat → Octets → Location → List (Octets × Location)
  | 0, path, loc => [(path, loc)]
  | bound + 1, path, loc =>
    (path, loc) ::
      if a.has 'R' then
        (entriesAt a fs loc).flatMap fun (name, there, node) =>
          if node.isDirectory && name ≠ ['.'] && name ≠ ['.', '.'] then
            groups a fs bound (path ++ (if path.getLast? = some '/' then [] else ['/']) ++ name)
              there
          else []
      else []

/-- What an operand of `ls` leads to.  A link to a directory is followed, unless the listing is
about the operands themselves; another link is listed itself. -/
def operandNode (a : Arguments) (path : Octets) : Run (Except IoError (Location × Node)) := do
  let kept ← nodeAt path .keep
  if a.has 'd' || a.has 'l' || a.has 'n' || a.has 'F' then return kept
  match ← nodeAt path .follow with
  | .ok (loc, node) => return if node.isDirectory then .ok (loc, node) else kept
  | .error _ => return kept

/-- `ls`: the names in directories. -/
def ls : Tool := withArguments "ls" "aA1drRFhtplnU" [("all", 'a'), ("almost-all", 'A'),
    ("directory", 'd'), ("reverse", 'r'), ("recursive", 'R'), ("classify", 'F'),
    ("color", 'U')] 2 fun a => do
  let operands := if a.operands.isEmpty then [['.']] else a.operands
  let found ← operands.mapM fun path => do
    match ← operandNode a path with
    | .ok (loc, node) => return some (path, loc, node)
    | .error e =>
      cannot "ls" "cannot access" path e
      return none
  let status := if found.any Option.isNone then 2 else 0
  let sorted := (found.filterMap id).mergeSort fun x y => Octets.upTo x.1 y.1
  let ordered := if a.has 'r' then sorted.reverse else sorted
  let isOpened := fun (entry : Octets × Location × Node) =>
    entry.2.2.isDirectory && !a.has 'd'
  let fs := (← get).files
  out (Octets.ofLines (listed a fs (ordered.filter (!isOpened ·))))
  let mut separated := ordered.any (!isOpened ·)
  for (path, loc, _) in ordered.filter isOpened do
    for (path, loc) in groups a fs fs.nodes.length path loc do
      if operands.length > 1 || a.has 'R' then
        out ((if separated then ['\n'] else []) ++ path ++ [':', '\n'])
      separated := true
      let entries := entriesAt a fs loc
      if a.has 'l' || a.has 'n' then
        let total := (entries.map fun (_, _, node) => blocksOfNode node).foldl (· + ·) 0
        print ("total " ++ toString total ++ "\n")
      out (Octets.ofLines (listed a fs entries))
  return status

/-! ## Single nodes -/

/-- `readlink`: the text of symbolic links. -/
def readlink : Tool := withArguments "readlink" "fnevq" [] 1 fun a =>
  if a.operands.isEmpty then misused "readlink" "missing operand".toList 1
  else forEach a.operands fun path => do
    match ← nodeAt path .keep with
    | .ok (_, .link text) =>
      out (Octets.ofBytes text ++ (if a.has 'n' then [] else ['\n']))
      return true
    | result =>
      let e := match result with
        | .error e => e
        | .ok _ => .invalidArgument
      if a.has 'v' then complainAbout "readlink" path e
      return false

/-- A number in octal digits. -/
def octal (n : Nat) : Octets := Nat.toDigits 8 n

/-- The words for the kind of a node. -/
def kindWords : Node → String
  | .file _ [] => "regular empty file"
  | .file .. => "regular file"
  | .directory _ => "directory"
  | .link _ => "symbolic link"
  | .device _ => "character special file"

/-- A format of `stat` with its conversions replaced. -/
def statText (path : Octets) (node : Node) (links : Nat) : Octets → Octets
  | '%' :: c :: rest =>
    (match c with
      | 's' => (toString node.size).toList
      | 'n' => path
      | 'a' => octal node.mode
      | 'A' => modeText node
      | 'h' => (toString links).toList
      | 'F' => (kindWords node).toList
      | 'u' | 'g' => ['0']
      | 'U' | 'G' => "root".toList
      | '%' => ['%']
      | _ => ['?']) ++ statText path node links rest
  | c :: rest => c :: statText path node links rest
  | [] => []

/-- `stat` with a format: sizes, names, permission bits and kinds. -/
def stat : Tool := withArguments "stat" "c:P:L"
    [("format", 'c'), ("printf", 'P'), ("dereference", 'L')] 1 fun a =>
  if a.operands.isEmpty then misused "stat" "missing operand".toList 1
  else forEach a.operands fun path => do
    match ← nodeAt path (if a.has 'L' then .follow else .keep) with
    | .error e =>
      cannot "stat" "cannot statx" path e
      return false
    | .ok (loc, node) =>
      let shown := statText path node (linkCount (← get).files loc node)
      match a.value? 'P' with
      | some format => out (shown (Format.unescape format.length format).1)
      | none => out (shown ((a.value? 'c').getD "%n".toList) ++ ['\n'])
      return true

end TestRig.Shell.Tool
