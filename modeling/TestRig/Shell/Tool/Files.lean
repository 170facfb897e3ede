/-
  TestRig.Shell.Tool.Files

  Tools that make files and directories, move them and remove them.
-/
import TestRig.FileSystem.Path
import TestRig.Shell.Tool.Basic

namespace TestRig.Shell.Tool

open Run

/-- Changes the file system for each operand, and complains where that is refused. -/
def changeEach (name what : String) (operands : List Octets)
    (f : Bytes → FileSystem → Except IoError FileSystem) : Run Nat :=
  if operands.isEmpty then misused name "missing operand".toList 1
  else forEach operands fun path => do
    match ← change (f path.toBytes) with
    | .ok () => return true
    | .error e =>
      cannot name what path e
      return false

/-! ## Names -/

/-- The name at the end of a path. -/
def lastName (path : Octets) : Octets :=
  let bare := Octets.ofBytes (FileSystem.withoutSlashes path.toBytes)
  if bare.all (· = '/') then (if bare.isEmpty then [] else ['/'])
  else (Text.splitAt '/' bare).getLast?.getD []

/-- `basename`: the names at the ends of paths, without a given ending. -/
def basename : Tool := withArguments "basename" "as:z" [("multiple", 'a'), ("suffix", 's'),
    ("zero", 'z')] 1 fun a => do
  let many := a.has 'a' || a.has 's'
  match a.operands, many with
  | [], _ => misused "basename" "missing operand".toList 1
  | _ :: _ :: extra :: _, false => misused "basename" ("extra operand ".toList ++ quote extra) 1
  | path :: rest, _ =>
    let (paths, suffix) := if many then (path :: rest, (a.value? 's').getD [])
      else ([path], rest.head?.getD [])
    for path in paths do
      let name := lastName path
      let cut := suffix.length < name.length && suffix.reverse.isPrefixOf name.reverse
      out (if cut then name.take (name.length - suffix.length) else name)
      out [if a.has 'z' then Char.ofNat 0 else '\n']
    return 0

/-- `dirname`: the paths of the directories above. -/
def dirname : Tool := withArguments "dirname" "z" [("zero", 'z')] 1 fun a =>
  if a.operands.isEmpty then misused "dirname" "missing operand".toList 1
  else do
    for path in a.operands do
      let bare := Octets.ofBytes (FileSystem.withoutSlashes path.toBytes)
      let above := bare.take (bare.length - (lastName bare).length)
      let above := Octets.ofBytes (FileSystem.withoutSlashes (Octets.toBytes above))
      out (if bare.all (· = '/') && !bare.isEmpty then ['/']
        else if above.isEmpty then ['.'] else above)
      out [if a.has 'z' then Char.ofNat 0 else '\n']
    return 0

/-! ## Making -/

/-- A mode in octal digits. -/
def mode? (text : Octets) : Option Nat :=
  if text.isEmpty || !text.all (fun c => '0' ≤ c && c ≤ '7') then none
  else
    let mode := Nat.ofDigitChars 8 text 0
    if mode ≤ 0o7777 then some mode else none

/-- The change of permission bits that a clause such as `u+x` asks for. -/
def clause? (isDirectory : Bool) (mode : Nat) (text : Octets) : Option Nat :=
  let who := text.takeWhile fun c => c ∈ ['u', 'g', 'o', 'a']
  match text.drop who.length with
  | op :: what =>
    let applies := fun (c : Char) => who.isEmpty || who.contains 'a' || who.contains c
    let members := (if applies 'u' then 0o4700 else 0) ||| (if applies 'g' then 0o2070 else 0) |||
      (if applies 'o' then 0o1007 else 0)
    let bits := what.foldl (fun n c => n ||| match c with
      | 'r' => 0o444
      | 'w' => 0o222
      | 'x' => 0o111
      | 'X' => if isDirectory || mode &&& 0o111 ≠ 0 then 0o111 else 0
      | 's' => 0o6000
      | _ => 0o1000) 0
    let bits := bits &&& members &&& (if who.isEmpty then 0o7755 else 0o7777)
    if !what.all (['r', 'w', 'x', 'X', 's', 't'].contains ·) then none
    else match op with
    | '+' => some (mode ||| bits)
    | '-' => some (mode - (mode &&& bits))
    | '=' => some (mode - (mode &&& members) ||| bits)
    | _ => none
  | [] => none

/-- The mode that a text asks for, in digits or by clauses, where there is a mode already.  Up to
four digits leave a directory the identity that it gives to what is created in it. -/
def modeAfter? (isDirectory : Bool) (mode : Nat) (text : Octets) : Option Nat :=
  match mode? text with
  | some asked =>
    some (if isDirectory && text.length < 5 then asked ||| (mode &&& 0o6000) else asked)
  | none => (Text.splitAt ',' text).foldlM (clause? isDirectory) mode

/-- Gives the node at a location another mode. -/
def withMode (fs : FileSystem) (loc : Location) (mode : Nat) : FileSystem :=
  match fs.lookup loc with
  | some (.file _ content) => fs.put loc (.file mode content)
  | some (.directory _) => fs.put loc (.directory mode)
  | _ => fs

/-- The path above a path, as it is written. -/
def pathAbove (path : Bytes) : Bytes :=
  let bare := FileSystem.withoutSlashes path
  FileSystem.withoutSlashes (bare.reverse.dropWhile (· ≠ FileSystem.slash)).reverse

/-- Creates a directory and those above it where they are missing; the bound is the length of the
path.  A failure comes with the path that it is about. -/
def makeAll (fs : FileSystem) : Nat → Bytes → Except (Bytes × IoError) FileSystem
  | 0, path => .error (path, .noEntry)
  | bound + 1, path =>
    if fs.isDirectory path then .ok fs
    else do
      let above := pathAbove path
      let fs ← if above.isEmpty then .ok fs
        else (makeAll fs bound above).mapError fun (culprit, e) =>
          (culprit, if e = .alreadyThere then .notDirectory else e)
      (fs.makeDirectory path 0o777).mapError fun e => (path, e)

/-- `mkdir`: creates directories. -/
def mkdir : Tool := withArguments "mkdir" "pm:v" [("parents", 'p'), ("mode", 'm')] 1 fun a => do
  match a.operands, (a.value? 'm').map fun text => (text, modeAfter? true 0o777 text) with
  | [], _ => misused "mkdir" "missing operand".toList 1
  | _, some (text, none) =>
    complainAs "mkdir" ("invalid mode ".toList ++ quote text)
    return 1
  | paths, mode =>
    forEach paths fun path => do
      let fs := (← get).files
      let bytes := Octets.toBytes path
      let made := if a.has 'p' then makeAll fs (path.length + 1) bytes
        else (fs.makeDirectory bytes 0o777).mapError fun e => (bytes, e)
      match made with
      | .ok fs =>
        let loc := (fs.locate bytes .follow).toOption
        let files := match loc, mode.bind (·.2) with
          | some loc, some mode => withMode fs loc mode
          | _, _ => fs
        modify fun s => { s with files }
        return true
      | .error (culprit, e) =>
        complainAs "mkdir" ("cannot create directory ".toList ++ quote (Octets.ofBytes culprit) ++
          ": ".toList ++ reason e)
        return false

/-- `touch`: creates files that are missing. -/
def touch : Tool := withArguments "touch" "camt:d:r:" [("no-create", 'c')] 1 fun a =>
  if a.operands.isEmpty then misused "touch" "missing file operand".toList 1
  else forEach a.operands fun path => do
    let result ← change fun fs =>
      if fs.pathExists path.toBytes || a.has 'c' then .ok fs
      else (fs.openForWriting path.toBytes false 0o666).map (·.2)
    match result with
    | .ok () => return true
    | .error e =>
      cannot "touch" "cannot touch" path e
      return false

/-- `truncate`: gives files a size. -/
def truncate : Tool := withArguments "truncate" "s:c" [("size", 's')] 1 fun a =>
  match a.value? 's' with
  | none => misused "truncate" "you must specify either '--size' or '--reference'".toList 1
  | some value =>
    match size? value with
    | none => do
      complainAs "truncate" ("Invalid number: ".toList ++ quote value)
      return 1
    | some size =>
      if a.operands.isEmpty then misused "truncate" "missing file operand".toList 1
      else forEach a.operands fun path => do
        let result ← change fun fs => do
          let (loc, fs) ← fs.openForWriting path.toBytes false 0o666
          let content := fs.contentAt loc
          .ok (fs.setContent loc (content.take size ++ List.replicate (size - content.length) 0))
        match result with
        | .ok () => return true
        | .error e =>
          complainAs "truncate" ("cannot open ".toList ++ quotePath path ++
            " for writing: ".toList ++ reason e)
          return false

/-- The locations at and below one, without the links. -/
def locationsBelow (fs : FileSystem) (loc : Location) : List Location :=
  (fs.nodes.filter fun (l, node) => loc.isPrefixOf l && !node.isLink).map (·.1)

/-- `chmod`: changes permission bits. -/
def chmod : Tool := fun arguments =>
  let recursive := arguments.head? = some "-R".toList
  match if recursive then arguments.drop 1 else arguments with
  | [] => misused "chmod" "missing operand".toList 1
  | spec :: operands =>
    if (modeAfter? false 0 spec).isNone then
      misused "chmod" ("invalid mode: ".toList ++ quote spec) 1
    else if operands.isEmpty then
      misused "chmod" ("missing operand after ".toList ++ quote spec) 1
    else changeEach "chmod" "cannot access" operands fun path fs => do
      let (loc, _) ← fs.find path .follow
      let changed := fun (fs : FileSystem) (loc : Location) =>
        match (fs.lookup loc).bind fun n => modeAfter? n.isDirectory n.mode spec with
        | some mode => withMode fs loc mode
        | none => fs
      .ok ((if recursive then locationsBelow fs loc else [loc]).foldl changed fs)

/-! ## Removing -/

/-- `rmdir`: removes empty directories. -/
def rmdir : Tool := withArguments "rmdir" "pv" [] 1 fun a =>
  changeEach "rmdir" "failed to remove" a.operands fun path fs => fs.removeDirectory path

/-- `rm`: removes files, and directories on demand. -/
def rm : Tool := withArguments "rm" "rRfdvi" [("recursive", 'r'), ("force", 'f')] 1 fun a =>
  if a.operands.isEmpty then
    if a.has 'f' then return 0 else misused "rm" "missing operand".toList 1
  else forEach a.operands fun path => do
    let result ← change fun fs => do
      let (loc, node) ← fs.find path.toBytes .keep
      if node.isDirectory then
        if a.has 'r' || a.has 'R' then .ok (fs.eraseTree loc) else .error .isDirectory
      else fs.removeFile path.toBytes
    match result with
    | .ok () => return true
    | .error e =>
      if a.has 'f' && (e = .noEntry || e = .notDirectory) then return true
      cannot "rm" "cannot remove" path e
      return false

/-! ## Copying and moving -/

/-- The nodes at a location and below it, at the same places under another location. -/
def treeAt (fs : FileSystem) (source target : Location) : List (Location × Node) :=
  fs.nodes.filterMap fun (loc, node) =>
    if source.isPrefixOf loc then some (target ++ loc.drop source.length, node) else none

/-- The path of a source below a target, if that is a directory. -/
def destination (fs : FileSystem) (source target : Octets) : Octets :=
  if fs.isDirectory target.toBytes then
    Octets.ofBytes (FileSystem.withoutSlashes target.toBytes) ++ '/' :: lastName source
  else target

/-- Copies one source. -/
def copyTo (recursive : Bool) (source target : Octets) (fs : FileSystem) :
    Except IoError FileSystem := do
  let (loc, node) ← fs.find source.toBytes (if recursive then .keep else .follow)
  let target := destination fs source target
  match node with
  | .directory _ =>
    if !recursive then throw .isDirectory
    let dest ← fs.locate target.toBytes .follow
    .ok ((treeAt fs loc dest).reverse.foldl (fun fs (l, n) => fs.put l n) fs)
  | .link text => do
    let dest ← fs.locate target.toBytes .keep
    .ok (fs.put dest (.link text))
  | .device _ => do
    let (dest, fs) ← fs.openForWriting target.toBytes true 0o666
    .ok (fs.setContent dest [])
  | .file mode content => do
    let (dest, fs) ← fs.openForWriting target.toBytes true mode
    if dest = loc then throw .invalidArgument
    .ok (fs.setContent dest content)

/-- Moves one source. -/
def moveTo (source target : Octets) (fs : FileSystem) : Except IoError FileSystem := do
  let (loc, _) ← fs.find source.toBytes .keep
  let dest ← fs.locate (destination fs source target).toBytes .keep
  if loc = dest then throw .invalidArgument
  let tree := treeAt fs loc dest
  let fs := (fs.eraseTree loc).eraseTree dest
  .ok (tree.reverse.foldl (fun fs (l, n) => fs.put l n) fs)

/-- Copies or moves sources to the last operand. -/
def transfer (name : String) (operands : List Octets)
    (f : Octets → Octets → FileSystem → Except IoError FileSystem) : Run Nat := do
  match operands.reverse with
  | [] => misused name "missing file operand".toList 1
  | [source] =>
    misused name ("missing destination file operand after ".toList ++ quotePath source) 1
  | target :: sources =>
    if sources.length > 1 && !(← get).files.isDirectory target.toBytes then
      complainAs name ("target ".toList ++ quotePath target ++ ": No such file or directory".toList)
      return 1
    forEach sources.reverse fun source => do
      let fs := (← get).files
      match ← nodeAt source .keep with
      | .error e =>
        cannot name "cannot stat" source e
        return false
      | .ok (_, node) =>
        match ← change (f source target) with
        | .ok () => return true
        | .error e =>
          let dest := destination fs source target
          if e = .isDirectory && node.isDirectory then
            complainAs name ("-r not specified; omitting directory ".toList ++ quotePath source)
          else if e = .invalidArgument then
            complainAs name (quotePath source ++ " and ".toList ++ quotePath dest ++
              " are the same file".toList)
          else if name = "mv" then
            complainAs name ("cannot move ".toList ++ quotePath source ++ " to ".toList ++
              quotePath dest ++ ": ".toList ++ reason e)
          else
            cannot name "cannot create regular file" dest
              (if e = .isDirectory && dest.getLast? = some '/' then .notDirectory else e)
          return false

/-- `cp`: copies files, and directories on demand. -/
def cp : Tool := withArguments "cp" "rRafpv" [("recursive", 'r')] 1 fun a =>
  transfer "cp" a.operands (copyTo (a.has 'r' || a.has 'R' || a.has 'a'))

/-- `mv`: moves files and directories. -/
def mv : Tool := withArguments "mv" "fnv" [("force", 'f')] 1 fun a =>
  transfer "mv" a.operands moveTo

/-- Makes one link; a failure comes with the form of its complaint. -/
def linkTo (a : Arguments) (target link : Octets) (fs : FileSystem) :
    Except Octets FileSystem := do
  let path := destination fs target link
  let fs := if a.has 'f' then ((fs.removeFile path.toBytes).toOption).getD fs else fs
  let told := fun (what : String) (more : Octets) (e : IoError) =>
    what.toList ++ more ++ ": ".toList ++ reason e
  if a.has 's' then
    (fs.makeLink target.toBytes path.toBytes).mapError fun e =>
      told "failed to create symbolic link " (quotePath path ++
        (if target.isEmpty then " -> ".toList ++ quotePath target else [])) e
  else
    let (_, node) ← (fs.find target.toBytes .keep).mapError
      (told "failed to access " (quotePath target))
    if node.isDirectory then
      throw (showPath target ++ ": hard link not allowed for directory".toList)
    let failed := fun (e : IoError) => told "failed to create hard link " (quotePath path ++
      (if e = .alreadyThere then [] else " => ".toList ++ quotePath target)) e
    let dest ← (fs.locate path.toBytes .keep).mapError failed
    if (fs.lookup dest).isSome then throw (failed .alreadyThere)
    .ok (fs.put dest node)

/-- `ln`: makes links. -/
def ln : Tool := withArguments "ln" "sfnv" [("symbolic", 's'), ("force", 'f')] 1 fun a => do
  let fs := (← get).files
  let targets := a.operands.dropLast
  match a.operands, a.operands.getLast? with
  | _, none => misused "ln" "missing file operand".toList 1
  | [target], _ => forEach [target] (make a ['.'])
  | _, some link =>
    if targets.length > 1 && !fs.isDirectory link.toBytes then
      let e := if fs.pathExists link.toBytes then IoError.notDirectory else .noEntry
      complainAs "ln" ("target ".toList ++ quotePath link ++ ": ".toList ++ reason e)
      return 1
    else forEach targets (make a link)
where
  make (a : Arguments) (link target : Octets) : Run Bool := do
    match linkTo a target link (← get).files with
    | .ok files =>
      modify fun s => { s with files }
      return true
    | .error message =>
      complainAs "ln" message
      return false

end TestRig.Shell.Tool
