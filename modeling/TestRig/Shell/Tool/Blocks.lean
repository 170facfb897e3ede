/-
  TestRig.Shell.Tool.Blocks

  The tool that copies a number of blocks, with settings of the form `name=value`.
-/
import TestRig.Shell.Tool.Basic

namespace TestRig.Shell.Tool

open Run

/-- The settings of `dd`, as they are written. -/
def settings (arguments : List Octets) : List (String × Octets) :=
  arguments.map fun a =>
    let name := a.takeWhile (· ≠ '=')
    (String.ofList name, a.drop (name.length + 1))

/-- The conversions that `dd` knows. -/
def conversions : List String :=
  ["ascii", "ebcdic", "ibm", "block", "unblock", "lcase", "ucase", "sparse", "swab", "sync",
   "noerror", "notrunc", "excl", "nocreat", "fdatasync", "fsync"]

/-- The ways of reading and writing that `dd` knows. -/
def accessFlags : List String :=
  ["append", "cio", "count_bytes", "direct", "directory", "dsync", "fullblock", "noatime",
   "nocache", "noctty", "nofollow", "nolinks", "nonblock", "seek_bytes", "skip_bytes", "sync",
   "text", "binary"]

/-- The words of a setting that `dd` does not know, told with what they are wrong for. -/
def unknownWord? (given : List (String × Octets)) : Option (String × Octets) :=
  given.findSome? fun (name, value) =>
    let unknown := fun (what : String) (words : List String) =>
      ((Text.splitAt ',' value).find? fun w => !words.contains (String.ofList w)).map fun w =>
        (what, w)
    match name with
    | "conv" => unknown "conversion" conversions
    | "iflag" => unknown "input flag" accessFlags
    | "oflag" => unknown "output flag" accessFlags
    | "status" =>
      if ["none", "noxfer", "progress"].contains (String.ofList value) then none
      else some ("status level", value)
    | _ => none

/-- The bytes that `dd` reads, and the line that says how many blocks they are. -/
def blocksOf (size : Nat) (bytes : Nat) : String :=
  toString (bytes / size) ++ "+" ++ (if bytes % size = 0 then "0" else "1")

/-- `dd`: copies a number of blocks. -/
def dd : Tool := fun arguments => do
  let given := settings arguments
  let known := ["if", "of", "bs", "ibs", "obs", "count", "skip", "seek", "status", "conv",
    "iflag", "oflag"]
  match (arguments.zip given).find? fun (a, name, _) =>
      !known.contains name || !a.contains '=' with
  | some (a, _) => misused "dd" ("unrecognized operand ".toList ++ quotePath a) 1
  | none =>
  match unknownWord? given with
  | some (what, word) =>
    misused "dd" ("invalid ".toList ++ what.toList ++ ": ".toList ++ quote word) 1
  | none =>
  let given := given.reverse
  let numbers := ["bs", "ibs", "obs", "count", "skip", "seek"]
  let sizeOf := fun (text : Octets) =>
    ((Text.splitAt 'x' text).mapM size?).map fun ns => ns.foldl (· * ·) 1
  let bad := given.reverse.find? fun (name, value) =>
    numbers.contains name && match sizeOf value with
      | none => true
      | some n => n = 0 && (name = "bs" || name = "ibs" || name = "obs")
  match bad with
  | some (_, value) =>
    complainAs "dd" ("invalid number: ".toList ++ quotePath value)
    return 1
  | none =>
  let number := fun (name : String) => (given.lookup name).bind sizeOf
  let size := (number "bs").getD ((number "ibs").getD 512)
  let outSize := (number "bs").getD ((number "obs").getD 512)
  let skipped := (number "skip").getD 0 * size
  let wanted := (number "count").map (· * size)
  let before := (← get).files
  let source : Except IoError (Option Location) := match given.lookup "if" with
    | none => .ok none
    | some path => (before.find path.toBytes .follow).map fun (loc, _) => some loc
  match source with
  | .error e =>
    cannot "dd" "failed to open" ((given.lookup "if").getD []) e
    return 1
  | .ok source =>
  let keep := (given.lookup "conv").any fun v =>
    (Text.splitAt ',' v).contains "notrunc".toList
  let offset := (number "seek").getD 0 * outSize
  let target : Except IoError (Option Location) ← match given.lookup "of" with
    | none => pure (.ok none)
    | some path => do
      let result ← onFiles fun fs => do
        let (loc, fs) ← fs.openForWriting path.toBytes (!keep && offset = 0) 0o666
        .ok (some loc, fs)
      pure result
  match target with
  | .error e =>
    cannot "dd" "failed to open" ((given.lookup "of").getD []) e
    return 1
  | .ok target =>
  let fs := (← get).files
  let content : Except IoError Bytes ← match source with
    | none => do
      let text ← readUpTo 0 (wanted.map (· + skipped))
      pure (.ok ((Octets.toBytes text).drop skipped))
    | some loc =>
      pure (match fs.lookup loc with
        | some (.directory _) => .error .isDirectory
        | some (.device .zero) => .ok (List.replicate (wanted.getD endless) 0)
        | _ =>
          let behind := (fs.contentAt loc).drop skipped
          .ok (match wanted with
            | some n => behind.take n
            | none => behind))
  match content with
  | .error e =>
    cannot "dd" "error reading" ((given.lookup "if").getD []) e
    return 1
  | .ok bytes =>
    match target with
    | none => out (Octets.ofBytes bytes)
    | some loc =>
      let old := fs.contentAt loc
      let front :=
        if offset = 0 then [] else old.take offset ++ List.replicate (offset - old.length) 0
      let behind := if keep then old.drop (offset + bytes.length) else []
      modify fun s => { s with files := s.files.setContent loc (front ++ bytes ++ behind) }
    match (given.lookup "status").map String.ofList with
    | some "none" => pure ()
    | _ =>
      complain (blocksOf size bytes.length ++ " records in").toList
      complain (blocksOf outSize bytes.length ++ " records out").toList
    return 0

end TestRig.Shell.Tool
