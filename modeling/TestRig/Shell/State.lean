/-
  TestRig.Shell.State

  A running shell: its variables, its streams and the file system, and the ways in
  which a command can end early.  A command is a change of this state with an exit
  status; ending early keeps the changes that were made up to then.
-/
import TestRig.FileSystem.Access
import TestRig.Shell.Script

namespace TestRig.Shell

/-! ## Characters and bytes -/

/-- The characters that stand for bytes. -/
def Octets.ofBytes (bytes : Bytes) : Octets := bytes.map fun b => Char.ofNat b.toNat

/-- The bytes for which characters stand. -/
def Octets.toBytes (text : Octets) : Bytes := text.map fun c => UInt8.ofNat c.toNat

/-- The characters that stand for the UTF-8 form of a text. -/
def Octets.ofString (text : String) : Octets := ofBytes (Text.encode text)

/-- The lines of a text, without their line feeds. -/
def Octets.lines (text : Octets) : List Octets :=
  match (Text.splitAt '\n' text).reverse with
  | [] :: rest => rest.reverse
  | pieces => pieces.reverse

/-- Does a text stand before another one, or is it the same, in the order of the bytes? -/
def Octets.upTo : Octets → Octets → Bool
  | [], _ => true
  | _ :: _, [] => false
  | c :: a, d :: b => c < d || (c = d && upTo a b)

/-- Lines with a line feed behind each. -/
def Octets.ofLines (lines : List Octets) : Octets := lines.flatMap (· ++ ['\n'])

/-! ## Streams -/

/-- What a stream leads to. -/
inductive Channel where
  /-- Reads as empty; what is written is gone. -/
  | nothing
  /-- Reads as endless zeros. -/
  | zeros
  /-- Holds a text to be read. -/
  | source (rest : Octets)
  /-- Collects what is written, the last piece first. -/
  | sink (pieces : List Octets)
  /-- A file and the place in it. -/
  | file (loc : Location) (offset : Nat) (atEnd : Bool)

/-- What was written to a channel. -/
def Channel.written : Channel → Octets
  | sink pieces => pieces.reverse.flatten
  | _ => []

/-! ## Early ends -/

/-- Why a command did not come to its end. -/
inductive Stop where
  | exit (status : Nat)
  /-- The shell was ended by a signal. -/
  | killed (signal : Nat)
  | timedOut
  /-- The bound on the work of a script was reached. -/
  | exhausted
  | breakLoop (levels : Nat)
  | continueLoop (levels : Nat)
  | returned (status : Nat)
  deriving DecidableEq

/-- A variable. -/
structure Variable where
  name : Octets
  /-- A variable may be marked before it has a value. -/
  value? : Option Octets
  exported : Bool := false
  readOnly : Bool := false

/-- Switches of the shell. -/
structure Options where
  exitOnError : Bool := false
  noUnset : Bool := false
  noGlob : Bool := false
  trace : Bool := false
  verbose : Bool := false
  /-- Commands are read and not carried out. -/
  noExecute : Bool := false
  deriving DecidableEq

/-- A running shell. -/
structure State where
  files : FileSystem
  known : List Variable := []
  functions : List (Octets × Command) := []
  arguments : List Octets := []
  /-- The name under which the shell speaks, and the command that lets it run a text. -/
  name : Octets := ['s', 'h']
  speaker : Option Octets := none
  status : Nat := 0
  options : Options := {}
  /-- What is done on a signal, and on the way out (`EXIT`). -/
  traps : List (String × Octets) := []
  /-- The commands that were not waited for: their numbers and statuses, the last one first. -/
  jobs : List (Nat × Nat) := []
  /-- Signals whose actions are still to be done. -/
  pending : List String := []
  channels : List (Nat × Channel) := []
  /-- The channels of the streams. -/
  streams : List (Nat × Nat) := []
  /-- The nanoseconds that have passed, and those that may pass. -/
  elapsed : Nat := 0
  limit : Option Nat := none
  /-- The line of the command that runs. -/
  line : Nat := 1
  /-- Is the command tested, so that its failure is no error? -/
  tested : Bool := false
  /-- The loops around the command that runs. -/
  loops : Nat := 0
  /-- For each function that runs, the variables that it hides, the innermost one first. -/
  hidden : List (List (Octets × Option Variable)) := []
  /-- The signal that has ended the last process, as long as the shell has not told of it. -/
  fallen : Option Nat := none

/-- Changes of a running shell. -/
abbrev Run := ExceptT Stop (StateM State)

namespace Run

/-! ## Time -/

/-- Lets time pass. -/
def spend (nanos : Nat) : Run Unit := do
  let s ← get
  let elapsed := s.elapsed + nanos
  set { s with elapsed }
  match s.limit with
  | some limit => if limit < elapsed then throw .timedOut
  | none => pure ()

/-- How long it takes to start a process. -/
def startTime : Nat := 1000000

/-! ## Variables -/

/-- A variable. -/
def namedVariable? (name : Octets) : Run (Option Variable) := do
  return (← get).known.find? (·.name = name)

/-- The value of a variable. -/
def valueOf? (name : Octets) : Run (Option Octets) := do
  return (← namedVariable? name).bind (·.value?)

/-- Puts a variable in place of the one of its name. -/
def putVariable (v : Variable) : Run Unit := modify fun s =>
  { s with known := v :: s.known.filter (·.name ≠ v.name) }

/-- Removes a variable. -/
def dropVariable (name : Octets) : Run Unit := modify fun s =>
  { s with known := s.known.filter (·.name ≠ name) }

/-- The variables that processes inherit, as names and values. -/
def environment : Run (List (Octets × Octets)) := do
  return (← get).known.filterMap fun v =>
    if v.exported then v.value?.map fun value => (v.name, value) else none

/-! ## Streams -/

/-- The channel of a stream. -/
def channel? (stream : Nat) : Run (Option (Nat × Channel)) := do
  let s ← get
  return (s.streams.lookup stream).bind fun n => (s.channels.lookup n).map fun c => (n, c)

/-- Replaces a channel. -/
def setChannel (n : Nat) (c : Channel) : Run Unit := modify fun s =>
  { s with channels := s.channels.map fun (m, old) => if m = n then (n, c) else (m, old) }

/-- Opens a channel; the result is its number. -/
def openChannel (c : Channel) : Run Nat := do
  let s ← get
  let n := (s.channels.map (·.1)).foldl max 0 + 1
  set { s with channels := (n, c) :: s.channels }
  return n

/-- Lets a stream lead to a channel. -/
def setStream (stream n : Nat) : Run Unit := modify fun s =>
  { s with streams := (stream, n) :: s.streams.filter (·.1 ≠ stream) }

/-- Forgets a channel. -/
def closeChannel (n : Nat) : Run Unit := modify fun s =>
  { s with channels := s.channels.filter (·.1 ≠ n) }

/-- Closes a stream. -/
def closeStream (stream : Nat) : Run Unit := modify fun s =>
  { s with streams := s.streams.filter (·.1 ≠ stream) }

/-- The channel to which a device or a file at a location leads. -/
def channelAt (loc : Location) (atEnd : Bool) : Run Channel := do
  match (← get).files.lookup loc with
  | some (.device .zero) => return .zeros
  | some (.device .null) => return .nothing
  | _ => return .file loc 0 atEnd

/-- Writes to a stream; a closed one is an error. -/
def tryWrite (stream : Nat) (text : Octets) : Run Bool := do
  match ← channel? stream with
  | none => return text.isEmpty
  | some (n, .sink pieces) =>
    setChannel n (.sink (text :: pieces))
    return true
  | some (n, .file loc offset atEnd) =>
    let s ← get
    let old := s.files.contentAt loc
    let offset := if atEnd then old.length else offset
    let bytes := text.toBytes
    let padding := List.replicate (offset - old.length) 0
    let content := old.take offset ++ padding ++ bytes ++ old.drop (offset + bytes.length)
    set { s with files := s.files.setContent loc content }
    setChannel n (.file loc (offset + bytes.length) atEnd)
    return true
  | some _ => return true

/-- Writes to a stream, come what may. -/
def write (stream : Nat) (text : Octets) : Run Unit := do
  let _ ← tryWrite stream text

/-- Writes to the output. -/
def out (text : Octets) : Run Unit := write 1 text

/-- Writes a text to the output. -/
def print (text : String) : Run Unit := out (Octets.ofString text)

/-- Writes a line to the error stream. -/
def complain (text : Octets) : Run Unit := write 2 (text ++ ['\n'])

/-- How much is read of what has no end. -/
def endless : Nat := 1048576

/-- Reads what is left of a stream, at most `limit` characters of it. -/
def readUpTo (stream : Nat) (limit : Option Nat) : Run Octets := do
  match ← channel? stream with
  | some (_, .zeros) => return List.replicate (limit.getD endless) (Char.ofNat 0)
  | some (n, .source rest) =>
    match limit with
    | none =>
      setChannel n (.source [])
      return rest
    | some limit =>
      setChannel n (.source (rest.drop limit))
      return rest.take limit
  | some (n, .file loc offset atEnd) =>
    let behind := ((← get).files.contentAt loc).drop offset
    let found := match limit with
      | none => behind
      | some limit => behind.take limit
    setChannel n (.file loc (offset + found.length) atEnd)
    return Octets.ofBytes found
  | _ => return []

/-- Reads all that is left of a stream. -/
def readAll (stream : Nat) : Run Octets := readUpTo stream none

/-- Reads a line of a stream with its line feed; at the end the result is empty. -/
def readLine (stream : Nat) : Run Octets := do
  let lineOf (text : Octets) : Octets :=
    let line := text.takeWhile (· ≠ '\n')
    if line.length < text.length then line ++ ['\n'] else line
  match ← channel? stream with
  | some (n, .source rest) =>
    let line := lineOf rest
    setChannel n (.source (rest.drop line.length))
    return line
  | some (n, .file loc offset atEnd) =>
    let line := lineOf (Octets.ofBytes (((← get).files.contentAt loc).drop offset))
    setChannel n (.file loc (offset + line.length) atEnd)
    return line
  | _ => return []

/-! ## Files -/

/-- Changes the file system, or tells why that was refused. -/
def onFiles {α : Type} (f : FileSystem → Except IoError (α × FileSystem)) :
    Run (Except IoError α) := do
  match f (← get).files with
  | .ok (a, files) =>
    modify fun s => { s with files }
    return .ok a
  | .error e => return .error e

/-- Changes the file system with no result. -/
def change (f : FileSystem → Except IoError FileSystem) : Run (Except IoError Unit) :=
  onFiles fun fs => (f fs).map fun fs => ((), fs)

/-- The node to which a path leads. -/
def nodeAt (path : Octets) (last : FileSystem.LastLink) :
    Run (Except IoError (Location × Node)) := do
  return (← get).files.find path.toBytes last

/-- The plain wording of a refusal, without its number. -/
def reason : IoError → Octets
  | .system n => ((IoError.reason? n.toInt).getD "Unknown error").toList
  | e => Octets.ofString e.message

end Run

end TestRig.Shell
