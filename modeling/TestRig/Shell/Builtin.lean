/-
  TestRig.Shell.Builtin

  The commands that a shell carries out itself and that run no others.  An error in
  one that belongs to the language ends the shell; in any other one it is a status.
-/
import TestRig.Shell.Condition
import TestRig.Shell.Expansion
import TestRig.Shell.Format
import TestRig.Shell.Parser
import TestRig.Shell.Tool

namespace TestRig.Shell

/-- A command of the shell, from its arguments without its own name. -/
abbrev Builtin := List Octets → Run Nat

namespace Builtin

open Run

/-- A complaint of a command, with status 2. -/
def wrong (name : String) (message : Octets) : Run Nat := do
  reportAs (some name.toList) message
  return 2

/-- An error of a command that ends the shell. -/
def fatal {α : Type} (name : String) (message : Octets) : Run α := do
  reportAs (some name.toList) message
  throw (.exit 2)

/-- Refuses switches other than the given letters. -/
def checked (letters : String) (refuse : Octets → Run Nat) (arguments : List Octets)
    (body : Run Nat) : Run Nat :=
  match arguments with
  | ('-' :: c :: _) :: _ =>
    if c = '-' || letters.contains c then body
    else refuse ("Illegal option -".toList ++ [c])
  | _ => body

/-- A number as the commands of the shell read it: with blanks around it and a sign before it. -/
def number? (text : Octets) : Option Nat :=
  let blank := fun (c : Char) => c = ' ' || (9 ≤ c.toNat && c.toNat ≤ 13)
  let bare := ((text.dropWhile blank).reverse.dropWhile blank).reverse
  let found := match bare with
    | '+' :: ds => Tool.number? ds
    | '-' :: ds => (Tool.number? ds).bind fun n => if n = 0 then some 0 else none
    | ds => Tool.number? ds
  found.bind fun n => if n < 0x80000000 then some n else none

/-- A number among the arguments, or an error that ends the shell. -/
def number (name : String) (text : Octets) : Run Nat :=
  match number? text with
  | some n => return n
  | none => fatal name ("Illegal number: ".toList ++ text)

/-! ## Output -/

/-- Writes to the output; when that is closed, the status is 1. -/
def say (name : String) (text : Octets) : Run Nat := do
  if ← tryWrite 1 text then return 0
  else
    reportAs (some name.toList) (name ++ ": I/O error").toList
    return 1

def echo : Builtin := fun arguments => say "echo" (Format.echo arguments)

def printf : Builtin := fun arguments =>
  match arguments.dropWhile (· = "--".toList) with
  | [] => wrong "printf" "usage: printf format [arg ...]".toList
  | format :: arguments => do
    let p := Format.printf format arguments
    for w in p.warnings do
      reportAs (some "printf".toList) w
    let status ← say "printf" p.text
    match p.error with
    | some message => wrong "printf" message
    | none => return if p.warnings.isEmpty then status else 1

/-! ## Tests -/

def test (name : String) : Builtin := fun words => do
  match Condition.holds (← get).files words with
  | .ok true => return 0
  | .ok false => return 1
  | .error message => wrong name message

def bracket : Builtin := fun words =>
  if words.getLast? = some [']'] then test "[" words.dropLast
  else wrong "[" "missing ]".toList

/-! ## Directories -/

/-- The path of the current directory. -/
def currentPath : Run Octets := do
  let names := (← get).files.current
  return if names.isEmpty then ['/']
    else names.flatMap fun name => '/' :: Octets.ofBytes name

def pwd : Builtin := fun _ => do say "pwd" ((← currentPath) ++ ['\n'])

def cd : Builtin := fun arguments => checked "LP" (wrong "cd") arguments do
  let arguments := arguments.filter fun a => a ≠ "-L".toList && a ≠ "-P".toList && a ≠ "--".toList
  let before ← currentPath
  let (path, shown) ← match arguments with
    | [] => pure ((← valueOf? "HOME".toList).getD [], false)
    | ['-'] :: _ => pure ((← valueOf? "OLDPWD".toList).getD [], true)
    | path :: _ => pure (path, false)
  if path.isEmpty then return 0
  let s ← get
  match s.files.find path.toBytes .follow with
  | .ok (loc, .directory _) =>
    set { s with files := { s.files with current := loc } }
    Run.assign "OLDPWD".toList before
    Run.assign "PWD".toList (← currentPath)
    if shown then out ((← currentPath) ++ ['\n'])
    return 0
  | _ => wrong "cd" ("can't cd to ".toList ++ path)

/-! ## Leaving -/

def exit : Builtin := fun arguments => do
  match arguments with
  | [] => throw (.exit (← get).status)
  | n :: _ => throw (.exit ((← number "exit" n) % 256))

def return_ : Builtin := fun arguments => do
  let status ← match arguments with
    | [] => pure (← get).status
    | n :: _ => number "return" n
  throw (.returned (status % 256))

/-- `break` and `continue`. -/
def leaveLoop (name : String) (stop : Nat → Stop) : Builtin := fun arguments => do
  let levels ← match arguments with
    | [] => pure 1
    | n :: _ => number name n
  if levels = 0 then fatal name ("Illegal number: 0".toList)
  let loops := (← get).loops
  if loops = 0 then return 0
  throw (stop (min levels loops))

/-! ## Variables -/

/-- A text in single quotes, for the shell to read again. -/
def quoted (text : Octets) : Octets :=
  '\'' :: text.flatMap (fun c => if c = '\'' then "'\"'\"'".toList else [c]) ++ ['\'']

/-- The name and the value of an argument such as `x=1`. -/
def binding (argument : Octets) : Octets × Option Octets :=
  let name := argument.takeWhile (· ≠ '=')
  (name, if name.length < argument.length then some (argument.drop (name.length + 1)) else none)

/-- Marks variables, and gives them values on demand. -/
def mark (name : String) (f : Variable → Variable) : Builtin := fun arguments =>
    checked "p" (fatal name) arguments do
  let arguments := arguments.filter (· ≠ "--".toList)
  if arguments.isEmpty || arguments = ["-p".toList] then
    let marked := (← get).known.filter fun v =>
      if name = "export" then v.exported else v.readOnly
    let sorted := marked.mergeSort fun v w => v.name.upTo w.name
    for v in sorted do
      let value := match v.value? with
        | some value => '=' :: quoted value
        | none => []
      out ((name ++ " ").toList ++ v.name ++ value ++ ['\n'])
    return 0
  for argument in arguments do
    let (key, value?) := binding argument
    if !Parse.isName key then fatal name (argument ++ ": bad variable name".toList)
    match value? with
    | some value => Run.assign key value
    | none => pure ()
    putVariable (f ((← namedVariable? key).getD { name := key, value? := none }))
  return 0

def unset : Builtin := fun arguments => checked "fv" (fatal "unset") arguments do
  let functions := arguments.head? = some "-f".toList
  let names := arguments.filter fun a => a ≠ "-f".toList && a ≠ "-v".toList
  for name in names do
    if !Parse.isName name then fatal "unset" (name ++ ": bad variable name".toList)
    if functions then
      modify fun s => { s with functions := s.functions.filter (·.1 ≠ name) }
    else
      match ← namedVariable? name with
      | some v =>
        if v.readOnly then fatal "unset" (name ++ ": is read only".toList)
        dropVariable name
      | none => pure ()
  return 0

/-- Hides variables of the shell while a function runs. -/
def local_ : Builtin := fun arguments => do
  match (← get).hidden with
  | [] => fatal "local" "not in a function".toList
  | top :: rest =>
    let mut hidden := top
    for argument in arguments do
      let (name, value?) := binding argument
      let before ← namedVariable? name
      hidden := (name, before) :: hidden
      match value? with
      | some value => putVariable { name, value? := some value }
      | none => putVariable (before.getD { name, value? := none })
    modify fun s => { s with hidden := hidden :: rest }
    return 0

def shift : Builtin := fun arguments => do
  let n ← match arguments with
    | [] => pure 1
    | n :: _ => number "shift" n
  let s ← get
  if s.arguments.length < n then fatal "shift" "can't shift that many".toList
  set { s with arguments := s.arguments.drop n }
  return 0

/-- The switch of a letter, and how it is set. -/
def withOption (o : Options) (c : Char) (on : Bool) : Option Options :=
  match c with
  | 'e' => some { o with exitOnError := on }
  | 'u' => some { o with noUnset := on }
  | 'f' => some { o with noGlob := on }
  | 'x' => some { o with trace := on }
  | 'v' => some { o with verbose := on }
  | 'n' => some { o with noExecute := on }
  | 'a' | 'b' | 'C' | 'm' | 'h' => some o
  | _ => none

/-- The letter of a long name of a switch. -/
def optionLetter? : String → Option Char
  | "errexit" => some 'e'
  | "nounset" => some 'u'
  | "noglob" => some 'f'
  | "xtrace" => some 'x'
  | "verbose" => some 'v'
  | "noexec" => some 'n'
  | _ => none

/-- Sets switches from arguments; the result is what is left of them, if operands are given. -/
def options : List Octets → Run (Option (List Octets))
  | [] => return none
  | ['-', '-'] :: rest => return some rest
  | [sign, 'o'] :: name :: rest => do
    match optionLetter? (String.ofList name) with
    | some c =>
      modify fun s => { s with options := (withOption s.options c (sign = '-')).getD s.options }
      options rest
    | none => fatal "set" ("Illegal option -o ".toList ++ name)
  | argument :: rest =>
    match argument with
    | '-' :: c :: more | '+' :: c :: more => do
      for letter in c :: more do
        match withOption (← get).options letter (argument.head? = some '-') with
        | some o => modify fun s => { s with options := o }
        | none => fatal "set" ("Illegal option -".toList ++ [letter])
      options rest
    | operand => return some (operand :: rest)

def set_ : Builtin := fun arguments => do
  if arguments.isEmpty then
    for v in (← get).known.mergeSort fun v w => v.name.upTo w.name do
      match v.value? with
      | some value => out (v.name ++ '=' :: quoted value ++ ['\n'])
      | none => pure ()
    return 0
  match ← options arguments with
  | some operands => modify fun s => { s with arguments := operands }
  | none => pure ()
  return 0

/-! ## Reading -/

/-- Cuts a line into values for so many variables; the last one takes what is left. -/
def shareOut (separators : Octets) : Nat → List (Char × Bool) → List Octets
  | 0, _ => []
  | n + 1, line =>
    let isBlank := fun (c : Char × Bool) => !c.2 && separators.contains c.1 &&
      (c.1 = ' ' || c.1 = '\t' || c.1 = '\n')
    let isSeparator := fun (c : Char × Bool) => !c.2 && separators.contains c.1
    let line := line.dropWhile isBlank
    if n = 0 then [((line.reverse.dropWhile isBlank).reverse).map (·.1)]
    else
      let field := line.takeWhile (!isSeparator ·)
      let rest := (line.drop field.length).dropWhile isBlank
      let rest := match rest with
        | c :: more => if (line.drop field.length).head?.map isBlank = some true && !isSeparator c
          then rest else if isSeparator c then more else rest
        | [] => []
      field.map (·.1) :: shareOut separators n rest

/-- A line with its backslashes taken away; characters behind them are marked. -/
def protect : Octets → List (Char × Bool)
  | '\\' :: c :: rest => (c, true) :: protect rest
  | c :: rest => (c, false) :: protect rest
  | [] => []

/-- Reads a line; one that ends in a backslash goes on. -/
def logicalLine (raw : Bool) : Nat → Run (Octets × Bool)
  | 0 => return ([], false)
  | bound + 1 => do
    let line ← readLine 0
    if line.getLast? ≠ some '\n' then return (line, false)
    let body := line.dropLast
    let slashes := (body.reverse.takeWhile (· = '\\')).length
    if !raw && slashes % 2 = 1 then
      let (more, ended) ← logicalLine raw bound
      return (body.dropLast ++ more, ended)
    return (body, true)

def read : Builtin := fun arguments => checked "r" (wrong "read") arguments do
  let raw := arguments.head? = some "-r".toList
  let names := arguments.filter (· ≠ "-r".toList)
  if names.isEmpty then wrong "read" "arg count".toList
  else
    let (line, ended) ← logicalLine raw 1000
    let line := line.filter (· ≠ Char.ofNat 0)
    let marked := if raw then line.map (·, false) else protect line
    let values := shareOut (← Expansion.fieldSeparators) names.length marked
    for (name, value) in names.zip values do
      Run.assign name value
    return if ended then 0 else 1

/-! ## Signals -/

/-- The names of the signals in the order of their numbers; those without a name have a number. -/
def signalNames : List String :=
  ["0", "HUP", "INT", "QUIT", "ILL", "TRAP", "ABRT", "BUS", "FPE", "KILL", "USR1", "SEGV", "USR2",
   "PIPE", "ALRM", "TERM", "16", "CHLD", "CONT", "STOP", "TSTP", "TTIN", "TTOU", "URG", "XCPU",
   "XFSZ", "VTALRM", "PROF", "WINCH", "IO", "PWR", "SYS", "32", "33", "RTMIN"] ++
  (List.range 15).map (fun i => "RTMIN+" ++ toString (i + 1)) ++
  (List.range 14).map (fun i => "RTMAX-" ++ toString (14 - i)) ++ ["RTMAX"]

/-- The signals with their numbers. -/
def signals : List (String × Nat) := signalNames.zipIdx

/-- The signals that do nothing unless there is an action for them. -/
def harmless : List Nat := [0, 17, 18, 23, 28]

/-- What signals do to a process, as the shell puts it; of some it does not speak. -/
def consequences : List (Nat × String) :=
  [(1, "Hangup"), (3, "Quit"), (4, "Illegal instruction"), (5, "Trace/breakpoint trap"),
   (6, "Aborted"), (7, "Bus error"), (8, "Floating point exception"), (9, "Killed"),
   (10, "User defined signal 1"), (11, "Segmentation fault"), (12, "User defined signal 2"),
   (14, "Alarm clock"), (15, "Terminated"), (16, "Stack fault"), (24, "CPU time limit exceeded"),
   (25, "File size limit exceeded"), (26, "Virtual timer expired"),
   (27, "Profiling timer expired"), (29, "I/O possible"), (30, "Power failure"),
   (31, "Bad system call")]

/-- The number of a signal given by number or by name. -/
def signal? (text : Octets) : Option Nat :=
  match Tool.number? text with
  | some n => if n ≤ 64 then some n else none
  | none => signals.lookup (String.ofList (text.map Char.toUpper))

/-- Sends a signal to the shell itself. -/
def raise (n : Nat) : Run Unit := do
  if harmless.contains n then return ()
  let name := ((signals.find? (·.2 = n)).map (·.1)).getD ""
  match (← get).traps.lookup name with
  | some _ =>
    if n = 9 then throw (.killed n)
    modify fun s => { s with pending := s.pending ++ [name] }
  | none => throw (.killed n)

def kill : Builtin := fun arguments => do
  let send (signal : Nat) (targets : List Octets) : Run Nat := do
    if targets.isEmpty then
      wrong "kill" ("Usage: kill [-s sigspec | -signum | -sigspec] [pid | job]... or\n" ++
        "kill -l [exitstatus]").toList
    else
      let mut status := 0
      for target in targets do
        match Tool.number? target with
        | some pid =>
          if pid = Expansion.processId then raise signal
          else
            reportAs (some "kill".toList) "No such process\n".toList
            status := 1
        | none =>
          match target with
          | '%' :: _ =>
            reportAs (some "kill".toList) ("No such job: ".toList ++ target)
            status := 2
          | target =>
            reportAs (some "kill".toList) ("Illegal number: ".toList ++ target)
            status := 2
      return status
  match arguments with
  | [['-', 'l']] =>
    out (Octets.ofLines (signalNames.map String.toList))
    return 0
  | ['-', 'l'] :: n :: _ =>
    match Tool.number? n with
    | some n =>
      print (signalNames.getD (if 128 < n then n - 128 else n) "0" ++ "\n")
      return 0
    | none => wrong "kill" ("Illegal number: ".toList ++ n)
  | ['-', 's'] :: name :: targets =>
    match signal? name with
    | some n => send n targets
    | none => wrong "kill" ("invalid signal number or name: ".toList ++ name)
  | ['-', '-'] :: targets => send 15 targets
  | ('-' :: name) :: targets =>
    match signal? name with
    | some n => send n targets
    | none => wrong "kill" ("Illegal option -".toList ++ name.take 1)
  | targets => send 15 targets

/-- The name under which an action is kept. -/
def trapName? (text : Octets) : Option String :=
  if text = "EXIT".toList || text = ['0'] then some "EXIT"
  else (signal? text).bind fun n => (signals.find? (·.2 = n)).map (·.1)

def trap : Builtin := fun arguments => do
  let arguments := arguments.filter (· ≠ "--".toList)
  let setAll (action : Option Octets) (names : List Octets) : Run Nat := do
    for name in names do
      match trapName? name with
      | some key => modify fun s => { s with
          traps := (match action with
            | some a => [(key, a)]
            | none => []) ++ s.traps.filter (·.1 ≠ key) }
      | none =>
        complain ("trap: ".toList ++ name ++ ": bad trap".toList)
        return 1
    return 0
  match arguments with
  | [] =>
    for (name, action) in (← get).traps.reverse do
      out ("trap -- ".toList ++ quoted action ++ ' ' :: name.toList ++ ['\n'])
    return 0
  | ['-'] :: names => setAll none names
  | [name] => setAll none [name]
  | action :: names => setAll (some action) names

def umask : Builtin := fun arguments => checked "S" (wrong "umask") arguments do
  match arguments with
  | [] =>
    let ds := Nat.toDigits 8 (← get).files.umask
    out (List.replicate (4 - ds.length) '0' ++ ds ++ ['\n'])
    return 0
  | mode :: _ =>
    match Tool.mode? mode with
    | some mode =>
      modify fun s => { s with files := { s.files with umask := mode } }
      return 0
    | none => wrong "umask" ("Illegal number: ".toList ++ mode)

/-! ## Jobs -/

/-- Waits for what was started; all of it has ended already. -/
def wait : Builtin := fun arguments => do
  let mut status := 0
  for argument in arguments do
    match Tool.number? argument with
    | none => return ← wrong "wait" ("Illegal number: ".toList ++ argument)
    | some n => status := ((← get).jobs.lookup n).getD 127
  return status

/-- `fg` and `bg`: no job is left to go on. -/
def noJob (name : String) : Builtin := fun _ => wrong name "No current job".toList

/-! ## The commands by name -/

def nothing : Builtin := fun _ => return 0

/-- A command that writes a text. -/
def writing (text : String) : Builtin := fun _ => do
  print text
  return 0

/-- The commands that belong to the language. -/
def special : List (String × Builtin) :=
  [(":", nothing), ("break", leaveLoop "break" .breakLoop),
   ("continue", leaveLoop "continue" .continueLoop), ("exit", exit),
   ("export", mark "export" fun v => { v with exported := true }),
   ("readonly", mark "readonly" fun v => { v with readOnly := true }), ("return", return_),
   ("set", set_), ("shift", shift),
   ("times", writing "0m0.000000s 0m0.000000s\n0m0.000000s 0m0.000000s\n"), ("trap", trap),
   ("unset", unset)]

/-- The other commands. -/
def ordinary : List (String × Builtin) :=
  [("[", bracket), ("alias", nothing), ("bg", noJob "bg"), ("cd", cd), ("chdir", cd),
   ("echo", echo), ("false", fun _ => return 1), ("fg", noJob "fg"), ("hash", nothing),
   ("jobs", nothing), ("kill", kill), ("local", local_), ("printf", printf), ("pwd", pwd),
   ("read", read), ("test", test "test"), ("true", nothing),
   ("ulimit", writing "unlimited\n"), ("umask", umask), ("wait", wait)]

/-- The names of the commands that run others. -/
def running : List String := [".", "command", "eval", "exec", "type"]

/-- Is the name one of a command of the shell? -/
def isName (name : Octets) : Bool :=
  let word := String.ofList name
  (special.lookup word).isSome || (ordinary.lookup word).isSome || running.contains word

end Builtin

end TestRig.Shell
