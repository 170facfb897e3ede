/-
  TestRig.Shell.Eval

  Running commands.  `exec` goes through a command and is bounded by the depth to
  which commands are nested, functions included; loops are bounded by a number of
  turns.  The functions in front of it take the way in which commands are run as a
  parameter.
-/
import TestRig.Shell.Builtin
import TestRig.Shell.Parser

namespace TestRig.Shell

namespace Run

/-! ## Redirections -/

/-- The words of the shell for a refusal. -/
def shellReason (creating : Bool) (e : IoError) : Octets :=
  if e = .noEntry || e = .notDirectory then
    (if creating then "Directory nonexistent" else "No such file").toList
  else reason e

/-- Opens a path as a redirection asks for it. -/
def openPath (path : Octets) (kind : RedirectKind) : Run (Except Octets Channel) := do
  let failed (creating : Bool) (e : IoError) : Except Octets Channel :=
    .error ((if creating then "cannot create " else "cannot open ").toList ++ path ++
      ": ".toList ++ shellReason creating e)
  match kind with
  | .read | .sameInput =>
    match ← nodeAt path .follow with
    | .ok (loc, _) => return .ok (← channelAt loc false)
    | .error e => return failed false e
  | kind =>
    -- a file that is opened for appending or both ways keeps its content
    let result ← onFiles fun fs => fs.openForWriting path.toBytes (kind = .write) 0o666
    match result with
    | .ok loc => return .ok (← channelAt loc (kind = .append))
    | .error e => return failed true e

/-- Carries out a redirection, or tells why it cannot be. -/
def redirect (output : Command → Run Octets) (r : Redirect) : Run (Option Octets) := do
  match r with
  | .here stream content =>
    let text ← Expansion.text output content
    setStream stream (← openChannel (.source text))
    return none
  | .file stream kind target =>
    let path ← Expansion.text output target
    let same := kind = .sameInput || kind = .sameOutput
    if same && path = ['-'] then
      closeStream stream
      return none
    else if same then
      match Tool.number? path with
      | none => return some "Bad fd number".toList
      | some other =>
        match (← get).streams.lookup other with
        | some n =>
          setStream stream n
          return none
        | none => return some (path ++ ": Bad file descriptor".toList)
    else
      match ← openPath path kind with
      | .ok channel =>
        setStream stream (← openChannel channel)
        return none
      | .error message => return some message

/-- Carries out redirections up to the first one that fails. -/
def redirectAll (output : Command → Run Octets) : List Redirect → Run (Option Octets)
  | [] => return none
  | r :: rest => do
    match ← redirect output r with
    | none => redirectAll output rest
    | some message => return some message

/-- Runs something and brings back the streams as they were, however it ends. -/
def keepingStreams {α : Type} (body : Run α) : Run α := do
  let streams := (← get).streams
  let restore : Run Unit := modify fun s => { s with streams }
  let result ← tryCatch (Except.ok <$> body) fun stop => return .error stop
  restore
  match result with
  | .ok a => return a
  | .error stop => throw stop

/-! ## Subshells -/

/-- Runs something with a change of the state that `restore` undoes, however it ends. -/
def within {α : Type} (restore : State → State → State) (body : Run α) : Run (Except Stop α) := do
  let before ← get
  let result ← tryCatch (Except.ok <$> body) fun stop => return .error stop
  modify fun after => restore before after
  return result

/-- What a subshell leaves behind: the files, the channels and the time. -/
def leave (before after : State) : State :=
  { before with
    files := { after.files with current := before.files.current, umask := before.files.umask }
    channels := after.channels
    elapsed := after.elapsed
    pending := after.pending }

/-- The status that an early end of a subshell amounts to; some ends are those of the whole. -/
def statusOf : Stop → Run Nat
  | .exit n | .returned n => return n
  | .breakLoop _ | .continueLoop _ => return 0
  | stop => throw stop

/-- Runs the text of a script unit by unit, in the current shell; the bound is its length. -/
def runText (run : Command → Run Nat) (scan : Scan) (status : Nat) : Nat → Run Nat
  | 0 => return status
  | bound + 1 => do
    match nextUnit scan with
    | .error e =>
      modify fun s => { s with line := e.line }
      Run.fail ("Syntax error: ".toList ++ e.fault.message.toList)
    | .ok (none, _) => return status
    | .ok (some command, scan) => do
      let status ← run command
      runText run scan status bound

/-- Runs the text of a script in the current shell. -/
def script (run : Command → Run Nat) (text : Octets) : Run Nat :=
  runText run { rest := text } 0 (text.length + 1)

/-- Runs the text of a script for a command that is named in its complaints. -/
def scriptFor (speaker : Octets) (run : Command → Run Nat) (text : Octets) : Run Nat := do
  let before := (← get).speaker
  modify fun s => { s with speaker := some speaker }
  let result ← tryCatch (Except.ok <$> script run text) fun stop => return .error stop
  modify fun s => { s with speaker := before }
  match result with
  | .ok n => return n
  | .error stop => throw stop

/-- Does what was asked for on the way out, and goes out. -/
def leaving (run : Command → Run Nat) (body : Run Nat) : Run Nat := do
  let result ← tryCatch (Except.ok <$> body) fun stop => return .error stop
  let status ← match result with
    | .ok n => pure n
    | .error stop => statusOf stop
  match (← get).traps.lookup "EXIT" with
  | none => return status
  | some action => do
    -- the action itself must not run again when it leaves
    modify fun s => { s with traps := s.traps.filter (·.1 ≠ "EXIT"), status }
    tryCatch (do
      let _ ← script run action
      return status) statusOf

/-- Runs something as a subshell. -/
def subshell (run : Command → Run Nat) (body : Run Nat) : Run Nat := do
  let result ← within leave do
    modify fun s => { s with traps := [], loops := 0 }
    leaving run body
  match result with
  | .ok n => return n
  | .error stop => throw stop

/-- What a subshell writes, and its status. -/
def collect (run : Command → Run Nat) (body : Run Nat) : Run (Octets × Nat) := do
  let n ← openChannel (.sink [])
  let status ← subshell run do
    setStream 1 n
    body
  let text := ((← get).channels.lookup n).map Channel.written
  closeChannel n
  return (text.getD [], status)

/-- What a command writes, for its place in a word; the status is kept. -/
def output (run : Command → Run Nat) (command : Command) : Run Octets := do
  let (text, status) ← collect run (run command)
  modify fun s => { s with status }
  return text

/-! ## Processes -/

/-- The directory in which the tools are. -/
def toolDirectory : Location := [Text.encode "usr", Text.encode "bin"]

/-- The tool that stands at a location. -/
def toolAt? (loc : Location) : Option Octets :=
  match loc.getLast? with
  | some name =>
    let name := Octets.ofBytes name
    if loc.dropLast = toolDirectory && Tool.names.contains (String.ofList name) then some name
    else none
  | none => none

/-- What a name of a command leads to. -/
inductive Found where
  /-- A tool, and the path at which it is. -/
  | tool (name path : Octets)
  /-- A script in a file. -/
  | file (path : Octets)
  | notAllowed
  | missing

/-- What a path leads to. -/
def atPath (path : Octets) : Run Found := do
  match ← nodeAt path .follow with
  | .ok (loc, .file mode _) =>
    if mode &&& 0o111 = 0 then return .notAllowed
    match toolAt? loc with
    | some name => return .tool name path
    | none => return .file path
  | .ok _ => return .notAllowed
  | .error _ => return .missing

/-- What a name leads to along the path of the shell. -/
def findCommand (name : Octets) : Run Found := do
  if name.contains '/' then atPath name
  else if name.isEmpty then return .missing
  else
    let path := (← valueOf? "PATH".toList).getD []
    for dir in Text.splitAt ':' path do
      match ← atPath ((if dir.isEmpty then ['.'] else dir) ++ '/' :: name) with
      -- the search goes on behind what cannot be run
      | .missing | .notAllowed => pure ()
      | found => return found
    return .missing

/-- The shell as a process sees it when it starts. -/
def freshProcess (s : State) (name : Octets) (arguments : List Octets) : State :=
  { s with
    known := s.known.filter (·.exported)
    functions := []
    arguments
    name
    speaker := none
    status := 0
    options := {}
    jobs := []
    traps := []
    line := 1
    tested := false
    loops := 0
    hidden := [] }

/-- Runs a script as a process of its own; a signal that it sends itself ends it alone. -/
def process (run : Command → Run Nat) (name : Octets) (arguments : List Octets) (text : Octets)
    (setUp : Run Unit) : Run Nat := do
  let result ← within leave do
    modify fun s => freshProcess s name arguments
    setUp
    leaving run (script run text)
  match result with
  | .ok n => return n
  | .error (.killed n) =>
    -- a signal ends only the process that sent it to itself
    modify fun s => { s with fallen := some n }
    return 128 + n
  | .error stop => throw stop

/-- `sh`: runs a script from its arguments, from a file or from the input. -/
def shell (run : Command → Run Nat) : Tool := fun arguments => do
  let switches := arguments.takeWhile fun a =>
    a.length > 1 && a.head? = some '-' && !a.contains 'c'
  let rest := arguments.drop switches.length
  let setUp : Run Unit := do
    let _ ← Builtin.options (switches.filter (· ≠ "-s".toList))
  match rest with
  | ('-' :: letters) :: rest =>
    if letters.contains 'c' then
      match rest with
      | text :: more =>
        let extra := letters.filter (· ≠ 'c')
        let setUp : Run Unit := do
          setUp
          if !extra.isEmpty then
            let _ ← Builtin.options ['-' :: extra]
        process run (more.head?.getD ['s', 'h']) (more.drop 1) text setUp
      | [] =>
        complain "sh: 0: -c requires an argument".toList
        return 2
    else process run ['s', 'h'] [] (← readAll 0) setUp
  | path :: more =>
    if switches.contains "-s".toList then process run ['s', 'h'] rest (← readAll 0) setUp
    else
      match (← get).files.read path.toBytes with
      | .ok content => process run path more (Octets.ofBytes content) setUp
      | .error e =>
        complain ("sh: 0: cannot open ".toList ++ path ++ ": ".toList ++ shellReason false e)
        return 2
  | [] => process run ['s', 'h'] [] (← readAll 0) setUp

/-- Gives exported variables values for a process. -/
def export_ (assignments : List (Octets × Octets)) : Run Unit := do
  for (name, value) in assignments do
    putVariable { name, value? := some value, exported := true }

/-- Runs a command line as a process: the name of a command and its arguments.  The bound is on
tools that run tools. -/
def launch (run : Command → Run Nat) : Nat → List Octets → Run Nat
  | 0, _ => throw .exhausted
  | _ + 1, [] => return 0
  | bound + 1, name :: arguments => do
    spend startTime
    match ← findCommand name with
    | .missing => return 127
    | .notAllowed => return 126
    | .file path =>
      match (← get).files.read path.toBytes with
      | .ok content => process run path arguments (Octets.ofBytes content) (return ())
      | .error _ => return 126
    | .tool tool _ =>
      match Tool.ofName? tool with
      | some t => t arguments
      | none =>
        match String.ofList tool with
        | "sh" | "dash" => shell run arguments
        | "echo" => Builtin.echo arguments
        | "printf" => Builtin.printf arguments
        | "test" => Builtin.test "test" arguments
        | "[" => Builtin.bracket arguments
        | "pwd" => Builtin.pwd arguments
        | "kill" => Builtin.kill arguments
        | "which" => which arguments
        | "env" => env bound arguments
        | "nice" => nice bound arguments
        | "nohup" =>
          match arguments with
          | [] => Tool.misused "nohup" "missing operand".toList 125
          | ('-' :: c :: _) :: _ =>
            Tool.misused "nohup" ("invalid option -- ".toList ++ Tool.quote [c]) 125
          | _ => started bound "nohup" arguments
        | "timeout" => timeout bound arguments
        | _ => xargs bound arguments
where
  which : Tool := fun arguments => do
    let mut status := 0
    for name in arguments.filter (· ≠ "-a".toList) do
      match ← findCommand name with
      | .tool _ path | .file path => out (path ++ ['\n'])
      | _ => status := 1
    return if arguments.isEmpty then 1 else status
  /-- Runs a command line for a tool, which complains when the command cannot be run. -/
  started (bound : Nat) (tool : String) (arguments : List Octets) : Run Nat := do
    let status ← launch run bound arguments
    let name := arguments.head?.getD []
    let what := if tool = "timeout" || tool = "nohup" then "failed to run command " else ""
    let shown := if tool = "xargs" then name
      else if tool = "nohup" then Tool.quotePath name else Tool.quote name
    let complain := fun (why : String) =>
      Tool.complainAs tool (what.toList ++ shown ++ ": ".toList ++ why.toList)
    match status, ← findCommand name with
    | 127, .missing => do
      complain "No such file or directory"
      -- a command with blanks in its name may have been meant for several words
      if tool = "env" && name.any (· ∈ [' ', '\t']) then
        Tool.complainAs tool "use -[v]S to pass options in shebang lines".toList
    | 126, .notAllowed => complain "Permission denied"
    | _, _ => pure ()
    return status
  /-- Runs a command line with another priority, which makes no difference here. -/
  nice (bound : Nat) : Tool := fun arguments =>
    let adjusted := fun (value : Octets) (command : List Octets) =>
      let digits := match value with
        | '-' :: ds | '+' :: ds => ds
        | ds => ds
      if (Tool.number? digits).isNone then do
        Tool.complainAs "nice" ("invalid adjustment ".toList ++ Tool.quote value)
        return 125
      else if command.isEmpty then
        Tool.misused "nice" "a command must be given with an adjustment".toList 125
      else started bound "nice" command
    match arguments with
    | [] => do
      print "0\n"
      return 0
    | ['-', 'n'] :: value :: command => adjusted value command
    | ('-' :: 'n' :: value) :: command => adjusted value command
    | ('-' :: c :: value) :: command =>
      if c.isDigit then adjusted (c :: value) command
      else Tool.misused "nice" ("invalid option -- ".toList ++ Tool.quote [c]) 125
    | command => started bound "nice" command
  env (bound : Nat) : Tool := fun arguments => do
    let clear := arguments.head? = some "-i".toList || arguments.head? = some ['-']
    let arguments := if clear then arguments.drop 1 else arguments
    let assignments := arguments.takeWhile (·.contains '=')
    let command := arguments.drop assignments.length
    let result ← within (fun before after => { leave before after with known := before.known }) do
      if clear then modify fun s => { s with
        known := (s.known.filter (·.name = "PATH".toList)).map fun v =>
          { v with exported := false } }
      export_ (assignments.map fun a =>
        let (name, value?) := Builtin.binding a
        (name, value?.getD []))
      if command.isEmpty then Tool.printenv [] else started bound "env" command
    match result with
    | .ok n => return n
    | .error stop => throw stop
  timeout (bound : Nat) : Tool := fun arguments => do
    match arguments with
    | ['-', 's'] :: _ :: rest | ['-', 'k'] :: _ :: rest => timeout bound rest
    | time :: command =>
      match Tool.time? time with
      | none => Tool.misused "timeout" ("invalid time interval ".toList ++ Tool.quote time) 125
      | some nanos =>
        let before ← get
        let limit := before.elapsed + nanos
        let inner := match before.limit with
          | some outer => min outer limit
          | none => limit
        modify fun s => { s with limit := some inner }
        let result ← tryCatch (Except.ok <$> started bound "timeout" command) fun stop =>
          return .error stop
        modify fun s => { s with limit := before.limit }
        match result with
        | .ok n => return n
        | .error .timedOut =>
          modify fun s => { s with elapsed := limit }
          -- the limit around this one has passed as well
          if before.limit.any (· < limit) then throw .timedOut
          return 124
        | .error stop => throw stop
    | [] => Tool.misused "timeout" "missing operand".toList 125
  xargs (bound : Nat) : Tool := fun arguments => do
    let text ← readAll 0
    let mut status := 0
    for words in Tool.commandLines arguments text do
      let n ← started bound "xargs" words
      -- no such command: the rest is not tried
      if n = 127 || n = 126 then return n
      if n ≠ 0 then status := 123
    return status

/-! ## Simple commands -/

/-- Runs a command line as a process, with the complaints of the shell. -/
def external (run : Command → Run Nat) (words : List Octets) : Run Nat := do
  match words with
  | [] => return 0
  | [] :: _ =>
    report ": Permission denied".toList
    return 127
  | name :: _ =>
    match ← findCommand name with
    | .missing =>
      report (name ++ ": not found".toList)
      return 127
    | .notAllowed =>
      report (name ++ ": Permission denied".toList)
      return 126
    | _ => launch run 50 words

/-- Runs a function with arguments of its own. -/
def call (run : Command → Run Nat) (body : Command) (arguments : List Octets) : Run Nat := do
  let before ← get
  set { before with arguments, hidden := [] :: before.hidden }
  let result ← tryCatch (Except.ok <$> run body) fun stop => return .error stop
  let after ← get
  let top := after.hidden.head?.getD []
  set { after with arguments := before.arguments, hidden := before.hidden }
  for (name, value) in top do
    match value with
    | some v => putVariable v
    | none => dropVariable name
  match result with
  | .ok n => return n
  | .error (.returned n) => return n
  | .error stop => throw stop

/-- Tells what a name stands for, as `type` does. -/
def describe (name : Octets) : Run Nat := do
  if (Keyword.ofOctets? name).isSome then
    out (name ++ " is a shell keyword\n".toList)
    return 0
  else if ((← get).functions.lookup name).isSome then
    out (name ++ " is a shell function\n".toList)
    return 0
  else if Builtin.isName name then
    let kind := if (Builtin.special.lookup (String.ofList name)).isSome then "special " else ""
    out (name ++ (" is a " ++ kind ++ "shell builtin\n").toList)
    return 0
  else
    match ← findCommand name with
    | .tool _ path | .file path =>
      out (name ++ " is ".toList ++ path ++ ['\n'])
      return 0
    | _ =>
      out (name ++ ": not found\n".toList)
      return 127

/-- Tells where a name leads, as `command -v` does. -/
def whereIs (name : Octets) : Run Nat := do
  if (Keyword.ofOctets? name).isSome || ((← get).functions.lookup name).isSome ||
      Builtin.isName name then
    out (name ++ ['\n'])
    return 0
  else
    match ← findCommand name with
    | .tool _ path | .file path =>
      out (path ++ ['\n'])
      return 0
    | _ => return 127

/-- Reads a file as a script of the current shell. -/
def source (run : Command → Run Nat) (arguments : List Octets) : Run Nat := do
  match arguments with
  | [] => return 0
  | path :: _ =>
    match (← get).files.read path.toBytes with
    | .ok content =>
      tryCatch (scriptFor path run (Octets.ofBytes content)) fun
        | .returned n => return n
        | stop => throw stop
    | .error e =>
      if path.contains '/' then
        Builtin.fatal "." ("cannot open ".toList ++ path ++ ": ".toList ++ shellReason false e)
      else Builtin.fatal "." (path ++ ": not found".toList)

/-- Tells of a signal that has ended a process. -/
def tell : Run Unit := do
  match (← get).fallen with
  | some n =>
    modify fun s => { s with fallen := none }
    match Builtin.consequences.lookup n with
    | some text => complain text.toList
    | none => pure ()
  | none => pure ()

/-- Runs a command line whose words are expanded; functions may be passed over.  The bound is on
commands that name commands. -/
def runWords (run : Command → Run Nat) (functions : Bool) : Nat → List Octets → Run Nat
  | 0, _ => throw .exhausted
  | _ + 1, [] => return 0
  | bound + 1, name :: arguments => do
    let word := String.ofList name
    let known := (← get).functions
    let function := if functions then known.lookup name else none
    match Builtin.special.lookup word, function, Builtin.ordinary.lookup word with
    | some b, _, _ => b arguments
    | none, some body, _ => call run body arguments
    | none, none, some b => b arguments
    | none, none, none =>
      match word with
      | "eval" => scriptFor name run ([' '].intercalate arguments)
      | "." => source run arguments
      | "exec" =>
        if arguments.isEmpty then return 0
        else
          modify fun s => { s with speaker := some name }
          let status ← external run arguments
          match (← get).fallen with
          | some n => throw (.killed n)
          | none => throw (.exit status)
      | "type" =>
        let statuses ← arguments.mapM describe
        return statuses.getLast?.getD 0
      | "command" =>
        match arguments with
        | ['-', 'v'] :: names =>
          let statuses ← names.mapM whereIs
          return statuses.getLast?.getD 0
        | ['-', 'V'] :: names =>
          let statuses ← names.mapM describe
          return statuses.getLast?.getD 0
        | ['-', 'p'] :: words => runWords run false bound words
        | words => runWords run false bound words
      | _ =>
        let status ← external run (name :: arguments)
        tell
        return status

/-- Gives variables values for the length of a command. -/
def withAssignments (assignments : List (Octets × Octets)) (body : Run Nat) : Run Nat := do
  let before ← assignments.mapM fun (name, _) => do return (name, ← namedVariable? name)
  export_ assignments
  let result ← tryCatch (Except.ok <$> body) fun stop => return .error stop
  for (name, old) in before do
    match old with
    | some v => putVariable v
    | none => dropVariable name
  match result with
  | .ok n => return n
  | .error stop => throw stop

/-- Runs a simple command. -/
def simple (run : Command → Run Nat) (assignments : List (Octets × Word)) (words : List Word)
    (redirects : List Redirect) : Run Nat := do
  let out := output run
  modify fun s => { s with status := if words.isEmpty then 0 else s.status }
  let arguments ← Expansion.arguments out words
  let values (names : List (Octets × Word)) : Run (List (Octets × Octets)) :=
    names.mapM fun (name, word) => do return (name, ← Expansion.text out word)
  match arguments with
  | [] =>
    let failure ← keepingStreams (redirectAll out redirects)
    match failure with
    | some message =>
      report message
      return 2
    | none =>
      for (name, word) in assignments do
        assign name (← Expansion.text out word)
      return (← get).status
  | name :: rest =>
    if (← get).options.trace then
      complain ("+ ".toList ++ [' '].intercalate arguments)
    let isSpecial := (Builtin.special.lookup (String.ofList name)).isSome ||
      ["eval", "exec", "."].contains (String.ofList name)
    let body : Run Nat := runWords run true 50 arguments
    if name = "exec".toList then
      match ← redirectAll out redirects with
      | some message => fail message
      | none =>
        for (name, value) in ← values assignments do
          assign name value
        body
    else keepingStreams do
      match ← redirectAll out redirects with
      | some message =>
        -- a redirection that fails ends the shell for a special command
        if isSpecial then fail message
        report message
        return 2
      | none =>
        let given ← values assignments
        if isSpecial then
          for (name, value) in given do
            assign name value
          body
        else if rest.isEmpty && given.isEmpty then body
        else withAssignments given body

/-! ## Compound commands -/

/-- Runs a condition, whose failure is no error. -/
def condition (body : Run Nat) : Run Nat := do
  let tested := (← get).tested
  modify fun s => { s with tested := true }
  let status ← body
  modify fun s => { s with tested }
  return status

/-- How many turns the loops of a script may take. -/
def turnLimit : Nat := 200000

/-- The nanoseconds that a command takes at least. -/
def commandTime : Nat := 10000

/-- Takes turns as long as one says so, from the status of one to that of the next. -/
def turns (turn : Nat → Run (Nat × Bool)) (status : Nat) : Nat → Run Nat
  | 0 => throw .exhausted
  | bound + 1 => do
    let (status, goesOn) ← turn status
    if goesOn then turns turn status bound else return status

/-- Takes a turn for each value, as long as one says so. -/
def forEach (turn : Octets → Run (Nat × Bool)) (status : Nat) : List Octets → Run Nat
  | [] => return status
  | value :: rest => do
    let (status, goesOn) ← turn value
    if goesOn then forEach turn status rest else return status

/-- Runs the body of a loop; the result says whether the loop goes on. -/
def turnOf (body : Run Nat) : Run (Nat × Bool) := do
  let loops := (← get).loops
  modify fun s => { s with loops := loops + 1 }
  let result ← tryCatch (Except.ok <$> body) fun stop => return .error stop
  modify fun s => { s with loops }
  match result with
  | .ok n => return (n, true)
  | .error (.breakLoop levels) =>
    if levels ≤ 1 then return (0, false) else throw (.breakLoop (levels - 1))
  | .error (.continueLoop levels) =>
    if levels ≤ 1 then return (0, true) else throw (.continueLoop (levels - 1))
  | .error stop => throw stop

/-- Runs the stages of a pipeline: each reads what the one in front of it has written. -/
def pipeline (run : Command → Run Nat) (inputText : Option Octets) : List Command → Run Nat
  | [] => return 0
  | [last] => subshell run do
    feed inputText
    run last
  | stage :: rest => do
    let (text, _) ← collect run do
      feed inputText
      tryCatch (run stage) fun
        | .exhausted => return 141
        | stop => throw stop
    pipeline run (some text) rest
where
  /-- Lets the input be a text. -/
  feed : Option Octets → Run Unit
    | some text => do setStream 0 (← openChannel (.source text))
    | none => return ()

/-- Ends the shell when a command has failed that must not. -/
def checked (status : Nat) : Run Nat := do
  let s ← get
  if status ≠ 0 && s.options.exitOnError && !s.tested then throw (.exit status)
  return status

/-- The command of the first arm with a pattern that a text fits. -/
def armFor (out : Command → Run Octets) (text : Octets) :
    List (List Word × Command) → Run (Option Command)
  | [] => return none
  | (patterns, command) :: rest => do
    for word in patterns do
      let glyphs ← Expansion.glyphs out word
      if (Pattern.ofGlyphs glyphs).fits text then return some command
    armFor out text rest

/-- Runs a command and gives its status; the bound is on the depth of commands. -/
def exec : Nat → Command → Run Nat
  | 0, _ => throw .exhausted
  | bound + 1, command => do
    if (← get).options.noExecute then return (← get).status
    let run := exec bound
    spend commandTime
    let status ← match command with
      | .simple line assignments words redirects => do
        modify fun s => { s with line }
        checked (← simple run assignments words redirects)
      | .pipeline stages => do checked (← pipeline run none stages)
      | .not command => do
        let status ← condition (run command)
        pure (if status = 0 then 1 else 0)
      | .and left right => do
        let status ← condition (run left)
        if status = 0 then run right else pure status
      | .or left right => do
        let status ← condition (run left)
        if status = 0 then pure status else run right
      | .sequence commands => commands.foldlM (fun _ c => run c) 0
      | .background command => do
        let status ← subshell run do
          -- what runs in the background reads nothing
          setStream 0 (← openChannel .nothing)
          run command
        modify fun s =>
          { s with jobs := (Expansion.processId + s.jobs.length + 1, status) :: s.jobs }
        pure 0
      | .choose branches otherwise => do
        let mut chosen := otherwise
        let mut found := false
        for (test, body) in branches do
          if !found then
            if (← condition (run test)) = 0 then
              chosen := some body
              found := true
        match chosen with
        | some body => run body
        | none => pure 0
      | .loop negated test body =>
        turns (fun status => do
          spend commandTime
          let (tested, goesOn) ← turnOf (condition (run test))
          if !goesOn then return (0, false)
          -- `while` goes on after success, `until` after failure
          if (tested = 0) = negated then return (status, false)
          turnOf (run body)) 0 turnLimit
      | .each name words body => do
        let values ← match words with
          | some words => Expansion.arguments (output run) words
          | none => do pure (← get).arguments
        forEach (fun value => do
          assign name value
          turnOf (run body)) 0 values
      | .select subject arms => do
        let text ← Expansion.text (output run) subject
        match ← armFor (output run) text arms with
        | some command => run command
        | none => pure 0
      | .subshell body => do checked (← subshell run (run body))
      | .redirected command redirects => keepingStreams do
        match ← redirectAll (output run) redirects with
        | some message =>
          report message
          checked 2
        | none => run command
      | .define name body => do
        modify fun s => { s with functions := (name, body) :: s.functions.filter (·.1 ≠ name) }
        pure 0
    modify fun s => { s with status }
    let waiting := (← get).pending
    modify fun s => { s with pending := [] }
    for name in waiting do
      match (← get).traps.lookup name with
      | some action =>
        let _ ← script run action
        modify fun s => { s with status }
      | none => pure ()
    return status

/-- How deep commands may be nested. -/
def depthLimit : Nat := 2000

/-- Runs the text of a script as the whole work of a shell. -/
def whole (text : Octets) : Run Nat := leaving (exec depthLimit) (script (exec depthLimit) text)

end Run

end TestRig.Shell
