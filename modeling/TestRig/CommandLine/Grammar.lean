/-
  TestRig.CommandLine.Grammar

  The arguments of a command that has options, operands and perhaps commands of its
  own: which of them belong together.  Arguments are taken from left to right, and
  the first one that does not fit decides.
-/

namespace TestRig.CommandLine

/-- An option of a command. -/
structure OptionSpec where
  long : String
  short : Option Char := none
  /-- The test of its value; a switch has none. -/
  value : Option (String → Bool) := none
  /-- May the value be an argument that looks like an option? -/
  anyValue : Bool := false

/-- A command: its options, the tests of its operands, and the commands below it. -/
structure Level where
  options : List OptionSpec := []
  operands : List (String → Bool) := []
  /-- The test of further operands, if there may be any. -/
  further : Option (String → Bool) := none
  commands : List String := []
  /-- Does it tell its version? -/
  hasVersion : Bool := false

/-- Why arguments amount to no command. -/
inductive Refusal where
  /-- They do not fit. -/
  | misuse
  /-- The version is asked for. -/
  | version
  /-- An explanation is asked for. -/
  | help
  deriving DecidableEq

/-- What the arguments of a command amount to. -/
structure Bindings where
  values : List (String × String) := []
  switches : List String := []
  operands : List String := []
  /-- The command below it, and the arguments of that. -/
  command : Option (String × List String) := none

namespace Bindings

/-- The value of an option. -/
def value? (b : Bindings) (long : String) : Option String := b.values.lookup long

/-- Is a switch given? -/
def has (b : Bindings) (long : String) : Bool := b.switches.contains long

/-- Binds an option to a value; each option may be given once. -/
def bind (b : Bindings) (spec : OptionSpec) (text : String) : Except Refusal Bindings :=
  match spec.value with
  | some test =>
    if test text && (b.value? spec.long).isNone then
      .ok { b with values := b.values ++ [(spec.long, text)] }
    else .error .misuse
  | none => .error .misuse

/-- Notes a switch; each may be given once. -/
def turnOn (b : Bindings) (spec : OptionSpec) : Except Refusal Bindings :=
  if b.has spec.long then .error .misuse
  else .ok { b with switches := b.switches ++ [spec.long] }

/-- Takes an operand. -/
def take (b : Bindings) (level : Level) (text : String) : Except Refusal Bindings :=
  match level.operands[b.operands.length]?.or level.further with
  | some test =>
    if test text then .ok { b with operands := b.operands ++ [text] } else .error .misuse
  | none => .error .misuse

end Bindings

/-- An argument as it looks by itself. -/
inductive Shape where
  /-- Two dashes: what follows are operands. -/
  | divider
  /-- A long name, and a value behind an equals sign. -/
  | long (name : String) (value : Option String)
  /-- A letter, and what follows it. -/
  | short (letter : Char) (rest : List Char)
  | word

/-- How an argument looks. -/
def Shape.of (argument : String) : Shape :=
  match argument.toList with
  | ['-', '-'] => .divider
  | '-' :: '-' :: text =>
    let name := text.takeWhile (· ≠ '=')
    .long (String.ofList name)
      (if name.length < text.length then some (String.ofList (text.drop (name.length + 1)))
        else none)
  | '-' :: letter :: rest => .short letter rest
  | _ => .word

/-- Can an argument be the value of an option? -/
def isValueFor (spec : OptionSpec) (argument : String) : Bool :=
  spec.anyValue || match Shape.of argument with
    | .word => true
    | _ => false

namespace Level

/-- Takes the arguments of a command apart. -/
def parse (level : Level) (b : Bindings) : List String → Except Refusal Bindings
  | [] => .ok b
  | argument :: rest =>
    let option := fun (spec : OptionSpec) (attached : Option String) =>
      match spec.value, attached with
      | none, some _ => Except.error Refusal.misuse
      | none, none => do parse level (← b.turnOn spec) rest
      | some _, some text => do parse level (← b.bind spec text) rest
      | some _, none =>
        match rest with
        | text :: rest =>
          if isValueFor spec text then do parse level (← b.bind spec text) rest
          else .error .misuse
        | [] => .error .misuse
    match Shape.of argument with
    | .divider => rest.foldlM (fun b text => b.take level text) b
    | .long name attached =>
      match level.options.find? (·.long = name) with
      | some spec => option spec attached
      | none =>
        if attached.isSome then .error .misuse
        else if name = "help" then .error .help
        else if name = "version" && level.hasVersion then .error .version
        else .error .misuse
    | .short letter text =>
      match level.options.find? (·.short = some letter) with
      | some spec =>
        let attached := match text with
          | [] => none
          | '=' :: text => some (String.ofList text)
          | text => some (String.ofList text)
        option spec attached
      | none =>
        if letter = 'h' then .error .help
        else if letter = 'V' && level.hasVersion then .error .version
        else .error .misuse
    | .word =>
      if level.commands.contains argument || (argument = "help" && !level.commands.isEmpty) then
        .ok { b with command := some (argument, rest) }
      else do parse level (← b.take level argument) rest

end Level

end TestRig.CommandLine
