/-
  TestRig.Shell.Script

  Shell scripts as trees: words with their quotes and expansions, redirections, and
  the commands built from them.
-/

namespace TestRig.Shell

/-- Text inside the shell, which knows bytes only: each character stands for the byte of its
code. -/
abbrev Octets := List Char

/-- What `${name op word}` does with the word. -/
inductive Fallback where
  /-- `-`: the word stands in for a missing value. -/
  | default
  /-- `=`: the same, and the parameter takes that value. -/
  | assign
  /-- `+`: the word stands in for a value that is there. -/
  | alternative
  /-- `?`: a missing value is an error, which the word explains. -/
  | error
  deriving DecidableEq

/-- Which end of a value a pattern is cut off. -/
inductive CutEnd where
  | front
  | back
  deriving DecidableEq

/-- The redirections that name a file or a stream. -/
inductive RedirectKind where
  /-- `<` -/
  | read
  /-- `>` and `>|` -/
  | write
  /-- `>>` -/
  | append
  /-- `<>` -/
  | readWrite
  /-- `<&` -/
  | sameInput
  /-- `>&` -/
  | sameOutput
  deriving DecidableEq

mutual

/-- A piece of a word. -/
inductive Part where
  /-- Characters that may have a meaning in a pattern. -/
  | plain (text : Octets)
  /-- Characters that stand for themselves. -/
  | quoted (text : Octets)
  /-- The value of a parameter. -/
  | parameter (inQuotes : Bool) (name : Octets)
  /-- The length of the value of a parameter. -/
  | length (inQuotes : Bool) (name : Octets)
  /-- The value of a parameter, or a word in its place.  `orEmpty` says that an empty value counts
  as missing. -/
  | fallback (inQuotes : Bool) (name : Octets) (orEmpty : Bool) (kind : Fallback)
      (word : List Part)
  /-- The value of a parameter with a pattern cut off. -/
  | cut (inQuotes : Bool) (name : Octets) (from_ : CutEnd) (longest : Bool) (pattern : List Part)
  /-- What a command writes. -/
  | output (inQuotes : Bool) (body : Command)
  /-- The value of an arithmetic expression. -/
  | arithmetic (inQuotes : Bool) (expression : List Part)
  /-- A `${` that begins no expansion. -/
  | malformed

/-- A redirection of a stream. -/
inductive Redirect where
  | file (stream : Nat) (kind : RedirectKind) (target : List Part)
  /-- A text in the script itself. -/
  | here (stream : Nat) (content : List Part)

/-- A command. -/
inductive Command where
  /-- Assignments, words and redirections, on a line of the script. -/
  | simple (line : Nat) (assignments : List (Octets × List Part)) (words : List (List Part))
      (redirects : List Redirect)
  /-- Commands of which each reads what the one in front of it writes. -/
  | pipeline (stages : List Command)
  | not (command : Command)
  | and (left right : Command)
  | or (left right : Command)
  | sequence (commands : List Command)
  /-- A command that is not waited for. -/
  | background (command : Command)
  /-- `if`, with its conditions and what follows from them. -/
  | choose (branches : List (Command × Command)) (otherwise : Option Command)
  /-- `while`, or `until` if `negated`. -/
  | loop (negated : Bool) (condition body : Command)
  /-- `for`; without words it goes through the positional parameters. -/
  | each (name : Octets) (words : Option (List (List Part))) (body : Command)
  /-- `case`, with the patterns of each arm. -/
  | select (subject : List Part) (arms : List (List (List Part) × Command))
  /-- A command whose changes of the shell do not last. -/
  | subshell (body : Command)
  /-- A command with redirections. -/
  | redirected (command : Command) (redirects : List Redirect)
  | define (name : Octets) (body : Command)

end

instance : Inhabited Command := ⟨.sequence []⟩

/-- Words are lists of parts. -/
abbrev Word := List Part

end TestRig.Shell
