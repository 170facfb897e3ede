/-
  TestRig.Shell.Token

  The tokens of a script, and the errors of its syntax with their wording.
-/
import TestRig.Shell.Script

namespace TestRig.Shell

/-- The words that mean something where a command may begin. -/
inductive Keyword where
  | bang
  | case
  | do
  | done
  | elif
  | else
  | esac
  | fi
  | for
  | if
  | in
  | then
  | until
  | while
  | openBrace
  | closeBrace
  deriving DecidableEq

namespace Keyword

/-- The keywords with their spellings. -/
def table : List (String × Keyword) :=
  [("!", .bang), ("case", .case), ("do", .do), ("done", .done), ("elif", .elif), ("else", .else),
   ("esac", .esac), ("fi", .fi), ("for", .for), ("if", .if), ("in", .in), ("then", .then),
   ("until", .until), ("while", .while), ("\x7b", .openBrace), ("\x7d", .closeBrace)]

/-- The keyword of a spelling. -/
def ofOctets? (text : Octets) : Option Keyword := table.lookup (String.ofList text)

/-- The spelling of a keyword. -/
def spelling (k : Keyword) : String := ((table.find? (·.2 = k)).map (·.1)).getD ""

/-- Does the keyword end a list of commands? -/
def endsList : Keyword → Bool
  | «do» | done | elif | «else» | esac | fi | «then» | closeBrace => true
  | _ => false

end Keyword

/-- The operators between commands. -/
inductive Operator where
  | semicolon
  | ampersand
  | andIf
  | orIf
  | bar
  | openParen
  | closeParen
  | endOfArm
  deriving DecidableEq

/-- The spelling of an operator. -/
def Operator.spelling : Operator → String
  | semicolon => ";"
  | ampersand => "&"
  | andIf => "&&"
  | orIf => "||"
  | bar => "|"
  | openParen => "("
  | closeParen => ")"
  | endOfArm => ";;"

/-- What a redirection asks for. -/
inductive RedirectSign where
  | to (kind : RedirectKind)
  /-- `<<`, or `<<-`, which cuts tabs off the lines. -/
  | here (cutTabs : Bool)
  deriving DecidableEq

/-- The tokens of a script. -/
inductive Token where
  | endOfText
  | newline
  | operator (op : Operator)
  | redirect (stream : Nat) (sign : RedirectSign)
  | word (parts : Word)
  | keyword (k : Keyword)

namespace Token

/-- The name of a token in messages. -/
def name : Token → String
  | endOfText => "end of file"
  | newline => "newline"
  | operator op => "\"" ++ op.spelling ++ "\""
  | redirect .. => "redirection"
  | word _ => "word"
  | keyword k => "\"" ++ k.spelling ++ "\""

end Token

/-- What is wrong with a script. -/
inductive SyntaxFault where
  /-- A token stands where it must not; sometimes only one other could stand there. -/
  | unexpected (found : String) (expected : Option String)
  | unterminatedQuotes
  | unterminatedBackquotes
  | missingBrace
  | missingParens
  | badLoopVariable
  | badFunctionName
  | badStream (text : Octets)
  deriving DecidableEq

/-- The wording of a fault. -/
def SyntaxFault.message : SyntaxFault → String
  | unexpected found none => found ++ " unexpected"
  | unexpected found (some expected) => found ++ " unexpected (expecting " ++ expected ++ ")"
  | unterminatedQuotes => "Unterminated quoted string"
  | unterminatedBackquotes => "EOF in backquote substitution"
  | missingBrace => "Missing '\x7d'"
  | missingParens => "Missing '))'"
  | badLoopVariable => "Bad for loop variable"
  | badFunctionName => "Bad function name"
  | badStream _ => "Bad fd number"

/-- A fault and its line. -/
structure SyntaxError where
  line : Nat
  fault : SyntaxFault
  deriving DecidableEq

end TestRig.Shell
