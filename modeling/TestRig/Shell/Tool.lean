/-
  TestRig.Shell.Tool

  The tools that a shell finds on its path, by name.
-/
import TestRig.Shell.Tool.Blocks
import TestRig.Shell.Tool.Comparison
import TestRig.Shell.Tool.Digest
import TestRig.Shell.Tool.Expression
import TestRig.Shell.Tool.Files
import TestRig.Shell.Tool.Listing
import TestRig.Shell.Tool.Search
import TestRig.Shell.Tool.System
import TestRig.Shell.Tool.Text

namespace TestRig.Shell.Tool

/-- A tool that does nothing but give a status. -/
def constant (status : Nat) : Tool := fun _ => return status

/-- A tool that writes a line. -/
def saying (line : String) : Tool := fun _ => do
  Run.print (line ++ "\n")
  return 0

/-- The tools by name. -/
def table : List (String × Tool) :=
  [("base64", base64), ("basename", basename), ("cat", cat), ("chmod", chmod), ("cmp", cmp),
   ("cp", cp), ("cut", cut), ("dd", dd), ("dirname", dirname), ("egrep", grep (some 'E')),
   ("expr", expr), ("false", constant 1), ("fgrep", grep (some 'F')), ("grep", grep none),
   ("head", head), ("hostname", saying "localhost"), ("id", id_), ("ln", ln), ("ls", ls),
   ("md5sum", sum "md5sum" .md5), ("mkdir", mkdir), ("mv", mv), ("od", od), ("openssl", openssl),
   ("printenv", printenv), ("readlink", readlink), ("rev", rev), ("rm", rm), ("rmdir", rmdir),
   ("sed", sed), ("seq", seq), ("sha256sum", sum "sha256sum" .sha256), ("sleep", sleep),
   ("sort", sort), ("stat", stat), ("sync", constant 0), ("tac", tac), ("tail", tail),
   ("tee", tee), ("touch", touch), ("tr", tr), ("true", constant 0), ("truncate", truncate),
   ("uname", uname), ("uniq", uniq), ("wc", wc), ("whoami", saying "root"), ("yes", yes)]

/-- The tools that run other commands, and those that the shell also carries out itself. -/
def others : List String :=
  ["[", "dash", "echo", "env", "kill", "nice", "nohup", "printf", "pwd", "sh", "test", "timeout",
   "which", "xargs"]

/-- The names of all tools. -/
def names : List String := table.map (·.1) ++ others

/-- The tool of a name. -/
def ofName? (name : Octets) : Option Tool := table.lookup (String.ofList name)

end TestRig.Shell.Tool
