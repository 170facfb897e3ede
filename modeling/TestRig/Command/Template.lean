/-
  TestRig.Command.Template

  Command lines with named holes, such as `ls {path}`.  Filling a template puts a
  value into every hole of a given name, as it stands and without quoting; holes of
  other names stay.  An empty value takes one neighbouring space with it, so that no
  double gap is left behind.
-/
import TestRig.Text.Search

namespace TestRig

namespace Template

/-- The hole of a name: the name between braces. -/
def hole (name : List Char) : List Char := '\x7b' :: name ++ ['\x7d']

/-- Takes every hole away together with one neighbouring space: of two spaces around it the second
one, else the one behind it, else the one in front of it.  A hole without a space beside it
stays. -/
def closeGaps (name text : List Char) : List Char :=
  let between := Text.replaceAll (' ' :: hole name ++ [' ']) [' '] text
  let before := Text.replaceAll (hole name ++ [' ']) [] between
  Text.replaceAll (' ' :: hole name) [] before

/-- Puts a value into every hole of a name. -/
def fillOne (text name value : List Char) : List Char :=
  let text := if value.isEmpty then closeGaps name text else text
  Text.replaceAll (hole name) value text

/-- Puts values into the holes of their names, one name after the other. -/
def fillChars (text : List Char) (values : List (List Char × List Char)) : List Char :=
  values.foldl (fun text (name, value) => fillOne text name value) text

/-- The command line that a template gives for named values. -/
def fill (template : String) (values : List (String × String)) : String :=
  String.ofList
    (fillChars template.toList (values.map fun (name, value) => (name.toList, value.toList)))

end Template

/-- The command lines that the library runs, with their holes. -/
structure Templates where
  /-- Holes: `device`, `path`, `block_size`, `count`. -/
  createFile : String := "dd if={device} of={path} bs={block_size} count={count} status=none"
  /-- Hole: `path`. -/
  listDir : String := "ls {path}"
  /-- No hole. -/
  rpmList : String := "rpm -qa"
  /-- Hole: `filter`. -/
  rpmGrep : String := "rpm -qa | grep {filter}"
  /-- Hole: `package`. -/
  rpmInstall : String := "yum install -y {package}"
  /-- Hole: `process`. -/
  pgrep : String := "pgrep {process}"
  /-- Hole: `host`. -/
  ping : String := "ping -c 1 {host}"
  /-- Holes: `algorithm`, `path`. -/
  checksumBase64 : String := "openssl {algorithm} -binary {path} | base64"
  /-- Holes: `algorithm`, `options`, `path`. -/
  checksumHex : String := "{algorithm}sum {options} {path}"
  deriving DecidableEq, Inhabited

end TestRig
