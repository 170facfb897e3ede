/-
  TestRig.Machine.Basic

  The machine on which everything runs: its files and the variables of its
  environment.
-/
import TestRig.Shell.Tool

namespace TestRig

/-- A machine. -/
structure Machine where
  files : FileSystem
  environment : List (String × String)

namespace Machine

/-- The bytes of the names of a path. -/
def location (names : List String) : Location := names.map Text.encode

/-- The names that lead to the directory in which work begins. -/
def workplaceNames : List String := ["tmp", "work"]

/-- The directory in which work begins. -/
def workplace : Location := location workplaceNames

/-- The files of a machine on which nothing has been done yet. -/
def freshFiles : FileSystem :=
  let directory := fun (names : List String) => (location names, Node.directory 0o755)
  let tool := fun (name : String) => (location ["usr", "bin", name], Node.file 0o755 [])
  { nodes := [(location ["bin"], .link (Text.encode "usr/bin")), directory ["dev"],
      directory ["etc"], directory ["home"], directory ["opt"], directory ["proc"],
      directory ["proc", "self"], directory ["root"],
      (location ["tmp"], .directory 0o1777), directory ["usr"], directory ["usr", "bin"],
      directory ["var"], (workplace, .directory 0o755),
      (location ["dev", "null"], .device .null), (location ["dev", "zero"], .device .zero),
      (location ["etc", "passwd"],
        .file 0o644 (Text.encode "root:x:0:0:root:/root:/bin/bash\n"))] ++
      Shell.Tool.names.map tool
    current := workplace }

/-- The environment of a machine on which nothing has been set. -/
def freshEnvironment : List (String × String) :=
  [("HOME", "/root"), ("LC_ALL", "C"),
   ("PATH", "/usr/local/sbin:/usr/local/bin:/usr/sbin:/usr/bin:/sbin:/bin")]

/-- A machine on which nothing has been done yet. -/
def fresh : Machine := ⟨freshFiles, freshEnvironment⟩

/-- The value of a variable of the environment. -/
def setting? (m : Machine) (name : String) : Option String := m.environment.lookup name

/-- The machine with a variable set. -/
def withVariable (m : Machine) (name value : String) : Machine :=
  { m with environment := (name, value) :: m.environment.filter (·.1 ≠ name) }

end Machine

end TestRig
