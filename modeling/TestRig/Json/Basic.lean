/-
  TestRig.Json.Basic

  JSON values.  A value keeps of its written form what a reader of it may tell
  apart: the order of the members of an object, members of the same name, and
  whether a number was written as an integer.
-/

namespace TestRig

/-- A JSON value. -/
inductive Json where
  | null
  | bool (value : Bool)
  /-- A number written without fraction and exponent. -/
  | int (value : Int)
  /-- Any other number, as written; minus zero is one of them. -/
  | real (text : String)
  /-- A string, or `none` for one with an escape that names half a surrogate pair. -/
  | str (value : Option String)
  | arr (items : List Json)
  /-- An object with its members in order. -/
  | obj (members : List (Option String × Json))

namespace Json

instance : Inhabited Json := ⟨null⟩

/-- A string value. -/
def text (s : String) : Json := .str (some s)

/-- An object with the given members. -/
def object (members : List (String × Json)) : Json :=
  .obj (members.map fun (name, value) => (some name, value))

end Json

end TestRig
