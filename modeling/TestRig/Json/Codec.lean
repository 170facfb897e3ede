/-
  TestRig.Json.Codec

  Domain values as JSON, by one set of rules.  A record is written as an object with
  its fields in order; it is read from such an object, in any order and with further
  members in it, or from an array of its fields.  A choice is written as its name,
  or as an object of one member from its name to its content.
-/
import TestRig.Json.Parser
import TestRig.Json.Printer
import TestRig.Text.Utf8

namespace TestRig.Json

/-- Values with a JSON form. -/
class Codec (α : Type) where
  toJson : α → Json
  ofJson? : Json → Option α

export Codec (toJson ofJson?)

/-- Writes a value as JSON text. -/
def write {α : Type} [Codec α] (value : α) : String := (toJson value).compact

/-- Reads a value from JSON text. -/
def read? (α : Type) [Codec α] (text : String) : Option α := (parse? text).bind ofJson?

/-! ## Simple values -/

instance : Codec Bool where
  toJson := .bool
  ofJson?
    | .bool b => some b
    | _ => none

instance : Codec String where
  toJson := .text
  ofJson?
    | .str text => text
    | _ => none

/-- The integer of a value, when it lies between the bounds. -/
def intBetween? (low high : Int) : Json → Option Int
  | .int n => if low ≤ n ∧ n ≤ high then some n else none
  | _ => none

instance : Codec UInt8 where
  toJson n := .int n.toNat
  ofJson? j := (intBetween? 0 0xFF j).map fun n => UInt8.ofNat n.toNat

instance : Codec UInt16 where
  toJson n := .int n.toNat
  ofJson? j := (intBetween? 0 0xFFFF j).map fun n => UInt16.ofNat n.toNat

instance : Codec UInt32 where
  toJson n := .int n.toNat
  ofJson? j := (intBetween? 0 0xFFFFFFFF j).map fun n => UInt32.ofNat n.toNat

instance : Codec UInt64 where
  toJson n := .int n.toNat
  ofJson? j := (intBetween? 0 0xFFFFFFFFFFFFFFFF j).map fun n => UInt64.ofNat n.toNat

instance : Codec Int32 where
  toJson n := .int n.toInt
  ofJson? j := (intBetween? (-0x80000000) 0x7FFFFFFF j).map Int32.ofInt

instance {α : Type} [Codec α] : Codec (Option α) where
  toJson
    | some a => toJson a
    | none => .null
  ofJson?
    | .null => some none
    | j => (ofJson? j).map some

/-- The elements of a list, when each of them can be read. -/
def ofItems? {α : Type} [Codec α] (items : List Json) : Option (List α) := items.mapM ofJson?

instance {α : Type} [Codec α] : Codec (List α) where
  toJson items := .arr (items.map toJson)
  ofJson?
    | .arr items => ofItems? items
    | _ => none

/-! ## Records -/

/-- The members of a name.  There may be one or none: two members of one name are an error. -/
def member? (members : List (Option String × Json)) (name : String) : Option (Option Json) :=
  match members.filter fun (n, _) => n = some name with
  | [] => some none
  | [(_, value)] => some (some value)
  | _ => none

/-- The fields of a record in the order of their names, `none` for one that is missing.  Members of
other names are passed over; in an array no field is missing. -/
def fields? (names : List String) : Json → Option (List (Option Json))
  | .obj members =>
    if members.any (·.1.isNone) then none else names.mapM (member? members)
  | .arr items => if items.length = names.length then some (items.map some) else none
  | _ => none

/-- The same for a record each of whose fields has a default: in an array the last ones may be
missing. -/
def fieldsOrFewer? (names : List String) : Json → Option (List (Option Json))
  | .arr items =>
    if items.length ≤ names.length then
      some (items.map some ++ List.replicate (names.length - items.length) none)
    else none
  | j => fields? names j

/-- A field that must be there. -/
def required? {α : Type} [Codec α] (field : Option Json) : Option α := field.bind ofJson?

/-- A field that may be missing, which then has no value. -/
def optional? {α : Type} [Codec α] (field : Option Json) : Option (Option α) :=
  match field with
  | some j => ofJson? j
  | none => some none

/-- A field that may be missing, which then has its default. -/
def defaulted? {α : Type} [Codec α] (default : α) (field : Option Json) : Option α :=
  match field with
  | some j => ofJson? j
  | none => some default

/-! ## Choices -/

/-- The name of a choice, and its content when it is an object of one member. -/
def variant? : Json → Option (String × Option Json)
  | .str (some name) => some (name, none)
  | .obj [(some name, content)] => some (name, some content)
  | _ => none

/-- The name of a choice without content, for which null may stand. -/
def unitVariant? (j : Json) : Option String :=
  match variant? j with
  | some (name, none) | some (name, some .null) => some name
  | _ => none

/-- A choice with content. -/
def variantOf (name : String) (content : Json) : Json := .object [(name, content)]

end TestRig.Json
