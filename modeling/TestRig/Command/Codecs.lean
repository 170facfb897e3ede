/-
  TestRig.Command.Codecs

  The JSON forms of templates, captures, read modes and outputs.
-/
import TestRig.Command.Capture
import TestRig.Command.Template
import TestRig.Json.Codec

namespace TestRig

open Json (Codec toJson ofJson? required? optional? defaulted?)

instance : Codec Duration where
  toJson d := .object [("secs", toJson d.secs), ("nanos", toJson d.nanos)]
  ofJson? j :=
    let names := ["secs", "nanos"]
    let known := match j with
      | .obj members => members.all fun (name, _) => name.any names.contains
      | _ => true
    match known, Json.fields? names j with
    | true, some [secs, nanos] => do Duration.carry? (← required? secs) (← required? nanos)
    | _, _ => none

namespace Templates

/-- The names of the fields, in order. -/
def fieldNames : List String :=
  ["create_file", "list_dir", "rpm_list", "rpm_grep", "rpm_install", "pgrep", "ping",
   "checksum_base64", "checksum_hex"]

/-- The fields, in the order of their names. -/
def toList (t : Templates) : List String :=
  [t.createFile, t.listDir, t.rpmList, t.rpmGrep, t.rpmInstall, t.pgrep, t.ping,
   t.checksumBase64, t.checksumHex]

/-- The templates with the given fields. -/
def ofList? : List String → Option Templates
  | [createFile, listDir, rpmList, rpmGrep, rpmInstall, pgrep, ping, checksumBase64,
      checksumHex] =>
    some { createFile, listDir, rpmList, rpmGrep, rpmInstall, pgrep, ping, checksumBase64,
           checksumHex }
  | _ => none

end Templates

instance : Codec Templates where
  toJson t := .object (Templates.fieldNames.zip (t.toList.map toJson))
  ofJson? j := do
    let fields ← Json.fieldsOrFewer? Templates.fieldNames j
    let defaults := ({} : Templates).toList
    let values ← (defaults.zip fields).mapM fun (default, field) => defaulted? default field
    Templates.ofList? values

namespace Command

instance : Codec ReadMode where
  toJson
    | .lines => .text "Lines"
    | .raw limit => Json.variantOf "Raw" (.object [("limit", toJson limit)])
  ofJson? j :=
    match Json.variant? j with
    | some ("Lines", none) | some ("Lines", some .null) => some .lines
    | some ("Raw", some content) =>
      match Json.fields? ["limit"] content with
      | some [limit] => (optional? limit).map .raw
      | _ => none
    | _ => none

instance : Codec Output where
  toJson
    | .bytes content => Json.variantOf "Bytes" (toJson content)
    | .lines content => Json.variantOf "Lines" (toJson content)
  ofJson? j :=
    match Json.variant? j with
    | some ("Bytes", some content) => (ofJson? content).map .bytes
    | some ("Lines", some content) => (ofJson? content).map .lines
    | _ => none

instance : Codec Capture where
  toJson c :=
    .object [("status", toJson c.status), ("stdout", toJson c.stdout),
      ("stderr", toJson c.stderr), ("duration", toJson c.duration)]
  ofJson? j :=
    match Json.fields? ["status", "stdout", "stderr", "duration"] j with
    | some [status, stdout, stderr, duration] => do
      some ⟨← required? status, ← required? stdout, ← required? stderr, ← required? duration⟩
    | _ => none

end Command

end TestRig
