/-
  TestRig.Package.Codecs

  The JSON forms of the answers about packages.
-/
import TestRig.Json.Codec
import TestRig.Package.Basic

namespace TestRig.Package

open Json (Codec toJson ofJson? required?)

instance : Codec Presence where
  toJson p := .object [("installed", toJson p.installed), ("message", toJson p.message)]
  ofJson? j :=
    match Json.fields? ["installed", "message"] j with
    | some [installed, message] => do some ⟨← required? installed, ← required? message⟩
    | _ => none

instance : Codec Listing where
  toJson
    | .packages names => Json.variantOf "Packages" (toJson names)
    | .raw content => Json.variantOf "Raw" (toJson content)
  ofJson? j :=
    match Json.variant? j with
    | some ("Packages", some content) => (ofJson? content).map .packages
    | some ("Raw", some content) => (ofJson? content).map .raw
    | _ => none

instance : Codec MachineState where
  toJson s :=
    .object [("rpm_installed", toJson s.rpmInstalled),
      ("provisioner_present", toJson s.provisionerPresent)]
  ofJson? j :=
    match Json.fields? ["rpm_installed", "provisioner_present"] j with
    | some [rpmInstalled, provisionerPresent] => do
      some ⟨← required? rpmInstalled, ← required? provisionerPresent⟩
    | _ => none

end TestRig.Package
