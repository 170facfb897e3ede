/-
  TestRig.Files.Codecs

  The JSON forms of what the operations on files are told and give back.
-/
import TestRig.Files.Backup
import TestRig.Files.Checksum
import TestRig.Files.Generation
import TestRig.Files.Split
import TestRig.Json.Codec

namespace TestRig

open Json (Codec toJson ofJson? required?)

instance : Codec Digest.Algorithm where
  toJson a := .text a.name
  ofJson? j := (Json.unitVariant? j).bind Digest.Algorithm.ofName?

namespace Files

instance : Codec ChecksumFormat where
  toJson
    | .base64Binary => .text "base64_binary"
    | .hex => .text "hex"
  ofJson? j :=
    match Json.unitVariant? j with
    | some "base64_binary" => some .base64Binary
    | some "hex" => some .hex
    | _ => none

instance : Codec BackupAction where
  toJson
    | .backup => .text "backup"
    | .restore => .text "restore"
  ofJson? j :=
    match Json.unitVariant? j with
    | some "backup" => some .backup
    | some "restore" => some .restore
    | _ => none

instance : Codec PartSizing where
  toJson
    | .equal => .text "equal"
    | .random => .text "random"
  ofJson? j :=
    match Json.unitVariant? j with
    | some "equal" => some .equal
    | some "random" => some .random
    | _ => none

instance : Codec BlockSource where
  toJson s := .object [("device", toJson s.device), ("block_size", toJson s.blockSize)]
  ofJson? j :=
    match Json.fields? ["device", "block_size"] j with
    | some [device, blockSize] => do some ⟨← required? device, ← required? blockSize⟩
    | _ => none

instance : Codec SizeRange where
  toJson r := .object [("min_mb", toJson r.minMb), ("max_mb", toJson r.maxMb)]
  ofJson? j :=
    match Json.fields? ["min_mb", "max_mb"] j with
    | some [minMb, maxMb] => do some ⟨← required? minMb, ← required? maxMb⟩
    | _ => none

instance : Codec SplitPart where
  toJson p := .object [("output", toJson p.output), ("size", toJson p.size)]
  ofJson? j :=
    match Json.fields? ["output", "size"] j with
    | some [output, size] => do some ⟨← required? output, ← required? size⟩
    | _ => none

end Files

end TestRig
