/-
  TestRig.Proofs.Json.ReadBack

  The domain values are read back from their JSON text.  Each form is lawful, records by
  the lemma on the fields of an object and choices by their names; what holds of lawful
  forms (`readsBack`) then holds of all of them.
-/
import TestRig.Command.Codecs
import TestRig.Files.Codecs
import TestRig.Package.Codecs
import TestRig.Proofs.Json.Codec

namespace TestRig

open Json

/-! ## Choices without content -/

instance : LawfulCodec Digest.Algorithm where
  ofJson?_toJson a := by cases a <;> rfl
  realFree_toJson a := realFree_text a.name

instance : LawfulCodec Files.ChecksumFormat where
  ofJson?_toJson f := by cases f <;> rfl
  realFree_toJson f := by cases f <;> exact realFree_text _

instance : LawfulCodec Files.BackupAction where
  ofJson?_toJson a := by cases a <;> rfl
  realFree_toJson a := by cases a <;> exact realFree_text _

instance : LawfulCodec Files.PartSizing where
  ofJson?_toJson s := by cases s <;> rfl
  realFree_toJson s := by cases s <;> exact realFree_text _

/-! ## Records -/

instance : LawfulCodec Files.BlockSource :=
  .of_two_fields (by decide) (·.device) (·.blockSize) .mk (fun _ => rfl) (fun _ => rfl)
    fun _ => rfl

instance : LawfulCodec Files.SizeRange :=
  .of_two_fields (by decide) (·.minMb) (·.maxMb) .mk (fun _ => rfl) (fun _ => rfl) fun _ => rfl

instance : LawfulCodec Files.SplitPart :=
  .of_two_fields (by decide) (·.output) (·.size) .mk (fun _ => rfl) (fun _ => rfl) fun _ => rfl

instance : LawfulCodec Package.Presence :=
  .of_two_fields (by decide) (·.installed) (·.message) .mk (fun _ => rfl) (fun _ => rfl)
    fun _ => rfl

instance : LawfulCodec Package.MachineState :=
  .of_two_fields (by decide) (·.rpmInstalled) (·.provisionerPresent) .mk (fun _ => rfl)
    (fun _ => rfl) fun _ => rfl

/-- Nanoseconds below a second carry nothing over. -/
theorem Duration.carry?_self (d : Duration) : Duration.carry? d.secs d.nanos = some d := by
  have hlt : d.nanos.toNat < 1000000000 := d.nanos_lt
  have hwhole : (d.nanos / 1000000000).toNat = 0 := by
    rw [UInt32.toNat_div]
    exact Nat.div_eq_of_lt hlt
  have hrest : d.nanos % 1000000000 = d.nanos := by
    rw [← UInt32.toNat_inj, UInt32.toNat_mod]
    exact Nat.mod_eq_of_lt hlt
  have hsecs : d.secs.toNat < UInt64.size := d.secs.toNat_lt
  simp only [carry?, hwhole, hrest, Nat.add_zero, if_pos hsecs, UInt64.ofNat_toNat]

instance : LawfulCodec Duration where
  ofJson?_toJson d := by
    have hto : toJson d = .obj [(some "secs", toJson d.secs), (some "nanos", toJson d.nanos)] := rfl
    have hfields : fields? ["secs", "nanos"] (toJson d) =
        some [some (toJson d.secs), some (toJson d.nanos)] :=
      fields?_object [toJson d.secs, toJson d.nanos] (by decide) rfl
    -- a span may have no members but its own
    have hsecs : ["secs", "nanos"].contains "secs" = true := by decide
    have hnanos : ["secs", "nanos"].contains "nanos" = true := by decide
    rw [hto] at hfields ⊢
    simp only [ofJson?, hfields, List.all_cons, List.all_nil, Option.any_some, hsecs, hnanos,
      Bool.and_self]
    rw [required?_toJson, required?_toJson]
    exact d.carry?_self
  realFree_toJson d := realFree_object (by simp [realFree_toJson])

instance : LawfulCodec Command.Capture where
  ofJson?_toJson c := by
    have hfields : fields? ["status", "stdout", "stderr", "duration"] (toJson c) =
        some [some (toJson c.status), some (toJson c.stdout), some (toJson c.stderr),
          some (toJson c.duration)] :=
      fields?_object [toJson c.status, toJson c.stdout, toJson c.stderr, toJson c.duration]
        (by decide) rfl
    simp only [ofJson?, hfields, required?_toJson]
    rfl
  realFree_toJson c := realFree_object (by simp [realFree_toJson])

instance : LawfulCodec Templates where
  ofJson?_toJson t := by
    have hfields : fieldsOrFewer? Templates.fieldNames (toJson t) =
        some ((t.toList.map toJson).map some) := by
      change fields? Templates.fieldNames
        (object (Templates.fieldNames.zip (t.toList.map toJson))) = _
      exact fields?_object _ (by decide) rfl
    simp only [ofJson?, hfields]
    rfl
  realFree_toJson t := by
    refine realFree_object fun member hmember => ?_
    obtain ⟨s, _, hs⟩ := List.mem_map.1 (List.of_mem_zip hmember).2
    rw [← hs]
    exact realFree_toJson s

/-! ## Choices with content -/

instance : LawfulCodec Command.ReadMode where
  ofJson?_toJson m := by
    cases m with
    | lines => rfl
    | raw limit =>
      have hfields : fields? ["limit"] (object [("limit", toJson limit)]) =
          some [some (toJson limit)] := fields?_object [toJson limit] (by decide) rfl
      change (match fields? ["limit"] (object [("limit", toJson limit)]) with
        | some [limit] => (optional? limit).map Command.ReadMode.raw
        | _ => none) = _
      rw [hfields]
      exact congrArg (Option.map Command.ReadMode.raw) (ofJson?_toJson limit)
  realFree_toJson m := by
    cases m with
    | lines => exact realFree_text _
    | raw limit =>
      have hlimit : (object [("limit", toJson limit)]).RealFree :=
        realFree_object (by simp [realFree_toJson])
      exact realFree_object (by simpa using hlimit)

instance : LawfulCodec Command.Output where
  ofJson?_toJson o := by
    cases o with
    | bytes content => exact congrArg (Option.map Command.Output.bytes) (ofJson?_toJson content)
    | lines content => exact congrArg (Option.map Command.Output.lines) (ofJson?_toJson content)
  realFree_toJson o := by
    cases o <;> exact realFree_object (by simp [realFree_toJson])

instance : LawfulCodec Package.Listing where
  ofJson?_toJson l := by
    cases l with
    | packages names => exact congrArg (Option.map Package.Listing.packages) (ofJson?_toJson names)
    | raw content => exact congrArg (Option.map Package.Listing.raw) (ofJson?_toJson content)
  realFree_toJson l := by
    cases l <;> exact realFree_object (by simp [realFree_toJson])

/-! ## All forms -/

open Command Files Package in
/-- Every value that is written as JSON, compact or indented, is read back from its text, so that
reading an accepted text and writing it again is idempotent. -/
theorem written_values_read_back :
    ReadsBack Templates ∧ ReadsBack ReadMode ∧ ReadsBack Output ∧ ReadsBack Capture ∧
    ReadsBack BackupAction ∧ ReadsBack Digest.Algorithm ∧ ReadsBack ChecksumFormat ∧
    ReadsBack PartSizing ∧ ReadsBack BlockSource ∧ ReadsBack SizeRange ∧ ReadsBack SplitPart ∧
    ReadsBack Presence ∧ ReadsBack Listing ∧ ReadsBack MachineState :=
  ⟨readsBack, readsBack, readsBack, readsBack, readsBack, readsBack, readsBack, readsBack,
    readsBack, readsBack, readsBack, readsBack, readsBack, readsBack⟩

end TestRig
