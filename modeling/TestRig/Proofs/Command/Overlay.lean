/-
  TestRig.Proofs.Command.Overlay

  Templates laid over the default ones.  `Overlaid` relates the value of one field to what
  is supplied for it; templates can be read exactly where such values exist for all nine
  fields (`ofList?_eq_some_iff`), whatever the values are written in, so that a section of
  a configuration and an object of JSON obey one law.
-/
import TestRig.Command.Codecs
import TestRig.Proofs.Json.Codec

namespace TestRig

/-! ## One field -/

section Field

variable {υ α : Type} {write : α → υ} {default : α}

/-- The value of a field is the supplied one, and the default where none is supplied. -/
def Overlaid (write : α → υ) (default : α) (supplied : Option υ) (value : α) : Prop :=
  match supplied with
  | some given => given = write value
  | none => value = default

/-- A field has a value unless something is supplied that cannot be one. -/
theorem exists_overlaid_iff {supplied : Option υ} :
    (∃ value, Overlaid write default supplied value) ↔
      ∀ given ∈ supplied, ∃ value, given = write value := by
  cases supplied with
  | none => exact iff_of_true ⟨default, rfl⟩ nofun
  | some given =>
    constructor
    · rintro h _ ⟨⟩
      exact h
    · exact fun h => h given rfl

end Field

/-! ## All templates -/

namespace Templates

variable {υ : Type} {write : String → υ} {supplied : String → Option υ}

/-- Templates each of which is the supplied one, and the default one where none is supplied. -/
structure Overlays (write : String → υ) (supplied : String → Option υ) (t : Templates) : Prop where
  createFile : Overlaid write ({} : Templates).createFile (supplied "create_file") t.createFile
  listDir : Overlaid write ({} : Templates).listDir (supplied "list_dir") t.listDir
  rpmList : Overlaid write ({} : Templates).rpmList (supplied "rpm_list") t.rpmList
  rpmGrep : Overlaid write ({} : Templates).rpmGrep (supplied "rpm_grep") t.rpmGrep
  rpmInstall : Overlaid write ({} : Templates).rpmInstall (supplied "rpm_install") t.rpmInstall
  pgrep : Overlaid write ({} : Templates).pgrep (supplied "pgrep") t.pgrep
  ping : Overlaid write ({} : Templates).ping (supplied "ping") t.ping
  checksumBase64 :
    Overlaid write ({} : Templates).checksumBase64 (supplied "checksum_base64") t.checksumBase64
  checksumHex :
    Overlaid write ({} : Templates).checksumHex (supplied "checksum_hex") t.checksumHex

/-- Where nothing is supplied, the templates are the default ones. -/
theorem eq_default_iff (t : Templates) : t = {} ↔ t.Overlays write fun _ => none := by
  constructor
  · rintro rfl
    exact ⟨rfl, rfl, rfl, rfl, rfl, rfl, rfl, rfl, rfl⟩
  · rintro ⟨h₁, h₂, h₃, h₄, h₅, h₆, h₇, h₈, h₉⟩
    cases t
    cases h₁; cases h₂; cases h₃; cases h₄; cases h₅; cases h₆; cases h₇; cases h₈; cases h₉
    rfl

/-- What is supplied under other names than those of templates does not matter. -/
theorem Overlays.congr {supplied' : String → Option υ} {t : Templates}
    (h : ∀ name ∈ fieldNames, supplied' name = supplied name) (ht : t.Overlays write supplied) :
    t.Overlays write supplied' := by
  simp only [fieldNames, List.forall_mem_cons] at h
  obtain ⟨h₁, h₂, h₃, h₄, h₅, h₆, h₇, h₈, h₉, -⟩ := h
  exact ⟨h₁ ▸ ht.createFile, h₂ ▸ ht.listDir, h₃ ▸ ht.rpmList, h₄ ▸ ht.rpmGrep,
    h₅ ▸ ht.rpmInstall, h₆ ▸ ht.pgrep, h₇ ▸ ht.ping, h₈ ▸ ht.checksumBase64,
    h₉ ▸ ht.checksumHex⟩

/-- There are such templates unless something is supplied for one of them that is no text. -/
theorem exists_overlays_iff :
    (∃ t, Overlays write supplied t) ↔
      ∀ name ∈ fieldNames, ∀ given ∈ supplied name, ∃ s, given = write s := by
  constructor
  · rintro ⟨t, h⟩
    simp only [fieldNames, List.forall_mem_cons]
    exact ⟨exists_overlaid_iff.1 ⟨_, h.createFile⟩, exists_overlaid_iff.1 ⟨_, h.listDir⟩,
      exists_overlaid_iff.1 ⟨_, h.rpmList⟩, exists_overlaid_iff.1 ⟨_, h.rpmGrep⟩,
      exists_overlaid_iff.1 ⟨_, h.rpmInstall⟩, exists_overlaid_iff.1 ⟨_, h.pgrep⟩,
      exists_overlaid_iff.1 ⟨_, h.ping⟩, exists_overlaid_iff.1 ⟨_, h.checksumBase64⟩,
      exists_overlaid_iff.1 ⟨_, h.checksumHex⟩, List.forall_mem_nil _⟩
  · intro h
    have hvalue : ∀ name ∈ fieldNames, ∀ default, ∃ value,
        Overlaid write default (supplied name) value :=
      fun name hname default => exists_overlaid_iff.2 (h name hname)
    choose value hvalue using hvalue
    exact ⟨⟨value "create_file" (by decide) _, value "list_dir" (by decide) _,
      value "rpm_list" (by decide) _, value "rpm_grep" (by decide) _,
      value "rpm_install" (by decide) _, value "pgrep" (by decide) _,
      value "ping" (by decide) _, value "checksum_base64" (by decide) _,
      value "checksum_hex" (by decide) _⟩,
      ⟨hvalue _ _ _, hvalue _ _ _, hvalue _ _ _, hvalue _ _ _, hvalue _ _ _, hvalue _ _ _,
        hvalue _ _ _, hvalue _ _ _, hvalue _ _ _⟩⟩

/-- The nine values are those of the templates that they make. -/
theorem ofList?_eq_some_iff {values : List String} {t : Templates} :
    ofList? values = some t ↔ values = t.toList := by
  constructor
  · intro h
    unfold ofList? at h
    split at h
    · cases h
      rfl
    · contradiction
  · rintro rfl
    rfl

/-- Reading the fields one by one, each over its default, gives the templates laid over them. -/
theorem bind_ofList?_eq_some_iff {take : String → Option υ → Option String}
    (htake : ∀ default given value, take default given = some value ↔
      Overlaid write default given value) {t : Templates} :
    ((({} : Templates).toList.zip (fieldNames.map supplied)).mapM
        fun (default, given) => take default given).bind ofList? = some t ↔
      Overlays write supplied t := by
  have hlist : ((({} : Templates).toList.zip (fieldNames.map supplied)).mapM
        fun (default, given) => take default given).bind ofList? = some t ↔
      (({} : Templates).toList.zip (fieldNames.map supplied)).map
        (fun (default, given) => take default given) = t.toList.map some := by
    rw [Option.bind_eq_some_iff]
    simp only [Json.mapM_eq_some_iff, ofList?_eq_some_iff, exists_eq_right]
  rw [hlist]
  simp only [toList, fieldNames, List.map_cons, List.map_nil, List.zip_cons_cons,
    List.zip_nil_right, List.cons.injEq, htake, and_true]
  constructor
  · rintro ⟨h₁, h₂, h₃, h₄, h₅, h₆, h₇, h₈, h₉⟩
    exact ⟨h₁, h₂, h₃, h₄, h₅, h₆, h₇, h₈, h₉⟩
  · exact fun h => ⟨h.createFile, h.listDir, h.rpmList, h.rpmGrep, h.rpmInstall, h.pgrep, h.ping,
      h.checksumBase64, h.checksumHex⟩

/-! ## Templates in JSON -/

/-- A member is laid over a default where it is text. -/
theorem defaulted?_eq_some_iff (default : String) (given : Option Json) (value : String) :
    Json.defaulted? default given = some value ↔ Overlaid Json.text default given value := by
  cases given with
  | none => exact Option.some_inj.trans eq_comm
  | some given =>
    cases given with
    | str text => simp [Json.defaulted?, Overlaid, Json.text, Json.ofJson?]
    | _ => simp [Json.defaulted?, Overlaid, Json.text, Json.ofJson?]

/-- An object is read as the templates that its members lay over the default ones, provided that no
name of a template stands in it twice. -/
theorem read?_eq_some_iff {text : String} {members : List (String × Json)}
    (hparse : Json.parse? text = some (Json.object members))
    (hcount : ∀ name ∈ fieldNames, (members.map Prod.fst).count name ≤ 1) {t : Templates} :
    Json.read? Templates text = some t ↔
      Overlays Json.text (fun name => members.lookup name) t := by
  have hfields : Json.fieldsOrFewer? fieldNames (Json.object members) =
      some (fieldNames.map fun name => members.lookup name) :=
    Json.fields?_object_eq_lookup hcount
  rw [Json.read?, hparse, Option.bind_some, ← bind_ofList?_eq_some_iff defaulted?_eq_some_iff]
  simp only [Json.ofJson?, hfields]
  rfl

end Templates

end TestRig
