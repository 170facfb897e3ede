/-
  TestRig.Proofs.Config

  The configuration of a file, laid over the defaults field by field.  Only what a
  document supplies under a recognised key of a section counts (`supplied?`).  Each
  section is related to what is supplied in it, first where the section is a table, then
  where it may be missing; `ofTable?_eq_some_iff` puts the sections together.
-/
import TestRig.Config
import TestRig.Proofs.Command.Overlay
import TestRig.Proofs.FileSystem.Following
import TestRig.Proofs.Text.Decoding

namespace TestRig

open Toml (Value)

/-! ## What a document supplies -/

/-- A string. -/
def Toml.Value.IsString (value : Value) : Prop := ∃ s, value = .string s

/-- A truth value. -/
def Toml.Value.IsBoolean (value : Value) : Prop := ∃ b, value = .boolean b

/-- An integer from zero up to the bound. -/
def Toml.Value.IsWithin (bound : Nat) (value : Value) : Prop :=
  ∃ n : Nat, n ≤ bound ∧ value = .integer n

namespace Config

/-- What a document supplies under a key of a section, which is nothing where the section is no
table. -/
def supplied? (document : Toml.Table) (section_ key : String) : Option Value :=
  match document.lookup section_ with
  | some (.table entries) => entries.lookup key
  | _ => none

/-- The sections that mean something here. -/
def sectionNames : List String := ["log", "remote", "commands"]

/-- The sections and keys that mean something here. -/
def recognisedKeys : List (String × String) :=
  [("log", "level"), ("log", "json"), ("remote", "port"), ("remote", "connect_timeout_secs"),
    ("remote", "accept_unknown_host_keys"), ("remote", "known_hosts")] ++
  Templates.fieldNames.map fun name => ("commands", name)

/-- Each of these sections is a table where it is present. -/
def SectionsAreTables (document : Toml.Table) : Prop :=
  ∀ section_ ∈ sectionNames, ∀ value ∈ document.lookup section_, ∃ entries, value = .table entries

/-- The section is missing or empty. -/
def Bare (document : Toml.Table) (section_ : String) : Prop :=
  document.lookup section_ = none ∨ document.lookup section_ = some (.table [])

/-- The file at the path holds text that is the document. -/
def Parses (fs : FileSystem) (path : String) (document : Toml.Table) : Prop :=
  ∃ content text, fs.read (Text.encode path) = .ok content ∧
    Text.decode? content = some text ∧ Toml.parse? text = some document

end Config

/-! ## Overlays -/

/-- What is logged is what is supplied, over the defaults. -/
structure LogConfig.Overlays (supplied : String → Option Value) (log : LogConfig) : Prop where
  level : Overlaid Value.string ({} : LogConfig).level (supplied "level") log.level
  json : Overlaid Value.boolean ({} : LogConfig).json (supplied "json") log.json

/-- Other hosts are reached as is supplied, over the defaults.  There is no default for the file of
known hosts. -/
structure RemoteConfig.Overlays (supplied : String → Option Value) (remote : RemoteConfig) :
    Prop where
  port :
    Overlaid (fun port : UInt16 => Value.integer port.toNat) ({} : RemoteConfig).port
      (supplied "port") remote.port
  connectTimeoutSecs :
    Overlaid (fun secs : UInt64 => Value.integer secs.toNat) ({} : RemoteConfig).connectTimeoutSecs
      (supplied "connect_timeout_secs") remote.connectTimeoutSecs
  acceptUnknownHostKeys :
    Overlaid Value.boolean ({} : RemoteConfig).acceptUnknownHostKeys
      (supplied "accept_unknown_host_keys") remote.acceptUnknownHostKeys
  knownHosts : remote.knownHosts.map Value.string = supplied "known_hosts"

namespace Config

/-- Each field is what the document supplies under its key, and its default where the document
supplies nothing. -/
structure Overlays (document : Toml.Table) (config : Config) : Prop where
  log : config.log.Overlays (supplied? document "log")
  remote : config.remote.Overlays (supplied? document "remote")
  commands : config.commands.Overlays Value.string (supplied? document "commands")

/-- What the document supplies under recognised keys has the types and lies in the ranges of their
fields. -/
structure Fits (document : Toml.Table) : Prop where
  level : ∀ given ∈ supplied? document "log" "level", given.IsString
  json : ∀ given ∈ supplied? document "log" "json", given.IsBoolean
  port : ∀ given ∈ supplied? document "remote" "port", given.IsWithin 65535
  connectTimeoutSecs :
    ∀ given ∈ supplied? document "remote" "connect_timeout_secs",
      given.IsWithin 18446744073709551615
  acceptUnknownHostKeys :
    ∀ given ∈ supplied? document "remote" "accept_unknown_host_keys", given.IsBoolean
  knownHosts : ∀ given ∈ supplied? document "remote" "known_hosts", given.IsString
  commands :
    ∀ name ∈ Templates.fieldNames, ∀ given ∈ supplied? document "commands" name, given.IsString

/-! ## Fields -/

theorem field?_eq_some_iff {α : Type} {read : Value → Option α} {write : α → Value}
    (h : ∀ given value, read given = some value ↔ given = write value)
    (default : α) (given : Option Value) (value : α) :
    field? read default given = some value ↔ Overlaid write default given value := by
  cases given with
  | none => exact Option.some_inj.trans eq_comm
  | some given => exact h given value

theorem string?_eq_some_iff (given : Value) (s : String) :
    string? given = some s ↔ given = .string s := by
  cases given <;> simp [string?]

theorem boolean?_eq_some_iff (given : Value) (b : Bool) :
    boolean? given = some b ↔ given = .boolean b := by
  cases given <;> simp [boolean?]

theorem below?_eq_some_iff {bound : Nat} (given : Value) (n : Nat) :
    below? bound given = some n ↔ n < bound ∧ given = .integer n := by
  cases given with
  | integer m =>
    rw [below?, Option.ite_none_right_eq_some, Option.some_inj, Value.integer.injEq]
    omega
  | _ => simp [below?]

section Words

variable {ω : Type} {ofNat : Nat → ω} {toNat : ω → Nat} {size : Nat}
  (hof : ∀ n < size, toNat (ofNat n) = n) (hto : ∀ w, toNat w < size ∧ ofNat (toNat w) = w)

include hof hto

/-- A field of a type of machine words: numbers that fit are kept as they are. -/
theorem field?_word_eq_some_iff (default : Nat) (given : Option Value) (w : ω) :
    (field? (below? size) default given).map ofNat = some w ↔
      Overlaid (fun w => .integer (toNat w)) (ofNat default) given w := by
  cases given with
  | none => exact Option.some_inj.trans eq_comm
  | some given =>
    rw [Option.map_eq_some_iff]
    constructor
    · rintro ⟨n, hn, rfl⟩
      obtain ⟨hlt, hgiven⟩ := (below?_eq_some_iff given n).1 hn
      rw [Overlaid, hof n hlt, hgiven]
    · intro hgiven
      exact ⟨toNat w, (below?_eq_some_iff given _).2 ⟨(hto w).1, hgiven⟩, (hto w).2⟩

theorem exists_word_iff {bound : Nat} (hsize : size = bound + 1) (given : Value) :
    (∃ w, given = .integer (toNat w)) ↔ given.IsWithin bound := by
  constructor
  · rintro ⟨w, rfl⟩
    have hlt := (hto w).1
    exact ⟨toNat w, by omega, rfl⟩
  · rintro ⟨n, hn, rfl⟩
    have hlt : n < size := by omega
    exact ⟨ofNat n, by rw [hof n hlt]⟩

end Words

theorem port_eq_some_iff (given : Option Value) (port : UInt16) :
    (field? (below? UInt16.size) 22 given).map UInt16.ofNat = some port ↔
      Overlaid (fun port : UInt16 => .integer port.toNat) ({} : RemoteConfig).port given port :=
  field?_word_eq_some_iff (fun _ => UInt16.toNat_ofNat_of_lt)
    (fun port => ⟨port.toNat_lt, UInt16.ofNat_toNat⟩) 22 given port

theorem timeout_eq_some_iff (given : Option Value) (secs : UInt64) :
    (field? (below? UInt64.size) 30 given).map UInt64.ofNat = some secs ↔
      Overlaid (fun secs : UInt64 => .integer secs.toNat) ({} : RemoteConfig).connectTimeoutSecs
        given secs :=
  field?_word_eq_some_iff (fun _ => UInt64.toNat_ofNat_of_lt)
    (fun secs => ⟨secs.toNat_lt, UInt64.ofNat_toNat⟩) 30 given secs

theorem exists_port_iff (given : Value) :
    (∃ port : UInt16, given = .integer port.toNat) ↔ given.IsWithin 65535 :=
  exists_word_iff (fun _ => UInt16.toNat_ofNat_of_lt)
    (fun port => ⟨port.toNat_lt, UInt16.ofNat_toNat⟩) rfl given

theorem exists_timeout_iff (given : Value) :
    (∃ secs : UInt64, given = .integer secs.toNat) ↔ given.IsWithin 18446744073709551615 :=
  exists_word_iff (fun _ => UInt64.toNat_ofNat_of_lt)
    (fun secs => ⟨secs.toNat_lt, UInt64.ofNat_toNat⟩) rfl given

theorem knownHosts_eq_some_iff (given : Option Value) (knownHosts : Option String) :
    field? (fun v => (string? v).map some) none given = some knownHosts ↔
      knownHosts.map Value.string = given := by
  cases given with
  | none => cases knownHosts <;> simp [field?]
  | some given =>
    rw [field?, Option.map_eq_some_iff, Option.map_eq_some_iff]
    simp only [string?_eq_some_iff]
    exact exists_congr fun s => ⟨fun ⟨hgiven, hvalue⟩ => ⟨hvalue.symm, hgiven.symm⟩,
      fun ⟨hvalue, hgiven⟩ => ⟨hgiven.symm, hvalue.symm⟩⟩

/-! ## Sections -/

theorem log?_eq_some_iff (entries : List (String × Value)) (log : LogConfig) :
    log? (.table entries) = some log ↔ log.Overlays fun key => entries.lookup key := by
  simp only [log?, sectionFields?, List.map_cons, List.map_nil, Option.bind_eq_bind,
    Option.bind_eq_some_iff, field?_eq_some_iff string?_eq_some_iff,
    field?_eq_some_iff boolean?_eq_some_iff]
  constructor
  · rintro ⟨level, hlevel, json, hjson, ⟨⟩⟩
    exact ⟨hlevel, hjson⟩
  · exact fun h => ⟨_, h.level, _, h.json, rfl⟩

theorem remote?_eq_some_iff (entries : List (String × Value)) (remote : RemoteConfig) :
    remote? (.table entries) = some remote ↔ remote.Overlays fun key => entries.lookup key := by
  simp only [remote?, sectionFields?, List.map_cons, List.map_nil, Option.bind_eq_bind,
    Option.bind_eq_some_iff, field?_eq_some_iff boolean?_eq_some_iff, knownHosts_eq_some_iff]
  constructor
  · rintro ⟨port, hport, secs, hsecs, accept, haccept, knownHosts, hknown, ⟨⟩⟩
    exact ⟨(port_eq_some_iff _ _).1 (by rw [hport]; rfl),
      (timeout_eq_some_iff _ _).1 (by rw [hsecs]; rfl), haccept, hknown⟩
  · intro h
    -- the numbers are read first and become words together at the end
    obtain ⟨port, hport, hword⟩ := Option.map_eq_some_iff.1 ((port_eq_some_iff _ _).2 h.port)
    obtain ⟨secs, hsecs, hlong⟩ :=
      Option.map_eq_some_iff.1 ((timeout_eq_some_iff _ _).2 h.connectTimeoutSecs)
    exact ⟨port, hport, secs, hsecs, _, h.acceptUnknownHostKeys, _, h.knownHosts,
      by rw [hword, hlong]⟩

theorem commands?_eq_some_iff (entries : List (String × Value)) (t : Templates) :
    commands? (.table entries) = some t ↔ t.Overlays Value.string fun key => entries.lookup key :=
  Templates.bind_ofList?_eq_some_iff (field?_eq_some_iff string?_eq_some_iff)

/-- Where nothing is supplied, there are the defaults. -/
theorem log_eq_default_iff (log : LogConfig) : log = {} ↔ log.Overlays fun _ => none := by
  constructor
  · rintro rfl
    exact ⟨rfl, rfl⟩
  · rintro ⟨hlevel, hjson⟩
    cases log
    cases hlevel
    cases hjson
    rfl

theorem remote_eq_default_iff (remote : RemoteConfig) :
    remote = {} ↔ remote.Overlays fun _ => none := by
  constructor
  · rintro rfl
    exact ⟨rfl, rfl, rfl, rfl⟩
  · rintro ⟨hport, hsecs, haccept, hknown⟩
    cases remote
    cases hport
    cases hsecs
    cases haccept
    cases Option.map_eq_none_iff.1 hknown
    rfl

/-- A section that may be missing. -/
theorem field?_section_eq_some_iff {σ : Type} {read : Value → Option σ} {default : σ}
    {P : (String → Option Value) → σ → Prop}
    (htable : ∀ entries a, read (.table entries) = some a ↔ P (fun key => entries.lookup key) a)
    (hnone : ∀ a, a = default ↔ P (fun _ => none) a)
    {document : Toml.Table} {section_ : String}
    (hsection : ∀ value ∈ document.lookup section_, ∃ entries, value = .table entries) (a : σ) :
    field? read default (document.lookup section_) = some a ↔
      P (supplied? document section_) a := by
  cases hlookup : document.lookup section_ with
  | none =>
    have hsupplied : supplied? document section_ = fun _ => none := by
      funext key
      rw [supplied?, hlookup]
    rw [hsupplied, ← hnone]
    exact Option.some_inj.trans eq_comm
  | some value =>
    obtain ⟨entries, rfl⟩ := hsection value hlookup
    have hsupplied : supplied? document section_ = fun key => entries.lookup key := by
      funext key
      rw [supplied?, hlookup]
    rw [hsupplied, ← htable]
    rfl

/-! ## Documents -/

/-- The configuration of a document is the one that the document lays over the defaults. -/
theorem ofTable?_eq_some_iff {document : Toml.Table} (hsections : SectionsAreTables document)
    (config : Config) : ofTable? document = some config ↔ Overlays document config := by
  have hlog := field?_section_eq_some_iff log?_eq_some_iff log_eq_default_iff
    (hsections "log" (by decide))
  have hremote := field?_section_eq_some_iff remote?_eq_some_iff remote_eq_default_iff
    (hsections "remote" (by decide))
  have hcommands := field?_section_eq_some_iff commands?_eq_some_iff Templates.eq_default_iff
    (hsections "commands" (by decide))
  simp only [ofTable?, Option.bind_eq_bind, Option.bind_eq_some_iff, hlog, hremote, hcommands]
  constructor
  · rintro ⟨log, hlog, remote, hremote, commands, hcommands, ⟨⟩⟩
    exact ⟨hlog, hremote, hcommands⟩
  · exact fun h => ⟨_, h.log, _, h.remote, _, h.commands, rfl⟩

theorem exists_log_iff {supplied : String → Option Value} :
    (∃ log : LogConfig, log.Overlays supplied) ↔
      (∀ given ∈ supplied "level", given.IsString) ∧
        ∀ given ∈ supplied "json", given.IsBoolean := by
  constructor
  · rintro ⟨log, h⟩
    exact ⟨exists_overlaid_iff.1 ⟨_, h.level⟩, exists_overlaid_iff.1 ⟨_, h.json⟩⟩
  · rintro ⟨hlevel, hjson⟩
    obtain ⟨level, hlevel⟩ : ∃ s, Overlaid Value.string ({} : LogConfig).level _ s :=
      exists_overlaid_iff.2 hlevel
    obtain ⟨json, hjson⟩ : ∃ b, Overlaid Value.boolean ({} : LogConfig).json _ b :=
      exists_overlaid_iff.2 hjson
    exact ⟨⟨level, json⟩, hlevel, hjson⟩

theorem exists_knownHosts_iff {given : Option Value} :
    (∃ knownHosts : Option String, knownHosts.map Value.string = given) ↔
      ∀ value ∈ given, value.IsString := by
  constructor
  · rintro ⟨knownHosts, rfl⟩ value hvalue
    obtain ⟨s, _, rfl⟩ := Option.map_eq_some_iff.1 hvalue
    exact ⟨s, rfl⟩
  · intro h
    cases given with
    | none => exact ⟨none, rfl⟩
    | some value =>
      obtain ⟨s, rfl⟩ := h value rfl
      exact ⟨some s, rfl⟩

theorem exists_remote_iff {supplied : String → Option Value} :
    (∃ remote : RemoteConfig, remote.Overlays supplied) ↔
      (∀ given ∈ supplied "port", given.IsWithin 65535) ∧
      (∀ given ∈ supplied "connect_timeout_secs", given.IsWithin 18446744073709551615) ∧
      (∀ given ∈ supplied "accept_unknown_host_keys", given.IsBoolean) ∧
      ∀ given ∈ supplied "known_hosts", given.IsString := by
  simp only [← exists_port_iff, ← exists_timeout_iff]
  constructor
  · rintro ⟨remote, h⟩
    exact ⟨exists_overlaid_iff.1 ⟨_, h.port⟩, exists_overlaid_iff.1 ⟨_, h.connectTimeoutSecs⟩,
      exists_overlaid_iff.1 ⟨_, h.acceptUnknownHostKeys⟩,
      exists_knownHosts_iff.1 ⟨_, h.knownHosts⟩⟩
  · rintro ⟨hport, hsecs, haccept, hknown⟩
    obtain ⟨port, hport⟩ : ∃ port : UInt16, Overlaid (fun port => Value.integer port.toNat)
        ({} : RemoteConfig).port _ port := exists_overlaid_iff.2 hport
    obtain ⟨secs, hsecs⟩ : ∃ secs : UInt64, Overlaid (fun secs => Value.integer secs.toNat)
        ({} : RemoteConfig).connectTimeoutSecs _ secs := exists_overlaid_iff.2 hsecs
    obtain ⟨accept, haccept⟩ : ∃ b, Overlaid Value.boolean
        ({} : RemoteConfig).acceptUnknownHostKeys _ b := exists_overlaid_iff.2 haccept
    obtain ⟨knownHosts, hknown⟩ := exists_knownHosts_iff.2 hknown
    exact ⟨⟨port, secs, accept, knownHosts⟩, hport, hsecs, haccept, hknown⟩

/-- Some configuration lies over the defaults as the document has it, if the document fits. -/
theorem exists_overlays_iff {document : Toml.Table} :
    (∃ config, Overlays document config) ↔ Fits document := by
  constructor
  · rintro ⟨config, hlog, hremote, hcommands⟩
    obtain ⟨hlevel, hjson⟩ := exists_log_iff.1 ⟨_, hlog⟩
    obtain ⟨hport, hsecs, haccept, hknown⟩ := exists_remote_iff.1 ⟨_, hremote⟩
    have htemplates := Templates.exists_overlays_iff.1 ⟨_, hcommands⟩
    exact ⟨hlevel, hjson, hport, hsecs, haccept, hknown, htemplates⟩
  · rintro ⟨hlevel, hjson, hport, hsecs, haccept, hknown, htemplates⟩
    obtain ⟨log, hlog⟩ := exists_log_iff.2 ⟨hlevel, hjson⟩
    obtain ⟨remote, hremote⟩ := exists_remote_iff.2 ⟨hport, hsecs, haccept, hknown⟩
    obtain ⟨commands, hcommands⟩ := Templates.exists_overlays_iff.2 htemplates
    exact ⟨⟨log, remote, commands⟩, hlog, hremote, hcommands⟩

/-- Keys that are not recognised do not matter. -/
theorem Overlays.congr {document document' : Toml.Table} {config : Config}
    (h : ∀ key ∈ recognisedKeys, supplied? document' key.1 key.2 = supplied? document key.1 key.2)
    (hconfig : Overlays document config) : Overlays document' config := by
  rw [recognisedKeys, List.forall_mem_append, List.forall_mem_map] at h
  obtain ⟨hkeys, hnames⟩ := h
  simp only [List.forall_mem_cons] at hkeys
  obtain ⟨hlevel, hjson, hport, hsecs, haccept, hknown, -⟩ := hkeys
  obtain ⟨hlog, hremote, hcommands⟩ := hconfig
  exact {
    log := ⟨hlevel ▸ hlog.level, hjson ▸ hlog.json⟩
    remote := ⟨hport ▸ hremote.port, hsecs ▸ hremote.connectTimeoutSecs,
      haccept ▸ hremote.acceptUnknownHostKeys, hknown ▸ hremote.knownHosts⟩
    commands := hcommands.congr hnames }

/-! ## Files -/

/-- A file that holds a document has its configuration, or it is malformed. -/
theorem load_eq {fs : FileSystem} {path : String} {document : Toml.Table}
    (hfile : Parses fs path document) :
    load fs path =
      match ofTable? document with
      | some config => .ok config
      | none => .error .malformed := by
  obtain ⟨content, text, hread, hdecode, hparse⟩ := hfile
  cases hfound : ofTable? document with
  | none => simp only [load, hread, hdecode, hparse, Option.bind_some, hfound]
  | some config => simp only [load, hread, hdecode, hparse, Option.bind_some, hfound]

theorem load_eq_ok_iff {fs : FileSystem} {path : String} {document : Toml.Table}
    (hfile : Parses fs path document) (hsections : SectionsAreTables document) (config : Config) :
    load fs path = .ok config ↔ Overlays document config := by
  rw [load_eq hfile, ← ofTable?_eq_some_iff hsections]
  cases ofTable? document with
  | none => exact iff_of_false nofun nofun
  | some found => rw [Except.ok.injEq, Option.some_inj]

/-- Two files that supply the same under recognised keys have the same configuration. -/
theorem load_congr {fs fs' : FileSystem} {path path' : String} {document document' : Toml.Table}
    (hfile : Parses fs path document) (hfile' : Parses fs' path' document')
    (hsections : SectionsAreTables document) (hsections' : SectionsAreTables document')
    (h : ∀ key ∈ recognisedKeys,
      supplied? document' key.1 key.2 = supplied? document key.1 key.2) :
    load fs' path' = load fs path := by
  have htable : ofTable? document' = ofTable? document := by
    refine Option.ext fun config => ?_
    rw [ofTable?_eq_some_iff hsections, ofTable?_eq_some_iff hsections']
    exact ⟨.congr fun key hkey => (h key hkey).symm, .congr h⟩
  rw [load_eq hfile, load_eq hfile', htable]

theorem supplied?_of_bare {document : Toml.Table} {section_ : String} (h : Bare document section_) :
    supplied? document section_ = fun _ => none := by
  funext key
  rcases h with h | h
  · rw [supplied?, h]
  · rw [supplied?, h]
    rfl

theorem eq_default_of_bare {document : Toml.Table} {config : Config}
    (h : Overlays document config) :
    (Bare document "log" → config.log = {}) ∧ (Bare document "remote" → config.remote = {}) ∧
      (Bare document "commands" → config.commands = {}) := by
  obtain ⟨hlog, hremote, hcommands⟩ := h
  refine ⟨fun hbare => ?_, fun hbare => ?_, fun hbare => ?_⟩
  · rw [supplied?_of_bare hbare] at hlog
    exact (log_eq_default_iff _).2 hlog
  · rw [supplied?_of_bare hbare] at hremote
    exact (remote_eq_default_iff _).2 hremote
  · rw [supplied?_of_bare hbare] at hcommands
    exact (Templates.eq_default_iff _).2 hcommands

/-- A configuration file is laid over the defaults field by field.  It can be used if what it
supplies under recognised keys fits; then each field is what is supplied for it, and otherwise its
default.  Nothing else in the file matters, and a section that is missing or empty has its
defaults.  Templates in JSON obey the same law. -/
theorem load_lays_over_defaults {fs : FileSystem} {path : String} {document : Toml.Table}
    (hfile : Parses fs path document) (hsections : SectionsAreTables document) :
    ((∃ config, load fs path = .ok config) ↔ Fits document) ∧
    (∀ config, load fs path = .ok config ↔ Overlays document config) ∧
    (∀ fs' path' document', Parses fs' path' document' → SectionsAreTables document' →
      (∀ key ∈ recognisedKeys,
        supplied? document' key.1 key.2 = supplied? document key.1 key.2) →
      load fs' path' = load fs path) ∧
    (∀ config, load fs path = .ok config →
      (Bare document "log" → config.log = {}) ∧ (Bare document "remote" → config.remote = {}) ∧
        (Bare document "commands" → config.commands = {})) ∧
    ((∀ section_ ∈ sectionNames, Bare document section_) → load fs path = .ok {}) ∧
    ∀ (text : String) (members : List (String × Json)),
      Json.parse? text = some (Json.object members) →
      (∀ name ∈ Templates.fieldNames, (members.map Prod.fst).count name ≤ 1) →
      ((∃ t, Json.read? Templates text = some t) ↔
        ∀ name ∈ Templates.fieldNames, ∀ given ∈ members.lookup name,
          ∃ s, given = Json.text s) ∧
      ∀ t, Json.read? Templates text = some t ↔
        t.Overlays Json.text fun name => members.lookup name := by
  have hload := load_eq_ok_iff hfile hsections
  refine ⟨?_, hload, ?_, ?_, ?_, ?_⟩
  · simp only [hload]
    exact exists_overlays_iff
  · intro fs' path' document' hfile' hsections' hkeys
    exact load_congr hfile hfile' hsections hsections' hkeys
  · intro config hconfig
    exact eq_default_of_bare ((hload config).1 hconfig)
  · intro hbare
    refine (hload {}).2 ⟨?_, ?_, ?_⟩
    · rw [supplied?_of_bare (hbare "log" (by decide)), ← log_eq_default_iff]
    · rw [supplied?_of_bare (hbare "remote" (by decide)), ← remote_eq_default_iff]
    · rw [supplied?_of_bare (hbare "commands" (by decide)), ← Templates.eq_default_iff]
  · intro text members hparse hcount
    have hread := fun t => Templates.read?_eq_some_iff hparse hcount (t := t)
    refine ⟨?_, hread⟩
    simp only [hread]
    exact Templates.exists_overlays_iff

/-- A file system whose only file holds the text. -/
def diskWith (text : String) : FileSystem where
  nodes := [([Text.encode "c"], .file 0o644 (Text.encode text))]

theorem parses_diskWith {text : String} {document : Toml.Table}
    (h : Toml.parse? text = some document) : Parses (diskWith text) "c" document := by
  refine ⟨Text.encode text, text, ?_, Text.decode?_encode text, h⟩
  simp only [FileSystem.read, FileSystem.find, FileSystem.locate, FileSystem.walk_eq_walkLinks]
  rfl

/-- A configuration that sets the port, beside a key that means nothing. -/
def portText : String := "[log]\nverbose = 1\n[remote]\nport = 65535\n"

/-- The same port in another form, beside another key that means nothing. -/
def dottedPortText : String := "extra = 2\nremote.port = 65535\n"

theorem load_lays_over_defaults_port :
    load (diskWith portText) "c" = .ok { remote := { port := 65535 } } ∧
    load (diskWith dottedPortText) "c" = load (diskWith portText) "c" ∧
    Json.read? Templates "\x7b\"x\":1,\"ping\":\"p\"\x7d" = some { ping := "p" } := by
  have hfile : Parses (diskWith portText) "c" [("log", .table [("verbose", .integer 1)]),
      ("remote", .table [("port", .integer 65535)])] :=
    parses_diskWith (by simp only [Toml.parse?, portText, String.reduceToList]; rfl)
  have hfile' : Parses (diskWith dottedPortText) "c" [("extra", .integer 2),
      ("remote", .table [("port", .integer 65535)])] :=
    parses_diskWith (by simp only [Toml.parse?, dottedPortText, String.reduceToList]; rfl)
  have hsections : SectionsAreTables [("log", .table [("verbose", .integer 1)]),
      ("remote", .table [("port", .integer 65535)])] := by
    simp [SectionsAreTables, sectionNames, List.lookup_cons]
  have hsections' : SectionsAreTables [("extra", .integer 2),
      ("remote", .table [("port", .integer 65535)])] := by
    simp [SectionsAreTables, sectionNames, List.lookup_cons]
  obtain ⟨-, hload, hcongr, -, -, hjson⟩ := load_lays_over_defaults hfile hsections
  refine ⟨?_, ?_, ?_⟩
  · refine (hload _).2 ⟨⟨rfl, rfl⟩, ⟨rfl, rfl, rfl, rfl⟩, ?_⟩
    exact ⟨rfl, rfl, rfl, rfl, rfl, rfl, rfl, rfl, rfl⟩
  · refine hcongr _ "c" _ hfile' hsections' ?_
    simp [recognisedKeys, Templates.fieldNames, supplied?, List.lookup_cons]
  · have htokens : Json.tokens? "\x7b\"x\":1,\"ping\":\"p\"\x7d".toList =
        some [.openBrace, .str "x", .colon, .int 1, .comma, .str "ping", .colon, .str "p",
          .closeBrace] := by decide +kernel
    have hparse : Json.parse? "\x7b\"x\":1,\"ping\":\"p\"\x7d" =
        some (Json.object [("x", .int 1), ("ping", Json.text "p")]) := by
      rw [Json.parse?, htokens]
      rfl
    refine ((hjson _ _ hparse (by decide)).2 _).2 ?_
    exact ⟨rfl, rfl, rfl, rfl, rfl, rfl, rfl, rfl, rfl⟩

/-- A time beyond 64 bits. -/
def longTimeoutText : String := "[remote]\nconnect_timeout_secs = 18446744073709551616\n"

def longTimeoutDocument : Toml.Table :=
  [("remote", .table [("connect_timeout_secs", .integer 18446744073709551616)])]

/-- That a time is a non-negative integer is not enough. -/
theorem load_refuses_long_timeout :
    Parses (diskWith longTimeoutText) "c" longTimeoutDocument ∧
    SectionsAreTables longTimeoutDocument ∧
    (∀ key ∈ recognisedKeys, key ≠ ("remote", "connect_timeout_secs") →
      supplied? longTimeoutDocument key.1 key.2 = none) ∧
    (∃ n : Nat, supplied? longTimeoutDocument "remote" "connect_timeout_secs" =
      some (.integer n)) ∧
    ¬ ∃ config, load (diskWith longTimeoutText) "c" = .ok config := by
  have hfile : Parses (diskWith longTimeoutText) "c" longTimeoutDocument :=
    parses_diskWith (by simp only [Toml.parse?, longTimeoutText, String.reduceToList]; rfl)
  have hsections : SectionsAreTables longTimeoutDocument := by
    simp [SectionsAreTables, sectionNames, longTimeoutDocument, List.lookup_cons]
  refine ⟨hfile, hsections, ?_, ⟨18446744073709551616, rfl⟩, ?_⟩
  · simp [recognisedKeys, Templates.fieldNames, supplied?, longTimeoutDocument, List.lookup_cons]
  · rintro ⟨config, hload⟩
    have hfits := exists_overlays_iff.1 ⟨config, (load_eq_ok_iff hfile hsections config).1 hload⟩
    obtain ⟨n, hn, hgiven⟩ := hfits.connectTimeoutSecs _ rfl
    have hvalue : (18446744073709551616 : Int) = n := Value.integer.inj hgiven
    omega

end Config

end TestRig
