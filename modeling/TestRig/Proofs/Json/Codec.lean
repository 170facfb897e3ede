/-
  TestRig.Proofs.Json.Codec

  Values are read back from their JSON form.  `LawfulCodec` says so of a type; the rules
  for records come down to one lemma on the fields of an object (`fields?_object`), which
  itself rests on the lookup of a name that stands in an object at most once
  (`member?_eq_lookup`).
-/
import TestRig.Json.Codec
import TestRig.Proofs.Json.Parser
import Mathlib.Data.List.Count
import Mathlib.Data.List.Nodup
import Mathlib.Data.Option.Basic

namespace TestRig.Json

/-! ## Lists of partial results -/

theorem mapM_eq_some_iff {α β : Type} {f : α → Option β} {l : List α} {out : List β} :
    l.mapM f = some out ↔ l.map f = out.map some := by
  induction l generalizing out with
  | nil =>
    rw [List.mapM_nil, List.map_nil]
    cases out with
    | nil => exact iff_of_true rfl rfl
    | cons => exact iff_of_false nofun nofun
  | cons a rest ih =>
    rw [List.mapM_cons, List.map_cons]
    cases out with
    | nil =>
      refine iff_of_false (fun h => ?_) nofun
      obtain ⟨b, _, h⟩ := Option.bind_eq_some_iff.1 h
      obtain ⟨bs, _, h⟩ := Option.bind_eq_some_iff.1 h
      cases h
    | cons b bs =>
      rw [List.map_cons, List.cons.injEq, ← ih]
      constructor
      · intro h
        obtain ⟨b', hb, h⟩ := Option.bind_eq_some_iff.1 h
        obtain ⟨bs', hbs, h⟩ := Option.bind_eq_some_iff.1 h
        cases h
        exact ⟨hb, hbs⟩
      · rintro ⟨hb, hbs⟩
        rw [hb, hbs]
        rfl

/-! ## Numbers other than integers -/

theorem realFree_arr {items : List Json} (h : ∀ item ∈ items, item.RealFree) :
    (arr items).RealFree := by
  have hitems : ∀ first, ∀ token ∈ itemTokens first items, token.isReal = false := by
    induction items with
    | nil => exact fun _ => nofun
    | cons item rest ih =>
      rw [List.forall_mem_cons] at h
      intro first
      rw [itemTokens, List.forall_mem_append, List.forall_mem_append]
      refine ⟨⟨?_, h.1⟩, ih h.2 false⟩
      cases first <;> decide
  rw [RealFree, tokens, List.cons_append, List.forall_mem_cons, List.forall_mem_append]
  exact ⟨rfl, hitems true, by decide⟩

/-- An object with the names of its members apart from their values. -/
theorem object_eq (members : List (String × Json)) :
    object members = .obj (members.map fun member => (some member.1, member.2)) := rfl

theorem realFree_object {members : List (String × Json)}
    (h : ∀ member ∈ members, member.2.RealFree) : (object members).RealFree := by
  have hmembers : ∀ first, ∀ token ∈ memberTokens first
      (members.map fun member => (some member.1, member.2)), token.isReal = false := by
    induction members with
    | nil => exact fun _ => List.forall_mem_nil _
    | cons member rest ih =>
      rw [List.forall_mem_cons] at h
      intro first
      rw [List.map_cons, memberTokens]
      simp only [List.forall_mem_append]
      refine ⟨⟨⟨?_, ?_⟩, h.1⟩, ih h.2 false⟩
      · cases first <;> decide
      · simp [Token.isReal]
  rw [object_eq, RealFree, tokens, List.cons_append, List.forall_mem_cons,
    List.forall_mem_append]
  exact ⟨rfl, hmembers true, by decide⟩

/-! ## Records -/

theorem member?_cons_of_ne {members : List (Option String × Json)} {member : Option String × Json}
    {name : String} (h : member.1 ≠ some name) :
    member? (member :: members) name = member? members name := by
  rw [member?, List.filter_cons_of_neg (by simpa using h), member?]

theorem member?_cons_self {members : List (Option String × Json)} {name : String} {value : Json}
    (h : ∀ member ∈ members, member.1 ≠ some name) :
    member? ((some name, value) :: members) name = some (some value) := by
  rw [member?, List.filter_cons, List.filter_eq_nil_iff.2 (by simpa using h)]
  simp

/-- The only member of a name is the one that is found under it. -/
theorem member?_eq_lookup {members : List (Option String × Json)} {name : String}
    (h : (members.map Prod.fst).count (some name) ≤ 1) :
    member? members name = some (members.lookup (some name)) := by
  induction members with
  | nil => rfl
  | cons member rest ih =>
    obtain ⟨name', value⟩ := member
    rw [List.map_cons, List.count_cons] at h
    by_cases hname : name' = some name
    · -- no further member has the name
      subst hname
      rw [beq_self_eq_true, if_pos rfl] at h
      have hnone : some name ∉ rest.map Prod.fst := List.count_eq_zero.1 (by omega)
      rw [List.lookup_cons_self, member?_cons_self]
      exact fun member hmember heq => hnone (List.mem_map.2 ⟨member, hmember, heq⟩)
    · have hbeq : (some name == name') = false := beq_false_of_ne (Ne.symm hname)
      rw [member?_cons_of_ne hname, ih (by omega), List.lookup_cons, hbeq]

theorem lookup_map_some (members : List (String × Json)) (name : String) :
    (members.map fun member => (some member.1, member.2)).lookup (some name) =
      members.lookup name := by
  induction members with
  | nil => rfl
  | cons member rest ih =>
    rw [List.map_cons, List.lookup_cons, List.lookup_cons, ih]
    rfl

/-- The fields of an object in which the name of none stands twice. -/
theorem fields?_object_eq_lookup {names : List String} {members : List (String × Json)}
    (hcount : ∀ name ∈ names, (members.map Prod.fst).count name ≤ 1) :
    fields? names (object members) = some (names.map fun name => members.lookup name) := by
  have hkeys : (members.map fun member => (some member.1, member.2)).map Prod.fst =
      (members.map Prod.fst).map some := by
    rw [List.map_map, List.map_map]
    rfl
  have hany : ((members.map fun member => (some member.1, member.2)).any fun member =>
      member.1.isNone) = false := by
    rw [List.any_map, List.any_eq_false]
    exact fun _ _ => Bool.false_ne_true
  rw [object_eq, fields?, hany, if_neg Bool.false_ne_true, mapM_eq_some_iff, List.map_map]
  refine List.map_congr_left fun name hname => ?_
  rw [member?_eq_lookup, lookup_map_some]
  · rfl
  · rw [hkeys, List.count_map_of_injective _ _ (Option.some_injective _)]
    exact hcount name hname

theorem map_lookup_zip {names : List String} {values : List Json} (hnodup : names.Nodup)
    (hlength : names.length = values.length) :
    (names.map fun name => (names.zip values).lookup name) = values.map some := by
  induction names generalizing values with
  | nil =>
    cases List.length_eq_zero_iff.1 hlength.symm
    rfl
  | cons name rest ih =>
    cases values with
    | nil => contradiction
    | cons value more =>
      obtain ⟨hnew, hrest⟩ := List.nodup_cons.1 hnodup
      rw [List.zip_cons_cons, List.map_cons, List.map_cons, List.lookup_cons_self,
        ← ih hrest (Nat.succ.inj hlength)]
      congr 1
      refine List.map_congr_left fun other hother => ?_
      have hne : other ≠ name := fun heq => hnew (heq ▸ hother)
      rw [List.lookup_cons, beq_false_of_ne hne]

/-- The fields of an object are the values of its members. -/
theorem fields?_object {names : List String} (values : List Json) (hnodup : names.Nodup)
    (hlength : names.length = values.length) :
    fields? names (object (names.zip values)) = some (values.map some) := by
  have hkeys : (names.zip values).map Prod.fst = names := List.map_fst_zip hlength.le
  rw [fields?_object_eq_lookup, map_lookup_zip hnodup hlength]
  intro name _
  rw [hkeys]
  exact List.nodup_iff_count_le_one.1 hnodup name

/-! ## Lawful forms -/

/-- A JSON form from which each value is read back, and which holds no number but integers. -/
class LawfulCodec (α : Type) [Codec α] : Prop where
  ofJson?_toJson (a : α) : ofJson? (toJson a) = some a
  realFree_toJson (a : α) : (toJson a : Json).RealFree

export LawfulCodec (ofJson?_toJson realFree_toJson)

theorem realFree_int (n : Int) : (int n).RealFree := by
  simp [RealFree, tokens, Token.isReal]

theorem realFree_text (s : String) : (text s).RealFree := by
  simp [RealFree, text, tokens, Token.isReal]

theorem realFree_null : null.RealFree := by
  simp [RealFree, tokens, Token.isReal]

theorem intBetween?_int {low high n : Int} (hlow : low ≤ n) (hhigh : n ≤ high) :
    intBetween? low high (.int n) = some n := if_pos ⟨hlow, hhigh⟩

instance : LawfulCodec Bool where
  ofJson?_toJson _ := rfl
  realFree_toJson b := by simp [RealFree, toJson, tokens, Token.isReal]

instance : LawfulCodec String where
  ofJson?_toJson _ := rfl
  realFree_toJson := realFree_text

/-- Machine words are written as integers that fit. -/
theorem LawfulCodec.of_word {ω : Type} [Codec ω] {toNat : ω → Nat} {ofNat : Nat → ω} {high : Int}
    (hto : ∀ w, toJson w = .int (toNat w))
    (hof : ∀ j, ofJson? j = (intBetween? 0 high j).map fun n => ofNat n.toNat)
    (hhigh : ∀ w, (toNat w : Int) ≤ high) (hback : ∀ w, ofNat (toNat w) = w) :
    LawfulCodec ω where
  ofJson?_toJson w := by
    rw [hto, hof, intBetween?_int (Int.natCast_nonneg _) (hhigh w), Option.map_some,
      Int.toNat_natCast, hback]
  realFree_toJson w := by
    rw [hto]
    exact realFree_int _

instance : LawfulCodec UInt8 :=
  .of_word (fun _ => rfl) (fun _ => rfl) (fun w => by have hlt := w.toNat_lt; omega)
    fun _ => UInt8.ofNat_toNat

instance : LawfulCodec UInt32 :=
  .of_word (fun _ => rfl) (fun _ => rfl) (fun w => by have hlt := w.toNat_lt; omega)
    fun _ => UInt32.ofNat_toNat

instance : LawfulCodec UInt64 :=
  .of_word (fun _ => rfl) (fun _ => rfl) (fun w => by have hlt := w.toNat_lt; omega)
    fun _ => UInt64.ofNat_toNat

instance : LawfulCodec Int32 where
  ofJson?_toJson n := by
    have hlow : -2 ^ 31 ≤ n.toInt := n.le_toInt
    have hhigh : n.toInt < 2 ^ 31 := n.toInt_lt
    change (intBetween? (-0x80000000) 0x7FFFFFFF (.int n.toInt)).map _ = _
    rw [intBetween?_int (by omega) (by omega), Option.map_some, Int32.ofInt_toInt]
  realFree_toJson n := realFree_int n.toInt

/-- Null stands for no value, so that a value must not be written as null. -/
instance : LawfulCodec (Option UInt64) where
  ofJson?_toJson
    | none => rfl
    | some n => congrArg (Option.map some) (ofJson?_toJson n)
  realFree_toJson
    | none => realFree_null
    | some n => realFree_toJson n

instance {α : Type} [Codec α] [LawfulCodec α] : LawfulCodec (List α) where
  ofJson?_toJson items := by
    change (items.map toJson).mapM ofJson? = some items
    rw [mapM_eq_some_iff, List.map_map]
    exact List.map_congr_left fun a _ => ofJson?_toJson a
  realFree_toJson items := by
    refine realFree_arr fun item hitem => ?_
    obtain ⟨a, _, rfl⟩ := List.mem_map.1 hitem
    exact realFree_toJson a

variable {α : Type} [Codec α] [LawfulCodec α]

theorem required?_toJson (a : α) : required? (some (toJson a)) = some a := ofJson?_toJson a

/-- A record of two fields that must be there is read back from the object that it is written as. -/
theorem LawfulCodec.of_two_fields {ρ β : Type} [Codec ρ] [Codec β] [LawfulCodec β]
    {first second : String} (hne : first ≠ second) (p : ρ → α) (q : ρ → β) (make : α → β → ρ)
    (hto : ∀ r, toJson r = object [(first, toJson (p r)), (second, toJson (q r))])
    (hof : ∀ j, ofJson? j =
      match fields? [first, second] j with
      | some [a, b] => do some (make (← required? a) (← required? b))
      | _ => none)
    (hmake : ∀ r, make (p r) (q r) = r) : LawfulCodec ρ where
  ofJson?_toJson r := by
    have hfields : fields? [first, second] (toJson r) =
        some [some (toJson (p r)), some (toJson (q r))] := by
      rw [hto]
      exact fields?_object [toJson (p r), toJson (q r)] (by simp [hne]) rfl
    rw [hof, hfields]
    simp only [required?_toJson, Option.bind_eq_bind, Option.bind_some, hmake]
  realFree_toJson r := by
    rw [hto]
    exact realFree_object (by simp [realFree_toJson])

/-! ## Reading back -/

/-- Reads a text and writes what was read. -/
def rewrite? (α : Type) [Codec α] (text : String) : Option String := (read? α text).map write

/-- Each value is read back from what is written for it, in compact and in indented form, and
reading an accepted text and writing it again changes nothing more the second time. -/
def ReadsBack (α : Type) [Codec α] : Prop :=
  (∀ a : α, read? α (write a) = some a ∧ read? α (toJson a).pretty = some a) ∧
    ∀ text, (rewrite? α text).bind (rewrite? α) = rewrite? α text

/-- A value is read back from its compact text. -/
theorem read?_write (a : α) : read? α (write a) = some a := by
  rw [read?, write, parse?_compact (realFree_toJson a), Option.bind_some, ofJson?_toJson]

/-- A value is read back from its indented text. -/
theorem read?_pretty (a : α) : read? α (toJson a).pretty = some a := by
  rw [read?, parse?_pretty (realFree_toJson a), Option.bind_some, ofJson?_toJson]

theorem readsBack : ReadsBack α := by
  refine ⟨fun a => ⟨read?_write a, read?_pretty a⟩, fun text => ?_⟩
  rw [rewrite?]
  cases read? α text with
  | none => rfl
  | some a => rw [Option.map_some, Option.bind_some, rewrite?, read?_write, Option.map_some]

end TestRig.Json
