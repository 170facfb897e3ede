/-
  TestRig.Proofs.Json.Parser

  The parser inverts the printer.  Where a value may come, the tokens of a value lead to
  the state behind that value, whatever frames are open (`foldlM_tokens`); the items of
  an array and the members of an object are gathered in their frame meanwhile.  Compact
  and indented text both spell the tokens of their value, since behind a word there is
  always a mark or white space, so that they are read as the value (`parse?_compact`,
  `parse?_pretty`).
-/
import TestRig.Json.Parser
import TestRig.Json.Printer
import TestRig.Proofs.Json.Token

namespace TestRig.Json

open TestRig.Json.Parser (step)

/-! ## Single steps -/

section Steps

variable (stack : List Frame)

/-- In front of an item an array that may end behaves like one that goes on. -/
theorem step_valueOrClose {token : Token} (h : token ≠ .closeBracket) :
    step ⟨stack, .valueOrClose⟩ token = step ⟨stack, .value⟩ token := by
  cases token <;> first | rfl | exact absurd rfl h

/-- A value begins with a token that does not end an array. -/
theorem exists_tokens_eq_cons (value : Json) :
    ∃ token rest, value.tokens = token :: rest ∧ token ≠ .closeBracket := by
  cases value <;> exact ⟨_, _, rfl, nofun⟩

/-- An array takes its first item as a value. -/
theorem foldlM_tokens_valueOrClose (value : Json) :
    value.tokens.foldlM step ⟨stack, .valueOrClose⟩ =
      value.tokens.foldlM step ⟨stack, .value⟩ := by
  obtain ⟨token, rest, htokens, hnot⟩ := exists_tokens_eq_cons value
  rw [htokens, List.foldlM_cons, List.foldlM_cons, step_valueOrClose stack hnot]

/-- The name of a further member, with the colon behind it. -/
theorem foldlM_name (read : List (Option String × Json)) (name : Option String) :
    [Token.str name, .colon].foldlM step ⟨stack, .name read⟩ =
      some ⟨.object read name :: stack, .value⟩ := rfl

/-- The name of the first member, with the colon behind it. -/
theorem foldlM_nameOrClose (name : Option String) :
    [Token.str name, .colon].foldlM step ⟨stack, .nameOrClose⟩ =
      some ⟨.object [] name :: stack, .value⟩ := rfl

end Steps

/-! ## Values -/

mutual

/-- The tokens of a value are read as the value. -/
theorem foldlM_tokens (value : Json) (stack : List Frame) :
    value.tokens.foldlM step ⟨stack, .value⟩ = some ⟨stack, .afterValue value⟩ := by
  match value with
  | .null | .bool _ | .int _ | .real _ | .str _ => rfl
  | .arr [] => rfl
  | .arr (item :: rest) =>
    have hitem := foldlM_tokens item (.array [] :: stack)
    have hrest := foldlM_itemTokens rest stack [] item
    rw [tokens, itemTokens, if_pos rfl, List.nil_append, List.cons_append, List.append_assoc,
      List.foldlM_cons]
    -- the bracket may also be closed here, which no first token of a value does
    change List.foldlM step ⟨.array [] :: stack, .valueOrClose⟩ _ = _
    rw [List.foldlM_append, foldlM_tokens_valueOrClose, hitem]
    exact hrest
  | .obj [] => rfl
  | .obj ((name, member) :: rest) =>
    have hmember := foldlM_tokens member (.object [] name :: stack)
    have hrest := foldlM_memberTokens rest stack [] name member
    rw [tokens, memberTokens, if_pos rfl, List.nil_append, List.cons_append, List.foldlM_cons]
    change List.foldlM step ⟨stack, .nameOrClose⟩ _ = _
    rw [List.append_assoc, List.append_assoc, List.foldlM_append, foldlM_nameOrClose,
      Option.bind_eq_bind, Option.bind_some, List.foldlM_append, hmember]
    exact hrest

/-- Behind an item of an array, the further items and the bracket that ends it. -/
theorem foldlM_itemTokens (items : List Json) (stack : List Frame) (read : List Json)
    (value : Json) :
    (itemTokens false items ++ [Token.closeBracket]).foldlM step
        ⟨.array read :: stack, .afterValue value⟩ =
      some ⟨stack, .afterValue (.arr ((value :: read).reverse ++ items))⟩ := by
  match items with
  | [] =>
    rw [List.append_nil]
    rfl
  | item :: rest =>
    have hitem := foldlM_tokens item (.array (value :: read) :: stack)
    have hrest := foldlM_itemTokens rest stack (value :: read) item
    rw [itemTokens, if_neg nofun, List.append_assoc, List.append_assoc, List.singleton_append,
      List.foldlM_cons]
    change List.foldlM step ⟨.array (value :: read) :: stack, .value⟩ _ = _
    rw [List.foldlM_append, hitem, Option.bind_eq_bind, Option.bind_some, hrest,
      List.reverse_cons, List.append_assoc, List.singleton_append]

/-- Behind a member of an object, the further members and the brace that ends it. -/
theorem foldlM_memberTokens (members : List (Option String × Json)) (stack : List Frame)
    (read : List (Option String × Json)) (name : Option String) (value : Json) :
    (memberTokens false members ++ [Token.closeBrace]).foldlM step
        ⟨.object read name :: stack, .afterValue value⟩ =
      some ⟨stack, .afterValue (.obj (((name, value) :: read).reverse ++ members))⟩ := by
  match members with
  | [] =>
    rw [List.append_nil]
    rfl
  | (name', member) :: rest =>
    have hmember := foldlM_tokens member (.object ((name, value) :: read) name' :: stack)
    have hrest := foldlM_memberTokens rest stack ((name, value) :: read) name' member
    rw [memberTokens, if_neg nofun, List.append_assoc, List.append_assoc, List.append_assoc,
      List.singleton_append, List.foldlM_cons]
    change List.foldlM step ⟨stack, .name ((name, value) :: read)⟩ _ = _
    rw [List.foldlM_append, foldlM_name, Option.bind_eq_bind, Option.bind_some,
      List.foldlM_append, hmember, Option.bind_eq_bind, Option.bind_some, hrest,
      List.reverse_cons, List.append_assoc, List.singleton_append]

end

/-- The parser reads the tokens of a value as the value. -/
theorem ofTokens?_tokens (value : Json) : ofTokens? value.tokens = some value := by
  rw [ofTokens?, Parser.start, foldlM_tokens]
  rfl

/-! ## Texts of a value -/

/-- Does the value hold no number other than integers? -/
def RealFree (value : Json) : Prop := ∀ token ∈ value.tokens, token.isReal = false

/-! ### Compact text -/

theorem delimited_items {items : List Json} {text : List Char} (htext : Delimited text) :
    Delimited ((itemTokens false items).flatMap Token.spell ++ text) := by
  cases items with
  | nil => exact htext
  | cons => exact delimited_spell_append .comma rfl _

theorem delimited_members {members : List (Option String × Json)} {text : List Char}
    (htext : Delimited text) :
    Delimited ((memberTokens false members).flatMap Token.spell ++ text) := by
  cases members with
  | nil => exact htext
  | cons => exact delimited_spell_append .comma rfl _

mutual

/-- Compact text spells the tokens of the value, in front of any text that does not lengthen it. -/
theorem spells_compact (value : Json) (hreal : ∀ token ∈ value.tokens, token.isReal = false)
    {text : List Char} {ts : List Token} (h : Spells text ts) (htext : Delimited text) :
    Spells (value.tokens.flatMap Token.spell ++ text) (value.tokens ++ ts) := by
  match value with
  | .null | .bool _ | .int _ | .str _ =>
    rw [tokens, List.flatMap_singleton]
    exact .token rfl (fun _ => htext) h
  | .real _ => exact nomatch hreal _ List.mem_cons_self
  | .arr [] => exact .mark .openBracket rfl (.mark .closeBracket rfl h)
  | .arr (item :: rest) =>
    have hclose : Spells (']' :: text) (.closeBracket :: ts) := .mark .closeBracket rfl h
    have hdelimited : Delimited (']' :: text) := delimited_spell_append .closeBracket rfl _
    simp only [tokens, itemTokens, if_true, List.nil_append, List.cons_append, List.append_assoc,
      List.forall_mem_cons, List.forall_mem_append, List.flatMap_cons, List.flatMap_append]
      at hreal ⊢
    exact .mark .openBracket rfl (spells_compact item hreal.2.1
      (spells_compactItems rest hreal.2.2.1 hclose hdelimited) (delimited_items hdelimited))
  | .obj [] => exact .mark .openBrace rfl (.mark .closeBrace rfl h)
  | .obj ((name, member) :: rest) =>
    have hclose : Spells ('\x7d' :: text) (.closeBrace :: ts) := .mark .closeBrace rfl h
    have hdelimited : Delimited ('\x7d' :: text) := delimited_spell_append .closeBrace rfl _
    simp only [tokens, memberTokens, if_true, List.nil_append, List.cons_append, List.append_assoc,
      List.forall_mem_cons, List.forall_mem_append, List.flatMap_cons, List.flatMap_append]
      at hreal ⊢
    exact .mark .openBrace rfl (.mark (.str name) rfl (.mark .colon rfl
      (spells_compact member hreal.2.2.2.1
        (spells_compactMembers rest hreal.2.2.2.2.1 hclose hdelimited)
        (delimited_members hdelimited))))

/-- So do the further items of an array. -/
theorem spells_compactItems (items : List Json)
    (hreal : ∀ token ∈ itemTokens false items, token.isReal = false)
    {text : List Char} {ts : List Token} (h : Spells text ts) (htext : Delimited text) :
    Spells ((itemTokens false items).flatMap Token.spell ++ text)
      (itemTokens false items ++ ts) := by
  match items with
  | [] => exact h
  | item :: rest =>
    simp only [itemTokens, Bool.false_eq_true, if_false, List.cons_append, List.nil_append,
      List.append_assoc, List.forall_mem_cons, List.forall_mem_append, List.flatMap_cons,
      List.flatMap_append] at hreal ⊢
    exact .mark .comma rfl (spells_compact item hreal.2.1
      (spells_compactItems rest hreal.2.2 h htext) (delimited_items htext))

/-- So do the further members of an object. -/
theorem spells_compactMembers (members : List (Option String × Json))
    (hreal : ∀ token ∈ memberTokens false members, token.isReal = false)
    {text : List Char} {ts : List Token} (h : Spells text ts) (htext : Delimited text) :
    Spells ((memberTokens false members).flatMap Token.spell ++ text)
      (memberTokens false members ++ ts) := by
  match members with
  | [] => exact h
  | (name, member) :: rest =>
    simp only [memberTokens, Bool.false_eq_true, if_false, List.cons_append, List.nil_append,
      List.append_assoc, List.forall_mem_cons, List.forall_mem_append, List.flatMap_cons,
      List.flatMap_append] at hreal ⊢
    exact .mark .comma rfl (.mark (.str name) rfl (.mark .colon rfl (spells_compact member
      hreal.2.2.2.1 (spells_compactMembers rest hreal.2.2.2.2 h htext) (delimited_members htext))))

end

/-- Compact text is read as the value that it was written for. -/
theorem parse?_compact {value : Json} (h : value.RealFree) : parse? value.compact = some value := by
  have hspells := spells_compact value h .nil nofun
  rw [List.append_nil, List.append_nil] at hspells
  rw [parse?, compact, String.toList_ofList, hspells.tokens?_eq, Option.bind_some,
    ofTokens?_tokens]

/-! ### Indented text -/

/-- Line breaks and indentation spell nothing. -/
theorem spells_newLine (level : Nat) {text : List Char} {ts : List Token} (h : Spells text ts) :
    Spells (newLine level ++ text) ts := by
  have hspaces : ∀ n, Spells (List.replicate n ' ' ++ text) ts := fun n => by
    induction n with
    | zero => exact h
    | succ n ih => exact .space rfl ih
  exact .space rfl (hspaces _)

theorem delimited_newLine (level : Nat) (text : List Char) : Delimited (newLine level ++ text) := by
  rintro _ ⟨⟩
  decide

theorem delimited_prettyItems (level : Nat) {items : List Json} {text : List Char}
    (htext : Delimited text) : Delimited (prettyItems level items ++ text) := by
  cases items with
  | nil => exact htext
  | cons => exact delimited_spell_append .comma rfl _

theorem delimited_prettyMembers (level : Nat) {members : List (Option String × Json)}
    {text : List Char} (htext : Delimited text) :
    Delimited (prettyMembers level members ++ text) := by
  cases members with
  | nil => exact htext
  | cons => exact delimited_spell_append .comma rfl _

mutual

/-- Indented text spells the same tokens as compact text. -/
theorem spells_pretty (level : Nat) (value : Json)
    (hreal : ∀ token ∈ value.tokens, token.isReal = false)
    {text : List Char} {ts : List Token} (h : Spells text ts) (htext : Delimited text) :
    Spells (prettyChars level value ++ text) (value.tokens ++ ts) := by
  match value with
  | .null | .bool _ | .int _ | .str _ =>
    rw [prettyChars]
    exact .token rfl (fun _ => htext) h
  | .real _ => exact nomatch hreal _ List.mem_cons_self
  | .arr [] => exact .mark .openBracket rfl (.mark .closeBracket rfl h)
  | .arr (item :: rest) =>
    have hclose : Spells (newLine level ++ ']' :: text) (.closeBracket :: ts) :=
      spells_newLine level (.mark .closeBracket rfl h)
    have hdelimited := delimited_newLine level (']' :: text)
    simp only [tokens, itemTokens, prettyChars, if_true, List.nil_append, List.cons_append,
      List.append_assoc, List.forall_mem_cons, List.forall_mem_append] at hreal ⊢
    exact .mark .openBracket rfl (spells_newLine _ (spells_pretty _ item hreal.2.1
      (spells_prettyItems level rest hreal.2.2.1 hclose hdelimited)
      (delimited_prettyItems level hdelimited)))
  | .obj [] => exact .mark .openBrace rfl (.mark .closeBrace rfl h)
  | .obj ((name, member) :: rest) =>
    have hclose : Spells (newLine level ++ '\x7d' :: text) (.closeBrace :: ts) :=
      spells_newLine level (.mark .closeBrace rfl h)
    have hdelimited := delimited_newLine level ('\x7d' :: text)
    simp only [tokens, memberTokens, prettyChars, if_true, List.nil_append, List.cons_append,
      List.append_assoc, List.forall_mem_cons, List.forall_mem_append] at hreal ⊢
    exact .mark .openBrace rfl (spells_newLine _ (.mark (.str name) rfl (.mark .colon rfl
      (.space rfl (spells_pretty _ member hreal.2.2.2.1
        (spells_prettyMembers level rest hreal.2.2.2.2.1 hclose hdelimited)
        (delimited_prettyMembers level hdelimited))))))

/-- So do the further items of an array. -/
theorem spells_prettyItems (level : Nat) (items : List Json)
    (hreal : ∀ token ∈ itemTokens false items, token.isReal = false)
    {text : List Char} {ts : List Token} (h : Spells text ts) (htext : Delimited text) :
    Spells (prettyItems level items ++ text) (itemTokens false items ++ ts) := by
  match items with
  | [] => exact h
  | item :: rest =>
    simp only [itemTokens, prettyItems, Bool.false_eq_true, if_false, List.cons_append,
      List.nil_append, List.append_assoc, List.forall_mem_cons, List.forall_mem_append] at hreal ⊢
    exact .mark .comma rfl (spells_newLine _ (spells_pretty _ item hreal.2.1
      (spells_prettyItems level rest hreal.2.2 h htext) (delimited_prettyItems level htext)))

/-- So do the further members of an object. -/
theorem spells_prettyMembers (level : Nat) (members : List (Option String × Json))
    (hreal : ∀ token ∈ memberTokens false members, token.isReal = false)
    {text : List Char} {ts : List Token} (h : Spells text ts) (htext : Delimited text) :
    Spells (prettyMembers level members ++ text) (memberTokens false members ++ ts) := by
  match members with
  | [] => exact h
  | (name, member) :: rest =>
    simp only [memberTokens, prettyMembers, Bool.false_eq_true, if_false, List.cons_append,
      List.nil_append, List.append_assoc, List.forall_mem_cons, List.forall_mem_append] at hreal ⊢
    exact .mark .comma rfl (spells_newLine _ (.mark (.str name) rfl (.mark .colon rfl
      (.space rfl (spells_pretty _ member hreal.2.2.2.1
        (spells_prettyMembers level rest hreal.2.2.2.2 h htext)
        (delimited_prettyMembers level htext))))))

end

/-- Indented text is read as the value that it was written for. -/
theorem parse?_pretty {value : Json} (h : value.RealFree) : parse? value.pretty = some value := by
  have hspells := spells_pretty 0 value h .nil nofun
  rw [List.append_nil, List.append_nil] at hspells
  rw [parse?, pretty, String.toList_ofList, hspells.tokens?_eq, Option.bind_some,
    ofTokens?_tokens]

end TestRig.Json
