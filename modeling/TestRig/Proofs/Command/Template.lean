/-
  TestRig.Proofs.Command.Template

  Filling a template is simultaneous substitution.  A template is a list of pieces,
  characters and holes, and every replacement in its text is the same replacement in the
  pieces (`replaceAll_render`).  On pieces each gap closed drops a space for a hole that
  is left empty (`gapsClosed_closeGaps`), and over all values the filled template is the
  substitution with at most one space dropped for each such hole (`dropped_fill`).
-/
import TestRig.Command.Template
import TestRig.Proofs.Text.Cutting
import TestRig.Proofs.Text.Replacing

namespace TestRig.Template

open Text

/-! ## Pieces -/

/-- A piece of a template: a character outside the holes, or a hole. -/
inductive Piece where
  | char (c : Char)
  | hole (name : String)
  deriving DecidableEq

def isBrace (c : Char) : Bool := c = '\x7b' || c = '\x7d'

/-- No brace stands in the text. -/
def BraceFree (text : List Char) : Prop := ∀ c ∈ text, isBrace c = false

namespace Piece

def text : Piece → List Char
  | .char c => [c]
  | .hole name => Template.hole name.toList

/-- Neither the character nor the name of the hole has braces. -/
def Clean : Piece → Prop
  | .char c => isBrace c = false
  | .hole name => BraceFree name.toList

end Piece

/-- All pieces are clean. -/
def Clean (pieces : List Piece) : Prop := ∀ piece ∈ pieces, piece.Clean

@[simp] theorem clean_nil : Clean [] := fun _ hpiece => by cases hpiece

@[simp] theorem clean_cons {piece : Piece} {rest : List Piece} :
    Clean (piece :: rest) ↔ piece.Clean ∧ Clean rest := List.forall_mem_cons

/-- The text of a template. -/
def render (pieces : List Piece) : List Char := pieces.flatMap Piece.text

/-- A text without holes. -/
def literal (text : List Char) : List Piece := text.map Piece.char

theorem render_cons (piece : Piece) (rest : List Piece) :
    render (piece :: rest) = piece.text ++ render rest := List.flatMap_cons

theorem render_char_cons (c : Char) (rest : List Piece) :
    render (.char c :: rest) = c :: render rest := rfl

theorem render_hole_cons (name : String) (rest : List Piece) :
    render (.hole name :: rest) = '\x7b' :: (name.toList ++ '\x7d' :: render rest) := by
  rw [render_cons, Piece.text, hole, List.cons_append, List.cons_append, List.append_assoc,
    List.singleton_append]

theorem render_singleton (piece : Piece) : render [piece] = piece.text := List.append_nil _

theorem render_append (pieces more : List Piece) :
    render (pieces ++ more) = render pieces ++ render more := List.flatMap_append

theorem render_literal (text : List Char) : render (literal text) = text := by
  rw [render, literal, List.flatMap_map]
  exact List.flatMap_singleton' text

theorem clean_literal {text : List Char} (h : BraceFree text) : Clean (literal text) := by
  intro piece hpiece
  obtain ⟨c, hc, rfl⟩ := List.mem_map.1 hpiece
  exact h c hc

/-! ## Occurrences -/

theorem hole_ne_nil (name : List Char) : hole name ≠ [] := List.cons_ne_nil _ _

theorem notMem_hole {c : Char} {name : List Char} (hc : isBrace c = false) (hname : c ∉ name) :
    c ∉ hole name := by
  rintro hmem
  rcases List.mem_cons.1 hmem with rfl | hmem
  · cases hc
  · rcases List.mem_append.1 hmem with hmem | hmem
    · exact hname hmem
    · cases List.mem_singleton.1 hmem
      cases hc

/-- The first brace of the text opens a hole. -/
def StartsHole (text : List Char) : Prop := text.find? isBrace = some '\x7b'

theorem StartsHole.ne_nil {text : List Char} (h : StartsHole text) : text ≠ [] := by
  rintro rfl
  cases h

/-- What starts a hole occurs nowhere between an opening brace and the closing one. -/
theorem not_prefix_inside {piece inner : List Char} (hpiece : StartsHole piece)
    (hinner : BraceFree inner) (rest : List Char) : ¬ piece <+: inner ++ '\x7d' :: rest := by
  intro hlead
  have hfirst : (inner ++ '\x7d' :: rest).find? isBrace = some '\x7d' := by
    rw [List.find?_append, List.find?_eq_none.2 (by simpa [BraceFree] using hinner)]
    rfl
  have hsame := hlead.find?_eq_some hpiece
  rw [hfirst] at hsame
  exact absurd hsame (by decide)

theorem replaceAll_inside {piece new inner : List Char} (hpiece : StartsHole piece)
    (hinner : BraceFree inner) (rest : List Char) :
    replaceAll piece new (inner ++ '\x7d' :: rest) =
      inner ++ '\x7d' :: replaceAll piece new rest := by
  induction inner with
  | nil =>
    exact replaceAll_cons_of_not_starts (not_prefix_inside hpiece hinner rest)
  | cons c inner ih =>
    have hstart : ¬ piece <+: c :: (inner ++ '\x7d' :: rest) := not_prefix_inside hpiece hinner rest
    rw [List.cons_append, replaceAll_cons_of_not_starts hstart,
      ih fun d hd => hinner d (List.mem_cons_of_mem _ hd), List.cons_append]

theorem infix_inside {piece inner : List Char} (hpiece : StartsHole piece)
    (hinner : BraceFree inner) {rest : List Char} (h : piece <:+: inner ++ '\x7d' :: rest) :
    piece <:+: rest := by
  induction inner with
  | nil => exact (List.infix_cons_iff.1 h).resolve_left (not_prefix_inside hpiece hinner rest)
  | cons c inner ih =>
    exact ih (fun d hd => hinner d (List.mem_cons_of_mem _ hd))
      ((List.infix_cons_iff.1 h).resolve_left (not_prefix_inside hpiece hinner rest))

theorem BraceFree.close_notMem {text : List Char} (h : BraceFree text) : '\x7d' ∉ text :=
  fun hmem => absurd (h _ hmem) (by decide)

/-- A hole ends at the first closing brace. -/
theorem name_eq_of_starts {name other : String} (hname : BraceFree name.toList)
    (hother : BraceFree other.toList) {rest rest' : List Char}
    (h : name.toList ++ '\x7d' :: rest <+: other.toList ++ '\x7d' :: rest') :
    name = other ∧ rest <+: rest' := by
  obtain ⟨more, hmore⟩ := h
  have htail : name.toList ++ '\x7d' :: (rest ++ more) = other.toList ++ '\x7d' :: rest' := by
    rw [← hmore, List.append_assoc, List.cons_append]
  have hcut := congrArg (splitAt '\x7d') htail
  rw [splitAt_append_sep, splitAt_append_sep, splitAt_of_notMem hname.close_notMem,
    splitAt_of_notMem hother.close_notMem] at hcut
  have hsame : name.toList = other.toList := (List.cons.inj hcut).1
  rw [hsame] at htail
  exact ⟨String.toList_injective hsame, more, (List.cons.inj (List.append_cancel_left htail)).2⟩

/-- Where the text of pieces starts, the pieces start. -/
theorem prefix_of_render {pieces whole : List Piece} (hpieces : Clean pieces)
    (hwhole : Clean whole) (h : render pieces <+: render whole) :
    pieces <+: whole := by
  induction pieces generalizing whole with
  | nil => exact List.nil_prefix
  | cons piece rest ih =>
    have hrest : Clean rest := fun p hp => hpieces p (List.mem_cons_of_mem _ hp)
    cases whole with
    | nil => cases piece <;> simp [render, Piece.text, hole] at h
    | cons first whole =>
      have hmore : Clean whole := fun p hp => hwhole p (List.mem_cons_of_mem _ hp)
      have hpiece := hpieces piece List.mem_cons_self
      have hfirst := hwhole first List.mem_cons_self
      cases piece with
      | char c =>
        cases first with
        | char d =>
          rw [render_char_cons, render_char_cons] at h
          obtain ⟨rfl, htail⟩ := List.cons_prefix_cons.1 h
          exact List.cons_prefix_cons.2 ⟨rfl, ih hrest hmore htail⟩
        | hole name =>
          -- a character that is no brace cannot open a hole
          rw [render_char_cons, render_hole_cons] at h
          obtain ⟨rfl, -⟩ := List.cons_prefix_cons.1 h
          simp [Piece.Clean, isBrace] at hpiece
      | hole name =>
        cases first with
        | char d =>
          rw [render_hole_cons, render_char_cons] at h
          obtain ⟨rfl, -⟩ := List.cons_prefix_cons.1 h
          simp [Piece.Clean, isBrace] at hfirst
        | hole other =>
          rw [render_hole_cons, render_hole_cons] at h
          obtain ⟨rfl, htail⟩ := name_eq_of_starts hpiece hfirst (List.cons_prefix_cons.1 h).2
          exact List.cons_prefix_cons.2 ⟨rfl, ih hrest hmore htail⟩

/-- Replacing in the text of a template is replacing in its pieces, if a hole is replaced. -/
theorem replaceAll_render (old new : List Piece) {pieces : List Piece}
    (hold : Clean old) (hstarts : StartsHole (render old)) (hpieces : Clean pieces) :
    replaceAll (render old) (render new) (render pieces) = render (replaceAll old new pieces) := by
  have htext : render old ≠ [] := hstarts.ne_nil
  have hne : old ≠ [] := by
    rintro rfl
    exact htext rfl
  refine replaceAll_induction hne
    (P := fun pieces out => Clean pieces →
      replaceAll (render old) (render new) (render pieces) = render out) ?_ ?_ ?_ pieces hpieces
  · intro _
    rfl
  · intro rest ih hclean
    rw [render_append, render_append, replaceAll_append _ _ _ htext,
      ih fun piece hpiece => hclean piece (List.mem_append_right _ hpiece)]
  · intro piece rest hstart ih hclean
    have hafter : ¬ render old <+: render (piece :: rest) := fun hlead =>
      hstart (prefix_of_render hold hclean hlead)
    have hrest := ih fun p hp => hclean p (List.mem_cons_of_mem _ hp)
    cases piece with
    | char c =>
      rw [render_char_cons] at hafter
      rw [render_char_cons, render_char_cons, replaceAll_cons_of_not_starts hafter, hrest]
    | hole name =>
      -- the search passes the hole, since nothing that starts a hole occurs inside it
      rw [render_hole_cons] at hafter
      rw [render_hole_cons, render_hole_cons, replaceAll_cons_of_not_starts hafter,
        replaceAll_inside hstarts (hclean _ List.mem_cons_self), hrest]

/-- The text of a hole stands only where the hole is. -/
theorem hole_mem_of_infix {name : String} (hname : BraceFree name.toList) {pieces : List Piece}
    (hpieces : Clean pieces) (h : hole name.toList <:+: render pieces) :
    Piece.hole name ∈ pieces := by
  have hone : render [.hole name] = hole name.toList := render_singleton _
  have hstarts : StartsHole (hole name.toList) := rfl
  induction pieces with
  | nil => simp [render, hole] at h
  | cons piece rest ih =>
    have hrest : hole name.toList <:+: render rest → Piece.hole name ∈ piece :: rest := fun hin =>
      List.mem_cons_of_mem _ (ih (fun p hp => hpieces p (List.mem_cons_of_mem _ hp)) hin)
    have hfront : hole name.toList <+: render (piece :: rest) →
        Piece.hole name ∈ piece :: rest := by
      intro hlead
      rw [← hone] at hlead
      have hclean : Clean [.hole name] := clean_cons.2 ⟨hname, clean_nil⟩
      exact (prefix_of_render hclean hpieces hlead).subset List.mem_cons_self
    cases piece with
    | char c =>
      rcases List.infix_cons_iff.1 h with hlead | hin
      · exact hfront hlead
      · exact hrest hin
    | hole other =>
      rw [render_hole_cons] at h
      rcases List.infix_cons_iff.1 h with hlead | hin
      · exact hfront (by rwa [render_hole_cons])
      · exact hrest (infix_inside hstarts (hpieces _ List.mem_cons_self) hin)

/-! ## Filling on pieces -/

abbrev space : Piece := .char ' '

namespace Pieces

/-- `closeGaps` on pieces. -/
def closeGaps (name : String) (pieces : List Piece) : List Piece :=
  let between := replaceAll [space, .hole name, space] [space] pieces
  let before := replaceAll [.hole name, space] [] between
  replaceAll [space, .hole name] [] before

/-- `fillOne` on pieces. -/
def fillOne (pieces : List Piece) (name value : String) : List Piece :=
  let pieces := if value.toList.isEmpty then closeGaps name pieces else pieces
  replaceAll [.hole name] (literal value.toList) pieces

/-- `fillChars` on pieces. -/
def fill (pieces : List Piece) (values : List (String × String)) : List Piece :=
  values.foldl (fun pieces (name, value) => fillOne pieces name value) pieces

theorem clean_replaceAll {old new pieces : List Piece} (hold : old ≠ []) (hnew : Clean new)
    (hpieces : Clean pieces) : Clean (replaceAll old new pieces) := by
  intro piece hpiece
  rcases mem_of_mem_replaceAll hold pieces hpiece with hin | hin
  · exact hnew piece hin
  · exact hpieces piece hin

@[simp] theorem clean_space : space.Clean := rfl

variable {name value : String} {pieces : List Piece}

theorem clean_closeGaps (hpieces : Clean pieces) : Clean (closeGaps name pieces) := by
  refine clean_replaceAll (by simp) (by simp) (clean_replaceAll (by simp) (by simp) ?_)
  exact clean_replaceAll (by simp) (by simp) hpieces

theorem clean_fillOne (hvalue : BraceFree value.toList) (hpieces : Clean pieces) :
    Clean (fillOne pieces name value) := by
  refine clean_replaceAll (by simp) (clean_literal hvalue) ?_
  split
  · exact clean_closeGaps hpieces
  · exact hpieces

theorem clean_fill {values : List (String × String)} (hpieces : Clean pieces)
    (hvalues : ∀ pair ∈ values, BraceFree pair.2.toList) : Clean (fill pieces values) := by
  induction values generalizing pieces with
  | nil => exact hpieces
  | cons pair values ih =>
    exact ih (clean_fillOne (hvalues _ List.mem_cons_self) hpieces)
      fun other hother => hvalues other (List.mem_cons_of_mem _ hother)

/-- Closing gaps in the text is closing them in the pieces. -/
theorem closeGaps_render (hname : BraceFree name.toList) (hpieces : Clean pieces) :
    Template.closeGaps name.toList (render pieces) = render (closeGaps name pieces) := by
  have hhole : (Piece.hole name).Clean := hname
  have hbetween := clean_replaceAll (List.cons_ne_nil space [.hole name, space])
    (clean_cons.2 ⟨clean_space, clean_nil⟩) hpieces
  have hbefore := clean_replaceAll (List.cons_ne_nil (.hole name) [space]) clean_nil hbetween
  have hlast : render [space, .hole name] = ' ' :: hole name.toList := by
    rw [render_char_cons, render_singleton]
    rfl
  unfold closeGaps
  -- from the last replacement to the first
  rw [← replaceAll_render [space, .hole name] [] (by simp [hhole]) (by rw [hlast]; rfl) hbefore,
    ← replaceAll_render [.hole name, space] [] (by simp [hhole]) rfl hbetween,
    ← replaceAll_render [space, .hole name, space] [space] (by simp [hhole]) rfl hpieces, hlast]
  rfl

/-- Filling holes in the text is filling them in the pieces. -/
theorem fillOne_render (hname : BraceFree name.toList) (hpieces : Clean pieces) :
    Template.fillOne (render pieces) name.toList value.toList =
      render (fillOne pieces name value) := by
  have hhole : (Piece.hole name).Clean := hname
  have hone : render [.hole name] = hole name.toList := render_singleton _
  have hclosed : (if value.toList.isEmpty then Template.closeGaps name.toList (render pieces)
      else render pieces) =
        render (if value.toList.isEmpty then closeGaps name pieces else pieces) := by
    rw [closeGaps_render hname hpieces]
    split <;> rfl
  have hclean : Clean (if value.toList.isEmpty then closeGaps name pieces else pieces) := by
    split
    · exact clean_closeGaps hpieces
    · exact hpieces
  unfold Template.fillOne fillOne
  rw [← replaceAll_render [.hole name] (literal value.toList) (by simp [hhole])
    (by rw [hone]; rfl) hclean, hone, render_literal, ← hclosed]

theorem fill_render {values : List (String × String)} (hpieces : Clean pieces)
    (hvalues : ∀ pair ∈ values, BraceFree pair.1.toList ∧ BraceFree pair.2.toList) :
    fillChars (render pieces) (values.map fun (name, value) => (name.toList, value.toList)) =
      render (fill pieces values) := by
  induction values generalizing pieces with
  | nil => rfl
  | cons pair values ih =>
    obtain ⟨name, value⟩ := pair
    obtain ⟨hname, hvalue⟩ := hvalues _ List.mem_cons_self
    have hfilled : Clean (fillOne pieces name value) := clean_fillOne hvalue hpieces
    have hrest := ih hfilled fun pair hpair => hvalues pair (List.mem_cons_of_mem _ hpair)
    rw [← fillOne_render hname hpieces] at hrest
    exact hrest

end Pieces

/-! ## Substitution -/

/-- What stands for a piece once the holes of a name have got a value. -/
def putAt (name value : String) (piece : Piece) : List Piece :=
  if piece = .hole name then literal value.toList else [piece]

/-- What stands for a piece once all holes have got the first values of their names. -/
def putAll (values : List (String × String)) : Piece → List Piece
  | .char c => [.char c]
  | .hole name =>
    match values.lookup name with
    | some value => literal value.toList
    | none => [.hole name]

/-- The template with the first values of all names in their holes; other holes stay. -/
def substitute (values : List (String × String)) (pieces : List Piece) : List Piece :=
  pieces.flatMap (putAll values)

/-- The piece is a hole whose value is empty. -/
def isEmptied (values : List (String × String)) : Piece → Bool
  | .char _ => false
  | .hole name => values.lookup name = some ""

theorem substitute_literal (values : List (String × String)) (text : List Char) :
    substitute values (literal text) = literal text := by
  rw [substitute, literal, List.flatMap_map, List.map_eq_flatMap]
  rfl

theorem countP_literal (values : List (String × String)) (text : List Char) :
    (literal text).countP (isEmptied values) = 0 := by
  rw [literal, List.countP_map, List.countP_eq_zero]
  intro c _
  exact Bool.false_ne_true

variable {name value : String} {values : List (String × String)}

@[simp] theorem putAt_char (name value : String) (c : Char) :
    putAt name value (.char c) = [.char c] := if_neg nofun

theorem putAt_hole_self (name value : String) :
    putAt name value (.hole name) = literal value.toList := if_pos rfl

theorem putAt_hole_of_ne {name other : String} (h : other ≠ name) (value : String) :
    putAt name value (.hole other) = [.hole other] := if_neg fun heq => h (Piece.hole.inj heq)

theorem lookup_cons_of_ne {name other : String} (h : other ≠ name) (value : String)
    (values : List (String × String)) :
    ((name, value) :: values).lookup other = values.lookup other := by
  rw [List.lookup_cons, beq_false_of_ne h]

/-- The first value of a name is in its holes when the others are put. -/
theorem putAll_cons (name value : String) (values : List (String × String)) (piece : Piece) :
    putAll ((name, value) :: values) piece = substitute values (putAt name value piece) := by
  cases piece with
  | char c =>
    rw [putAt_char]
    rfl
  | hole other =>
    by_cases hname : other = name
    · rw [hname, putAt_hole_self, substitute_literal, putAll, List.lookup_cons_self]
    · rw [putAt_hole_of_ne hname, putAll, lookup_cons_of_ne hname]
      exact (List.append_nil _).symm

theorem substitute_nil (pieces : List Piece) : substitute [] pieces = pieces := by
  have hself : putAll [] = fun piece => [piece] := by
    funext piece
    cases piece <;> rfl
  rw [substitute, hself, List.flatMap_singleton']

theorem substitute_cons (name value : String) (values : List (String × String))
    (pieces : List Piece) :
    substitute ((name, value) :: values) pieces =
      substitute values (pieces.flatMap (putAt name value)) := by
  unfold substitute
  rw [List.flatMap_assoc]
  exact congrArg pieces.flatMap (funext (putAll_cons name value values))

/-- A hole is emptied by the first value of its name. -/
theorem countP_isEmptied_cons (name value : String) (values : List (String × String))
    (pieces : List Piece) :
    pieces.countP (isEmptied ((name, value) :: values)) =
      (if value = "" then pieces.count (.hole name) else 0) +
        (pieces.flatMap (putAt name value)).countP (isEmptied values) := by
  induction pieces with
  | nil => simp
  | cons piece rest ih =>
    rw [List.countP_cons, List.flatMap_cons, List.countP_append, ih]
    cases piece with
    | char c =>
      have hne : Piece.char c ≠ .hole name := nofun
      rw [putAt_char, List.count_cons_of_ne hne]
      simp [isEmptied]
    | hole other =>
      by_cases hname : other = name
      · have hself : isEmptied ((name, value) :: values) (.hole name) = decide (value = "") := by
          simp [isEmptied]
        rw [hname, putAt_hole_self, countP_literal, List.count_cons_self, hself]
        by_cases hvalue : value = ""
        · simp only [hvalue, decide_true, if_true]
          omega
        · simp only [hvalue, decide_false, Bool.false_eq_true, if_false]
          omega
      · have hsame : isEmptied ((name, value) :: values) (.hole other) =
            isEmptied values (.hole other) := by
          rw [isEmptied, isEmptied, lookup_cons_of_ne hname]
        have hne : Piece.hole other ≠ .hole name := fun heq => hname (Piece.hole.inj heq)
        rw [putAt_hole_of_ne hname, List.count_cons_of_ne hne, List.countP_singleton, hsame]
        omega

/-! ## Gaps -/

/-- Some holes of the name are gone, each together with one space. -/
def GapsClosed (name : String) (pieces closed : List Piece) : Prop :=
  ∃ count, Dropped space count (pieces.flatMap (putAt name "")) (closed.flatMap (putAt name "")) ∧
    closed.count (.hole name) + count = pieces.count (.hole name)

theorem GapsClosed.trans {pieces closed more : List Piece} (h : GapsClosed name pieces closed)
    (h' : GapsClosed name closed more) : GapsClosed name pieces more := by
  obtain ⟨count, hdropped, hcount⟩ := h
  obtain ⟨count', hdropped', hcount'⟩ := h'
  exact ⟨count + count', hdropped.trans hdropped', by omega⟩

/-- A replacement that takes one hole and one space away wherever it applies closes gaps. -/
theorem gapsClosed_replaceAll {old new : List Piece} (hold : old ≠ [])
    (hgap : Dropped space 1 (old.flatMap (putAt name "")) (new.flatMap (putAt name "")))
    (hcount : new.count (.hole name) + 1 = old.count (.hole name)) (pieces : List Piece) :
    GapsClosed name pieces (replaceAll old new pieces) := by
  refine replaceAll_induction hold (P := GapsClosed name) ⟨0, .nil, rfl⟩ ?_ ?_ pieces
  · rintro rest ⟨count, hdropped, hrest⟩
    refine ⟨1 + count, ?_, ?_⟩
    · rw [List.flatMap_append, List.flatMap_append]
      exact hgap.append hdropped
    · rw [List.count_append, List.count_append]
      omega
  · rintro piece rest - ⟨count, hdropped, hrest⟩
    refine ⟨count, ?_, ?_⟩
    · rw [List.flatMap_cons, List.flatMap_cons]
      simpa using (Dropped.refl space (putAt name "" piece)).append hdropped
    · rw [List.count_cons, List.count_cons]
      omega

theorem gapsClosed_closeGaps (name : String) (pieces : List Piece) :
    GapsClosed name pieces (Pieces.closeGaps name pieces) := by
  have hempty : putAt name "" (.hole name) = [] := putAt_hole_self name ""
  have hspace : Dropped space 1 [space] [] := .drop .nil
  have hbetween : ∀ pieces,
      GapsClosed name pieces (replaceAll [space, .hole name, space] [space] pieces) := by
    refine gapsClosed_replaceAll (List.cons_ne_nil _ _) ?_ (by simp)
    simpa [hempty] using Dropped.keep space hspace
  have hbehind : ∀ pieces, GapsClosed name pieces (replaceAll [.hole name, space] [] pieces) := by
    refine gapsClosed_replaceAll (List.cons_ne_nil _ _) ?_ (by simp)
    simpa [hempty] using hspace
  have hfront : ∀ pieces, GapsClosed name pieces (replaceAll [space, .hole name] [] pieces) := by
    refine gapsClosed_replaceAll (List.cons_ne_nil _ _) ?_ (by simp)
    simpa [hempty] using hspace
  exact (hbetween _).trans ((hbehind _).trans (hfront _))

/-! ## Filled templates -/

theorem toList_fill (template : String) (values : List (String × String)) :
    (fill template values).toList =
      fillChars template.toList
        (values.map fun (name, value) => (name.toList, value.toList)) := by
  rw [fill, String.toList_ofList]

/-- Filling the holes of one name drops at most one space for each of them, and none if the value is
not empty. -/
theorem dropped_fillOne (pieces : List Piece) (name value : String) :
    ∃ count, Dropped space count (pieces.flatMap (putAt name value))
        (Pieces.fillOne pieces name value) ∧
      count ≤ if value = "" then pieces.count (.hole name) else 0 := by
  have hput : ∀ pieces : List Piece, replaceAll [Piece.hole name] (literal value.toList) pieces =
      pieces.flatMap (putAt name value) := replaceAll_singleton (Piece.hole name) _
  unfold Pieces.fillOne
  by_cases hvalue : value = ""
  · obtain ⟨count, hdropped, hcount⟩ := gapsClosed_closeGaps name pieces
    refine ⟨count, ?_, ?_⟩
    · rw [hput, hvalue]
      exact hdropped
    · rw [if_pos hvalue]
      omega
  · have hfull : value.toList.isEmpty = false := by
      rw [List.isEmpty_eq_false_iff]
      exact fun hnil => hvalue (String.toList_eq_nil_iff.1 hnil)
    refine ⟨0, ?_, Nat.zero_le _⟩
    rw [hput, hfull]
    exact .refl _ _

/-- Filling is the substitution, up to one space for each hole that is left empty. -/
theorem dropped_fill (pieces : List Piece) (values : List (String × String)) :
    ∃ count, Dropped space count (substitute values pieces) (Pieces.fill pieces values) ∧
      count ≤ pieces.countP (isEmptied values) := by
  induction values generalizing pieces with
  | nil =>
    refine ⟨0, ?_, Nat.zero_le _⟩
    rw [substitute_nil]
    exact .refl _ _
  | cons pair values ih =>
    obtain ⟨name, value⟩ := pair
    obtain ⟨count, hone, hcount⟩ := dropped_fillOne pieces name value
    obtain ⟨more, hrest, hmore⟩ := ih (Pieces.fillOne pieces name value)
    -- the other values are put between the spaces, so a space dropped before stays one dropped space
    have hspace : putAll values space = [space] := rfl
    refine ⟨count + more, ?_, ?_⟩
    · rw [substitute_cons]
      exact (hone.flatMap hspace).trans hrest
    · rw [countP_isEmptied_cons, ← hone.countP_eq rfl]
      exact Nat.add_le_add hcount hmore

theorem hole_notMem_literal (name : String) (text : List Char) :
    Piece.hole name ∉ literal text := by
  simp [literal]

/-- No hole of a listed name is left. -/
theorem hole_notMem_substitute {pair : String × String} (hpair : pair ∈ values)
    (pieces : List Piece) : Piece.hole pair.1 ∉ substitute values pieces := by
  intro hmem
  obtain ⟨piece, -, hput⟩ := List.mem_flatMap.1 hmem
  cases piece with
  | char c => cases List.mem_singleton.1 hput
  | hole name =>
    rw [putAll] at hput
    split at hput
    · exact hole_notMem_literal _ _ hput
    · rename_i hnone
      have hsame : pair.1 = name := Piece.hole.inj (List.mem_singleton.1 hput)
      simpa [hsame] using List.lookup_eq_none_iff.1 hnone pair hpair

/-- Filling a template is simultaneous substitution.  Of the substituted text at most one space is
missing for each hole that is left empty, nothing is missing if there is none, and no hole of a
listed name is left. -/
theorem fill_substitutes {pieces : List Piece} (hpieces : Clean pieces)
    (hvalues : ∀ pair ∈ values, BraceFree pair.1.toList ∧ BraceFree pair.2.toList) :
    ((∀ name, .hole name ∈ pieces → values.lookup name ≠ some "") →
      fill (String.ofList (render pieces)) values =
        String.ofList (render (substitute values pieces))) ∧
    (∃ count ≤ pieces.countP (isEmptied values),
      Dropped ' ' count (render (substitute values pieces))
        (fill (String.ofList (render pieces)) values).toList) ∧
    ∀ pair ∈ values,
      ¬ hole pair.1.toList <:+: (fill (String.ofList (render pieces)) values).toList := by
  have hfill : fill (String.ofList (render pieces)) values =
      String.ofList (render (Pieces.fill pieces values)) := by
    rw [fill, String.toList_ofList, Pieces.fill_render hpieces hvalues]
  obtain ⟨count, hdropped, hcount⟩ := dropped_fill pieces values
  have htext : Dropped ' ' count (render (substitute values pieces))
      (render (Pieces.fill pieces values)) := hdropped.flatMap rfl
  rw [hfill, String.toList_ofList]
  refine ⟨?_, ⟨count, hcount, htext⟩, ?_⟩
  · intro hfull
    have hnone : pieces.countP (isEmptied values) = 0 := by
      rw [List.countP_eq_zero]
      rintro (c | name) hpiece
      · exact Bool.false_ne_true
      · simpa [isEmptied] using hfull name hpiece
    obtain rfl : count = 0 := by omega
    rw [htext.eq_of_zero]
  · intro pair hpair hin
    have hclean := Pieces.clean_fill hpieces fun pair hpair => (hvalues pair hpair).2
    have hmem := hole_mem_of_infix (hvalues pair hpair).1 hclean hin
    exact hole_notMem_substitute hpair pieces (hdropped.mem hmem)

theorem fill_substitutes_checksum :
    ∃ count ≤ 1, Dropped ' ' count "md5sum  f".toList
      (fill ({} : Templates).checksumHex
        [("algorithm", "md5"), ("options", ""), ("path", "f"), ("path", "g")]).toList := by
  have hpieces : Clean [.hole "algorithm", .char 's', .char 'u', .char 'm', .char ' ',
      .hole "options", .char ' ', .hole "path"] := by
    simp [Piece.Clean, BraceFree, isBrace]
  have hvalues : ∀ pair ∈ [("algorithm", "md5"), ("options", ""), ("path", "f"), ("path", "g")],
      BraceFree pair.1.toList ∧ BraceFree pair.2.toList := by
    simp [BraceFree, isBrace]
  exact (fill_substitutes hpieces hvalues).2.1

end TestRig.Template
