/-
  TestRig.Proofs.Machine.CommandLines

  The command lines with which a machine creates files and computes checksums.  A line
  is a row of words with an argument in each, and values are put into each argument by
  itself (`fillChars_line`).  An argument is thus put in as it stands, but searched again
  for the holes of the names that are filled after it (`createCommand_eq`,
  `checksumCommand_hex_eq`).
-/
import TestRig.Machine.Work
import TestRig.Proofs.Command.Template
import TestRig.Proofs.FileSystem.Following

namespace TestRig

open Text

namespace Template

/-! ## Filling texts without empty values -/

variable {name : List Char} {value : List Char}

theorem fillChars_cons (text : List Char) (pair : List Char × List Char)
    (values : List (List Char × List Char)) :
    fillChars text (pair :: values) = fillChars (fillOne text pair.1 pair.2) values := rfl

theorem fillOne_of_ne_nil (hvalue : value ≠ []) (text name : List Char) :
    fillOne text name value = replaceAll (hole name) value text := by
  rw [fillOne, if_neg (by simpa using hvalue)]

instance (text : List Char) : Decidable (BraceFree text) :=
  List.decidableBAll (fun c => isBrace c = false) text

/-- Holes of different names do not stand in one another. -/
theorem not_hole_infix_hole {other : List Char} (hother : BraceFree other) (hname : BraceFree name)
    (hne : other ≠ name) : ¬ hole other <:+: hole name := by
  intro hin
  have hclean : Clean [.hole (String.ofList name)] :=
    clean_cons.2 ⟨by rwa [Piece.Clean, String.toList_ofList], clean_nil⟩
  have hmem : Piece.hole (String.ofList other) ∈ [Piece.hole (String.ofList name)] :=
    hole_mem_of_infix (by rwa [String.toList_ofList]) hclean
      (by rwa [render_singleton, Piece.text, String.toList_ofList, String.toList_ofList])
  exact hne (String.ofList_injective (Piece.hole.inj (List.mem_singleton.1 hmem)))

/-- A text without holes of the names is not changed. -/
theorem fillChars_eq_self {text : List Char} {values : List (List Char × List Char)}
    (hfull : ∀ pair ∈ values, pair.2 ≠ [])
    (hnone : ∀ pair ∈ values, ¬ hole pair.1 <:+: text) : fillChars text values = text := by
  induction values with
  | nil => rfl
  | cons pair values ih =>
    have hfirst : fillOne text pair.1 pair.2 = text := by
      rw [fillOne_of_ne_nil (hfull pair List.mem_cons_self),
        replaceAll_eq_self (hnone pair List.mem_cons_self)]
    rw [fillChars_cons, hfirst]
    exact ih (fun other hother => hfull other (List.mem_cons_of_mem _ hother))
      (fun other hother => hnone other (List.mem_cons_of_mem _ hother))

theorem fillChars_append (text : List Char) (values more : List (List Char × List Char)) :
    fillChars text (values ++ more) = fillChars (fillChars text values) more :=
  List.foldl_append

theorem fillChars_nil {values : List (List Char × List Char)}
    (hfull : ∀ pair ∈ values, pair.2 ≠ []) : fillChars [] values = [] :=
  fillChars_eq_self hfull fun _ _ => by simp [hole]

/-- Different names without braces and spaces, as the names of holes are. -/
def PlainNames (names : List (List Char)) : Prop :=
  names.Nodup ∧ ∀ name ∈ names, BraceFree name ∧ ' ' ∉ name

instance (names : List (List Char)) : Decidable (PlainNames names) :=
  inferInstanceAs (Decidable (names.Nodup ∧ ∀ name ∈ names, BraceFree name ∧ ' ' ∉ name))

theorem PlainNames.spaceless {values : List (List Char × List Char)}
    (h : PlainNames (values.map Prod.fst)) : ∀ pair ∈ values, ' ' ∉ pair.1 := fun pair hpair =>
  (h.2 pair.1 (List.mem_map_of_mem hpair)).2

/-- A hole takes the first value of its name, in which the later values are put. -/
theorem fillChars_hole {earlier later : List (List Char × List Char)}
    (hfull : ∀ pair ∈ earlier ++ (name, value) :: later, pair.2 ≠ [])
    (hnames : PlainNames ((earlier ++ (name, value) :: later).map Prod.fst)) :
    fillChars (hole name) (earlier ++ (name, value) :: later) = fillChars value later := by
  obtain ⟨hdistinct, hplain⟩ := hnames
  rw [List.map_append, List.map_cons] at hdistinct hplain
  have hkept : fillChars (hole name) earlier = hole name := by
    refine fillChars_eq_self (fun pair hpair => hfull pair (List.mem_append_left _ hpair)) ?_
    intro pair hpair
    have hmem := List.mem_map_of_mem (f := Prod.fst) hpair
    have hne : pair.1 ≠ name := (List.nodup_append.1 hdistinct).2.2 pair.1 hmem name (by simp)
    exact not_hole_infix_hole (hplain _ (List.mem_append_left _ hmem)).1
      (hplain name (by simp)).1 hne
  have hself : fillOne (hole name) name value = value := by
    rw [fillOne_of_ne_nil (hfull (name, value) (by simp))]
    simpa using replaceAll_append (hole name) value [] (hole_ne_nil name)
  rw [fillChars_append, hkept, fillChars_cons, hself]

/-- The values in turn, each with the later ones put in. -/
def filledInTurn : List (List Char × List Char) → List (List Char)
  | [] => []
  | (_, value) :: later => fillChars value later :: filledInTurn later

/-- The holes of all names are filled in turn. -/
theorem map_fillChars_hole {values : List (List Char × List Char)}
    (hfull : ∀ pair ∈ values, pair.2 ≠ []) (hnames : PlainNames (values.map Prod.fst)) :
    values.map (fun pair => fillChars (hole pair.1) values) = filledInTurn values := by
  -- on the values that come behind some earlier ones
  suffices hsuffix : ∀ earlier later, earlier ++ later = values →
      later.map (fun pair => fillChars (hole pair.1) values) = filledInTurn later from
    hsuffix [] values rfl
  intro earlier later
  induction later generalizing earlier with
  | nil => exact fun _ => rfl
  | cons pair later ih =>
    rintro rfl
    rw [List.map_cons, fillChars_hole hfull hnames, ih (earlier ++ [pair]) (by simp)]
    rfl

/-! ## Lines -/

/-- A word of a command line: a literal text and an argument behind it. -/
structure Word where
  literal : List Char
  argument : List Char

namespace Word

/-- The word with the space in front of it. -/
def text (word : Word) : List Char := ' ' :: (word.literal ++ word.argument)

/-- The word with another argument. -/
def mapArgument (f : List Char → List Char) (word : Word) : Word :=
  ⟨word.literal, f word.argument⟩

end Word

/-- A command line: the name of a tool, and words behind it. -/
def line (tool : List Char) (words : List Word) : List Char := tool ++ words.flatMap Word.text

/-- A hole of a name without spaces lies within one argument. -/
theorem replaceAll_words (hname : ' ' ∉ name) {words : List Word}
    (hliterals : ∀ word ∈ words, BraceFree word.literal) :
    replaceAll (hole name) value (words.flatMap Word.text) =
      (words.map (Word.mapArgument (replaceAll (hole name) value))).flatMap Word.text := by
  have hspace : ' ' ∉ hole name := notMem_hole rfl hname
  induction words with
  | nil => rfl
  | cons word words ih =>
    have hrest := ih fun other hother => hliterals other (List.mem_cons_of_mem _ hother)
    have hopen : '\x7b' ∉ ' ' :: word.literal := by
      intro hmem
      rcases List.mem_cons.1 hmem with heq | hmem
      · exact absurd heq (by decide)
      · exact absurd (hliterals word List.mem_cons_self _ hmem) (by decide)
    -- the argument ends the line or stands in front of a space
    have hargument : replaceAll (hole name) value (word.argument ++ words.flatMap Word.text) =
        replaceAll (hole name) value word.argument ++
          replaceAll (hole name) value (words.flatMap Word.text) := by
      cases words with
      | nil => simp
      | cons next words =>
        have hstart : ¬ hole name <+: (next :: words).flatMap Word.text := fun hlead =>
          absurd (List.cons_prefix_cons.1 hlead).1 (by decide)
        rw [List.flatMap_cons, Word.text, List.cons_append] at hstart ⊢
        rw [replaceAll_append_cons (hole_ne_nil name) hspace, replaceAll_cons_of_not_starts hstart]
    rw [List.flatMap_cons, List.map_cons, List.flatMap_cons, ← hrest]
    calc replaceAll (hole name) value (word.text ++ words.flatMap Word.text)
      _ = replaceAll (hole name) value
            (' ' :: word.literal ++ (word.argument ++ words.flatMap Word.text)) := by
          rw [Word.text, ← List.cons_append, List.append_assoc]
      _ = ' ' :: word.literal ++
            replaceAll (hole name) value (word.argument ++ words.flatMap Word.text) :=
          replaceAll_append_of_notMem hopen _
      _ = (word.mapArgument (replaceAll (hole name) value)).text ++
            replaceAll (hole name) value (words.flatMap Word.text) := by
          rw [hargument, ← List.append_assoc]
          rfl

/-- Values are put into each argument of a line by itself. -/
theorem fillChars_line {tool : List Char} (htool : BraceFree tool) {words : List Word}
    (hliterals : ∀ word ∈ words, BraceFree word.literal)
    {values : List (List Char × List Char)} (hfull : ∀ pair ∈ values, pair.2 ≠ [])
    (hspaceless : ∀ pair ∈ values, ' ' ∉ pair.1) :
    fillChars (line tool words) values =
      line tool (words.map (Word.mapArgument (fillChars · values))) := by
  induction values generalizing words with
  | nil => exact congrArg (line tool) (List.map_id words).symm
  | cons pair values ih =>
    have hvalue := hfull pair List.mem_cons_self
    have htool' : '\x7b' ∉ tool := fun hmem => absurd (htool _ hmem) (by decide)
    have hfirst : fillOne (line tool words) pair.1 pair.2 =
        line tool (words.map (Word.mapArgument (fillOne · pair.1 pair.2))) := by
      rw [fillOne_of_ne_nil hvalue, line, hole, List.cons_append,
        replaceAll_append_of_notMem htool', ← List.cons_append, ← hole,
        replaceAll_words (hspaceless pair List.mem_cons_self) hliterals]
      simp only [fillOne_of_ne_nil hvalue]
      rfl
    have hkept : ∀ word ∈ words.map (Word.mapArgument (fillOne · pair.1 pair.2)),
        BraceFree word.literal := by
      intro word hword
      obtain ⟨before, hbefore, rfl⟩ := List.mem_map.1 hword
      exact hliterals before hbefore
    rw [fillChars_cons, hfirst,
      ih hkept (fun other hother => hfull other (List.mem_cons_of_mem _ hother))
        (fun other hother => hspaceless other (List.mem_cons_of_mem _ hother)), List.map_map]
    rfl

/-- In a line with a hole in each word the values are put in turn. -/
theorem fillChars_row {tool : List Char} (htool : BraceFree tool) {literals : List (List Char)}
    (hliterals : ∀ literal ∈ literals, BraceFree literal) {values : List (List Char × List Char)}
    (hfull : ∀ pair ∈ values, pair.2 ≠ []) (hnames : PlainNames (values.map Prod.fst))
    {ending : List Word} (hending : ∀ word ∈ ending, BraceFree word.literal ∧ word.argument = []) :
    fillChars (line tool
        (List.zipWith Word.mk literals ((values.map Prod.fst).map hole) ++ ending)) values =
      line tool (List.zipWith Word.mk literals (filledInTurn values) ++ ending) := by
  have hwords : ∀ word ∈ List.zipWith Word.mk literals ((values.map Prod.fst).map hole) ++ ending,
      BraceFree word.literal := by
    intro word hword
    rcases List.mem_append.1 hword with hword | hword
    · obtain ⟨i, hi, rfl⟩ := List.mem_iff_getElem.1 hword
      rw [List.getElem_zipWith]
      exact hliterals _ (List.getElem_mem _)
    · exact (hending word hword).1
  have hlast : ending.map (Word.mapArgument (fillChars · values)) = ending := by
    refine (List.map_congr_left fun word hword => ?_).trans (List.map_id ending)
    rw [Word.mapArgument, (hending word hword).2, fillChars_nil hfull,
      ← (hending word hword).2, id]
  rw [fillChars_line htool hwords hfull hnames.spaceless, List.map_append, hlast,
    List.map_zipWith, ← map_fillChars_hole hfull hnames, List.map_map, List.zipWith_map_right,
    List.zipWith_map_right]
  rfl

/-- The text has no hole of the names. -/
def Lacks (text : String) (names : List String) : Prop :=
  ∀ name ∈ names, ¬ hole name.toList <:+: text.toList

/-- A text is not changed when it has no hole of the names. -/
theorem fill_eq_self {text : String} {values : List (String × String)}
    (hfull : ∀ pair ∈ values, pair.2 ≠ "") (hlacks : Lacks text (values.map Prod.fst)) :
    fill text values = text := by
  apply String.toList_injective
  rw [toList_fill]
  refine fillChars_eq_self ?_ ?_ <;> intro pair hpair
  · obtain ⟨⟨name, value⟩, hmem, rfl⟩ := List.mem_map.1 hpair
    exact fun hnil => hfull _ hmem (String.toList_eq_nil_iff.1 hnil)
  · obtain ⟨⟨name, value⟩, hmem, rfl⟩ := List.mem_map.1 hpair
    exact hlacks name (List.mem_map_of_mem (f := Prod.fst) hmem)

end Template

/-! ## The commands -/

namespace Files

open Template

variable {device path blockSize options : String}

/-- The command line that creates a file from blocks of a device. -/
def createLine (device path blockSize : String) (count : Nat) : String :=
  "dd if=" ++ device ++ " of=" ++ path ++ " bs=" ++ blockSize ++ " count=" ++ toString count ++
    " status=none"

/-- The command line that computes a checksum. -/
def checksumLine (algorithm : Digest.Algorithm) (options path : String) : String :=
  algorithm.name ++ "sum " ++ options ++ " " ++ path

/-- The arguments of the command that creates a file are put in one after the other. -/
theorem createCommand_eq (hdevice : device ≠ "") (hpath : path ≠ "") (hblock : blockSize ≠ "")
    (count : Nat) :
    createCommand {} path count ⟨device, blockSize⟩ =
      createLine
        (fill device [("path", path), ("block_size", blockSize), ("count", toString count)])
        (fill path [("block_size", blockSize), ("count", toString count)])
        (fill blockSize [("count", toString count)]) count := by
  let names := ["device".toList, "path".toList, "block_size".toList, "count".toList]
  let literals := ["if=".toList, "of=".toList, "bs=".toList, "count=".toList]
  let values :=
    names.zip [device.toList, path.toList, blockSize.toList, (toString count).toList]
  have htemplate : ({} : Templates).createFile.toList =
      line "dd".toList (List.zipWith Word.mk literals (names.map hole) ++
        [⟨"status=none".toList, []⟩]) := by decide
  have hfull : ∀ pair ∈ values, pair.2 ≠ [] := by simp [values, names, hdevice, hpath, hblock]
  have hnames : PlainNames (values.map Prod.fst) := show PlainNames names by decide
  have hrow := fillChars_row (show BraceFree "dd".toList by decide)
    (show ∀ literal ∈ literals, BraceFree literal by decide) hfull hnames
    (show ∀ word ∈ [Word.mk "status=none".toList []], BraceFree word.literal ∧ word.argument = []
      by decide)
  apply String.toList_injective
  rw [createCommand, toList_fill, htemplate]
  refine hrow.trans ?_
  simp [createLine, line, Word.text, toList_fill, filledInTurn, literals, values, names, fillChars]

/-- The command that computes a checksum names the file last, and so as it is. -/
theorem checksumCommand_hex_eq (hoptions : options ≠ "") (hpath : path ≠ "")
    (algorithm : Digest.Algorithm) :
    checksumCommand {} path algorithm .hex options =
      checksumLine algorithm (fill options [("path", path)]) path := by
  let names := ["options".toList, "path".toList]
  let values := names.zip [options.toList, path.toList]
  -- the name of the tool is complete before the other arguments are put in
  have htool : fillOne ({} : Templates).checksumHex.toList "algorithm".toList
      algorithm.name.toList =
        line (algorithm.name ++ "sum").toList
          (List.zipWith Word.mk [[], []] (names.map hole) ++ []) := by
    cases algorithm <;> decide +kernel
  have hclean : BraceFree (algorithm.name ++ "sum").toList := by cases algorithm <;> decide
  have hfull : ∀ pair ∈ values, pair.2 ≠ [] := by simp [values, names, hoptions, hpath]
  have hnames : PlainNames (values.map Prod.fst) := show PlainNames names by decide
  have hrow := fillChars_row hclean
    (show ∀ literal ∈ [[], []], BraceFree literal by decide) hfull hnames
    (show ∀ word ∈ ([] : List Word), BraceFree word.literal ∧ word.argument = [] by decide)
  apply String.toList_injective
  rw [checksumCommand, toList_fill, List.map_cons, fillChars_cons, htool]
  refine hrow.trans ?_
  simp [checksumLine, line, Word.text, toList_fill, filledInTurn, values, names, fillChars]

end Files

/-! ## Machines -/

namespace Machine

open Files Template

/-- Runs one command line, and then answers from its output and the machine; if the command fails
this is the answer. -/
def afterCommand {α : Type} (m : Machine) (command : String)
    (answer : Command.Output → Machine → Except FileError α) : Except FileError α × Machine :=
  match m.runHere command none with
  | (.error e, m) => (.error (.command e), m)
  | (.ok output, m) => (answer output m, m)

/-- Creating a file runs one command. -/
theorem createFile_eq (m : Machine) (t : Templates) (path : String) (count : Nat)
    (source : BlockSource) :
    m.createFile t path count source =
      m.afterCommand (createCommand t path count source)
        fun _ m => onPath path (m.files.size (encode path)) := by
  cases hrun : m.runHere (createCommand t path count source) none with
  | mk result after => cases result <;> simp only [createFile, afterCommand, hrun]

/-- The checksum of a file that is there runs one command. -/
theorem checksum_eq {m : Machine} {path : String} (h : m.files.pathExists (encode path) = true)
    (t : Templates) (algorithm : Digest.Algorithm) (format : ChecksumFormat) (options : String) :
    m.checksum t path algorithm format options =
      m.afterCommand (checksumCommand t path algorithm format options)
        fun output _ => .ok (trim output.toText) := by
  rw [checksum, h, afterCommand]
  rfl

/-- An argument of the built-in commands is put in as it stands, and then the arguments behind it
are put into its holes.  It reaches the command line unchanged if it has no hole of a later
argument. -/
theorem arguments_filled_in_turn {device path blockSize options : String} (hdevice : device ≠ "")
    (hpath : path ≠ "") (hblock : blockSize ≠ "") (hoptions : options ≠ "") (m : Machine)
    (count : Nat) (algorithm : Digest.Algorithm) :
    let create := fun line =>
      m.afterCommand line fun _ m => onPath path (m.files.size (encode path))
    let checksum := fun line => m.afterCommand line fun output _ => .ok (trim output.toText)
    m.createFile {} path count ⟨device, blockSize⟩ =
      create (createLine
        (fill device [("path", path), ("block_size", blockSize), ("count", toString count)])
        (fill path [("block_size", blockSize), ("count", toString count)])
        (fill blockSize [("count", toString count)]) count) ∧
    (Lacks device ["path", "block_size", "count"] → Lacks path ["block_size", "count"] →
      Lacks blockSize ["count"] →
      m.createFile {} path count ⟨device, blockSize⟩ =
        create (createLine device path blockSize count)) ∧
    (m.files.pathExists (encode path) = true →
      m.checksum {} path algorithm .hex options =
        checksum (checksumLine algorithm (fill options [("path", path)]) path) ∧
      (Lacks options ["path"] →
        m.checksum {} path algorithm .hex options =
          checksum (checksumLine algorithm options path))) := by
  intro create checksum
  have hcreate : m.createFile {} path count ⟨device, blockSize⟩ =
      create (createLine
        (fill device [("path", path), ("block_size", blockSize), ("count", toString count)])
        (fill path [("block_size", blockSize), ("count", toString count)])
        (fill blockSize [("count", toString count)]) count) := by
    rw [createFile_eq, createCommand_eq hdevice hpath hblock]
  refine ⟨hcreate, ?_, fun hexists => ?_⟩
  · intro hd hp hb
    rw [hcreate, fill_eq_self (by simp [hpath, hblock]) hd, fill_eq_self (by simp [hblock]) hp,
      fill_eq_self (by simp) hb]
  · have hchecksum : m.checksum {} path algorithm .hex options =
        checksum (checksumLine algorithm (fill options [("path", path)]) path) := by
      rw [checksum_eq hexists, checksumCommand_hex_eq hoptions hpath]
    refine ⟨hchecksum, fun ho => ?_⟩
    rw [hchecksum, fill_eq_self (by simp [hpath]) ho]

/-- The arguments of the built-in commands are searched for holes of other arguments. -/
theorem arguments_filled_in_turn_braces :
    fresh.createFile {} "/etc/passwd" 3 ⟨"{path}", "{count}"⟩ =
      fresh.afterCommand "dd if=/etc/passwd of=/etc/passwd bs=3 count=3 status=none"
        (fun _ m => onPath "/etc/passwd" (m.files.size (encode "/etc/passwd"))) ∧
    fresh.checksum {} "/etc/passwd" .md5 .hex "{path}" =
      fresh.afterCommand "md5sum /etc/passwd /etc/passwd"
        fun output _ => .ok (trim output.toText) := by
  have hexists : fresh.files.pathExists (encode "/etc/passwd") = true := by
    simp only [FileSystem.pathExists, FileSystem.find, FileSystem.locate,
      FileSystem.walk_eq_walkLinks]
    decide +kernel
  have h := arguments_filled_in_turn (show "{path}" ≠ "" by decide)
    (show "/etc/passwd" ≠ "" by decide) (show "{count}" ≠ "" by decide)
    (show "{path}" ≠ "" by decide) fresh 3 .md5
  exact ⟨h.1, (h.2.2 hexists).1⟩

/-- A file is written to another path than the one that was asked for. -/
theorem path_taken_for_count :
    fresh.createFile {} "{count}" 3 ⟨"/dev/zero", "1"⟩ =
      fresh.afterCommand (createLine "/dev/zero" "3" "1" 3)
        (fun _ m => onPath "{count}" (m.files.size (encode "{count}"))) ∧
    createLine "/dev/zero" "3" "1" 3 ≠ createLine "/dev/zero" "{count}" "1" 3 := by
  have hcommand : createCommand {} "{count}" 3 ⟨"/dev/zero", "1"⟩ =
      createLine "/dev/zero" "3" "1" 3 := by decide +kernel
  refine ⟨?_, by decide⟩
  rw [createFile_eq, hcommand]

end Machine

end TestRig
