/-
  TestRig.Proofs.Files.Backup

  Backup and restore on plain file systems.  A batch of copies is simulated by the same
  copies in a map from places to contents (`copyAll_eq_ok`).  If every source that is a
  destination is its own destination, a place ends up with what the last file copied
  there had at the start (`foldl_copyIn`).  From this follow the round trip through the
  backup directory and the exact condition under which a backup loses nothing.
-/
import TestRig.Files.Backup
import TestRig.Proofs.FileSystem.Following
import TestRig.Proofs.FileSystem.PathText
import TestRig.Proofs.FileSystem.Writing

namespace TestRig.Files

open FileSystem
open Text (encode)

variable {fs fs' : FileSystem} {dir : String} {files : List String}

/-! ## Copies in a map from places to contents -/

/-- Contents by their places. -/
abbrev Contents := Location → Option Bytes

/-- A copy from one place to another.  The destination is emptied before the source is read. -/
def copyIn (contents : Contents) (route : Location × Location) : Contents := fun loc =>
  if loc = route.2 then if route.1 = route.2 then some [] else contents route.1
  else contents loc

/-- From where the last copy to a place comes. -/
def lastSource (loc : Location) : List (Location × Location) → Option Location
  | [] => none
  | (source, target) :: rest =>
    (lastSource loc rest).or (if target = loc then some source else none)

theorem mem_of_lastSource {loc source : Location} {routes : List (Location × Location)}
    (h : lastSource loc routes = some source) : (source, loc) ∈ routes := by
  induction routes with
  | nil => cases h
  | cons route rest ih =>
    obtain ⟨first, target⟩ := route
    rw [lastSource, Option.or_eq_some_iff] at h
    rcases h with h | ⟨-, h⟩
    · exact List.mem_cons_of_mem _ (ih h)
    · split at h
      · rename_i htarget
        obtain rfl := Option.some.inj h
        rw [htarget]
        exact List.mem_cons_self
      · cases h

theorem lastSource_eq_none {loc : Location} {routes : List (Location × Location)}
    (h : ∀ route ∈ routes, route.2 ≠ loc) : lastSource loc routes = none := by
  induction routes with
  | nil => rfl
  | cons route rest ih =>
    rw [lastSource, ih fun other hother => h other (List.mem_cons_of_mem _ hother),
      if_neg (h route List.mem_cons_self)]
    rfl

/-- A copy is the last one to its destination when no later copy goes there. -/
theorem lastSource_append {route : Location × Location} (before : List (Location × Location))
    {after : List (Location × Location)} (h : ∀ other ∈ after, other.2 ≠ route.2) :
    lastSource route.2 (before ++ route :: after) = some route.1 := by
  induction before with
  | nil => rw [List.nil_append, lastSource, lastSource_eq_none h, if_pos rfl, Option.none_or]
  | cons first rest ih => rw [List.cons_append, lastSource, ih, Option.some_or]

/-- Every source that is a destination is its own destination. -/
def OwnTargets (routes : List (Location × Location)) : Prop :=
  ∀ route ∈ routes, ∀ other ∈ routes, route.1 = other.2 → route.1 = route.2

/-- Then a place ends up with what the last source copied there had at the start, and empty if that
was the place itself. -/
theorem foldl_copyIn {routes : List (Location × Location)} (hown : OwnTargets routes)
    (contents : Contents) (loc : Location) :
    routes.foldl copyIn contents loc =
      match lastSource loc routes with
      | none => contents loc
      | some source => if source = loc then some [] else contents source := by
  induction routes generalizing contents with
  | nil => rfl
  | cons route rest ih =>
    have hrest := ih (fun r hr other hother => hown r (List.mem_cons_of_mem _ hr) other
      (List.mem_cons_of_mem _ hother)) (copyIn contents route)
    rw [List.foldl_cons, hrest]
    obtain ⟨source, target⟩ := route
    rw [lastSource]
    cases hlast : lastSource loc rest with
    | none =>
      by_cases htarget : target = loc
      · simp [copyIn, htarget]
      · simp [copyIn, htarget, Ne.symm htarget]
    | some later =>
      rw [Option.some_or]
      by_cases hself : later = loc
      · simp [hself]
      · -- the later source is not the destination here, or it would be its own destination
        have hmem : (later, loc) ∈ rest := mem_of_lastSource hlast
        have hother : later ≠ target := fun heq =>
          hself (hown (later, loc) (List.mem_cons_of_mem _ hmem) (source, target)
            List.mem_cons_self heq)
        simp [hself, copyIn, hother]

/-! ## Batches of copies -/

namespace BackupAction

/-- From where to where a file is copied; a file without a last name goes nowhere. -/
def routeOf (action : BackupAction) (dir file : String) : String × String :=
  (action.route? dir file).getD (file, file)

/-- The places between which a file is copied. -/
def placesOf (action : BackupAction) (fs : FileSystem) (dir file : String) :
    Location × Location :=
  (fs.place (encode (action.routeOf dir file).1), fs.place (encode (action.routeOf dir file).2))

theorem placesOf_snd (action : BackupAction) (fs : FileSystem) (dir file : String) :
    (action.placesOf fs dir file).2 = fs.place (encode (action.routeOf dir file).2) := by
  rw [placesOf]

/-- The location is the destination of one of the files. -/
def IsTarget (action : BackupAction) (fs : FileSystem) (dir : String) (files : List String)
    (loc : Location) : Prop := ∃ file ∈ files, loc = (action.placesOf fs dir file).2

theorem routeOf_backup {file name : String} (h : Path.fileName? file = some name) :
    backup.routeOf dir file = (file, Path.join dir name) := by
  rw [routeOf, route?, h]
  rfl

theorem routeOf_restore {file name : String} (h : Path.fileName? file = some name) :
    restore.routeOf dir file = (Path.join dir name, file) := by
  rw [routeOf, route?, h]
  rfl

/-- One file is copied along its route. -/
theorem copyOne_eq_ok {action : BackupAction} {file target : String}
    (h : action.copyOne fs dir file = .ok (target, fs')) :
    (∃ name, Path.fileName? file = some name) ∧ target = (action.routeOf dir file).2 ∧
      fs.copy (encode (action.routeOf dir file).1) (encode (action.routeOf dir file).2) =
        .ok fs' := by
  unfold copyOne at h
  cases hroute : action.route? dir file with
  | none => simp [hroute] at h
  | some route =>
    obtain ⟨source, dest⟩ := route
    have hname : ∃ name, Path.fileName? file = some name := by
      cases hfile : Path.fileName? file with
      | none => simp [route?, hfile] at hroute
      | some name => exact ⟨name, rfl⟩
    have hof : action.routeOf dir file = (source, dest) := by rw [routeOf, hroute]; rfl
    rw [hof]
    simp only [hroute] at h
    cases hcopy : fs.copy (encode source) (encode dest) with
    | error e => simp [hcopy, onPath, Except.mapError, Except.map] at h
    | ok after =>
      obtain ⟨rfl, rfl⟩ : dest = target ∧ after = fs' := by
        simpa [hcopy, onPath, Except.mapError, Except.map] using h
      exact ⟨hname, rfl, rfl⟩

/-- A copy in a plain file system acts on the contents as `copyIn` says. -/
theorem fileAt_copy (hplain : fs.Plain) {source target : String}
    (h : fs.copy (encode source) (encode target) = .ok fs') :
    fs'.fileAt = copyIn fs.fileAt (fs.place (encode source), fs.place (encode target)) := by
  obtain ⟨-, -, hchanged, content, hsource, htarget⟩ :=
    copy_eq_ok hplain.linkFree (hplain.deviceFree _) h
  rw [content?, hchanged.place_eq] at htarget
  funext loc
  rw [copyIn]
  by_cases hloc : loc = fs.place (encode target)
  · rw [if_pos hloc, hloc, htarget]
    split
    · rfl
    · exact hsource.symm
  · rw [if_neg hloc]
    exact fileAt_congr (hchanged.lookup_eq loc hloc)

/-- A batch of copies that succeeds goes through all files.  Only the destinations change, and the
contents change as by the same copies from place to place. -/
theorem copyAll_eq_ok {action : BackupAction} (hplain : fs.Plain) {targets : List String}
    (h : action.copyAll dir files fs = (.ok targets, fs')) :
    targets = files.map (fun file => (action.routeOf dir file).2) ∧
    FilesChanged (action.IsTarget fs dir files) fs fs' ∧
    fs'.fileAt = (files.map (action.placesOf fs dir)).foldl copyIn fs.fileAt ∧
    ∀ file ∈ files, (∃ name, Path.fileName? file = some name) ∧
      fs.Reaches (encode (action.routeOf dir file).1) ∧
      fs.Reaches (encode (action.routeOf dir file).2) ∧
      (fs'.fileAt (action.placesOf fs dir file).2).isSome = true := by
  induction files generalizing fs targets with
  | nil =>
    obtain ⟨rfl, rfl⟩ : [] = targets ∧ fs = fs' := by simpa [copyAll] using h
    exact ⟨rfl, .refl _ _, rfl, fun file hfile => by cases hfile⟩
  | cons file rest ih =>
    rw [copyAll] at h
    cases hone : action.copyOne fs dir file with
    | error e => simp [hone] at h
    | ok copied =>
      obtain ⟨target, fs₁⟩ := copied
      simp only [hone] at h
      obtain ⟨hname, rfl, hcopy⟩ := copyOne_eq_ok hone
      rcases hmore : action.copyAll dir rest fs₁ with ⟨e | more, fs₂⟩
      · simp [hmore] at h
      obtain ⟨rfl, rfl⟩ : _ :: more = targets ∧ fs₂ = fs' := by simpa [hmore] using h
      obtain ⟨hsource, htarget, hchanged, content, -, hcontent⟩ :=
        copy_eq_ok hplain.linkFree (hplain.deviceFree _) hcopy
      obtain ⟨rfl, hrest, hcontents, hall⟩ := ih (hchanged.plain hplain) hmore
      -- the rest is copied in a changed file system, in which paths still have their places
      have hplaces : action.placesOf fs₁ dir = action.placesOf fs dir := by
        funext other
        rw [placesOf, placesOf, hchanged.place_eq, hchanged.place_eq]
      have hfirst : FilesChanged (action.IsTarget fs dir (file :: rest)) fs fs₁ :=
        hchanged.mono fun loc hloc =>
          ⟨file, List.mem_cons_self, hloc.trans (placesOf_snd action fs dir file).symm⟩
      have hlater : FilesChanged (action.IsTarget fs dir (file :: rest)) fs₁ fs₂ := by
        refine hrest.mono ?_
        rintro loc ⟨other, hother, hloc⟩
        exact ⟨other, List.mem_cons_of_mem _ hother, by rw [hloc, hplaces]⟩
      refine ⟨rfl, hfirst.trans hlater, ?_, ?_⟩
      · rw [List.map_cons, List.foldl_cons, hcontents, hplaces, fileAt_copy hplain hcopy]
        rfl
      · intro other hother
        rcases List.mem_cons.1 hother with rfl | hother
        · rw [content?, hchanged.place_eq, ← placesOf_snd] at hcontent
          refine ⟨hname, hsource, htarget, hlater.isSome_fileAt ?_⟩
          rw [hcontent, Option.isSome_some]
        · obtain ⟨hname', hsource', htarget', hsome⟩ := hall other hother
          rw [hplaces] at hsome
          exact ⟨hname', hchanged.reaches_iff.1 hsource', hchanged.reaches_iff.1 htarget', hsome⟩

/-! ## Whole runs -/

/-- Getting ready changes no file, and for a restore nothing at all. -/
theorem prepare_eq_ok {action : BackupAction} (hplain : fs.Plain)
    (h : action.prepare fs dir = .ok fs') :
    fs'.Plain ∧ fs'.current = fs.current ∧ fs'.fileAt = fs.fileAt ∧
      (action = restore → fs' = fs) := by
  cases action with
  | restore =>
    simp only [prepare] at h
    split at h
    · obtain rfl := Except.ok.inj h
      exact ⟨hplain, rfl, rfl, fun _ => rfl⟩
    · cases h
  | backup =>
    simp only [prepare] at h
    split at h
    · obtain rfl := Except.ok.inj h
      exact ⟨hplain, rfl, rfl, fun hne => by cases hne⟩
    · cases hmake : fs.makeDirectory (encode dir) 0o777 with
      | error e => simp [hmake, onPath, Except.mapError] at h
      | ok made =>
        obtain rfl : made = fs' := by simpa [hmake, onPath, Except.mapError] using h
        obtain ⟨loc, mode, hroot, hnode, rfl⟩ := makeDirectory_eq_ok hmake
        exact ⟨hplain.put_directory hroot mode, rfl, fileAt_put_directory hroot hnode mode,
          fun hne => by cases hne⟩

/-- What a run that succeeds has done. -/
structure Done (action : BackupAction) (fs : FileSystem) (dir : String) (files : List String)
    (targets : List String) (fs' : FileSystem) : Prop where
  plain : fs'.Plain
  current_eq : fs'.current = fs.current
  targets_eq : targets = files.map (fun file => (action.routeOf dir file).2)
  fileAt_eq : fs'.fileAt = (files.map (action.placesOf fs dir)).foldl copyIn fs.fileAt
  name : ∀ file ∈ files, ∃ name, Path.fileName? file = some name
  source : ∀ file ∈ files, fs'.Reaches (encode (action.routeOf dir file).1)
  target : ∀ file ∈ files, fs'.Reaches (encode (action.routeOf dir file).2) ∧
    (fs'.fileAt (action.placesOf fs dir file).2).isSome = true
  kept : action = restore → ∀ loc, ¬ action.IsTarget fs dir files loc →
    fs'.lookup loc = fs.lookup loc

theorem done_of_run {action : BackupAction} (hplain : fs.Plain) {targets : List String}
    (h : action.run fs dir files = (.ok targets, fs')) : action.Done fs dir files targets fs' := by
  unfold run at h
  cases hready : action.prepare fs dir with
  | error e => simp [hready] at h
  | ok fs₁ =>
    simp only [hready] at h
    obtain ⟨hplain₁, hcurrent, hsame, hrestore⟩ := prepare_eq_ok hplain hready
    obtain ⟨htargets, hchanged, hcontents, hall⟩ := copyAll_eq_ok hplain₁ h
    have hplaces : action.placesOf fs₁ dir = action.placesOf fs dir := by
      funext file
      rw [placesOf, placesOf, place_congr hcurrent, place_congr hcurrent]
    rw [hplaces, hsame] at hcontents
    rw [hplaces] at hall
    exact {
      plain := hchanged.plain hplain₁
      current_eq := hchanged.current_eq.trans hcurrent
      targets_eq := htargets
      fileAt_eq := hcontents
      name := fun file hfile => (hall file hfile).1
      source := fun file hfile => hchanged.reaches_iff.2 (hall file hfile).2.1
      target := fun file hfile =>
        ⟨hchanged.reaches_iff.2 (hall file hfile).2.2.1, (hall file hfile).2.2.2⟩
      kept := fun haction loc hloc => by
        obtain rfl := hrestore haction
        exact hchanged.lookup_eq loc hloc }

/-! ## Destinations after a run -/

theorem placesOf_backup (fs : FileSystem) (dir : String) {file name : String}
    (h : Path.fileName? file = some name) :
    backup.placesOf fs dir file =
      (fs.place (encode file), fs.place (encode (Path.join dir name))) := by
  rw [placesOf, routeOf_backup h]

theorem placesOf_restore (fs : FileSystem) (dir : String) {file name : String}
    (h : Path.fileName? file = some name) :
    restore.placesOf fs dir file =
      (fs.place (encode (Path.join dir name)), fs.place (encode file)) := by
  rw [placesOf, routeOf_restore h]

/-- Destinations tell the names of the files apart. -/
theorem name_eq_of_target_eq {action : BackupAction} {file other name name' : String}
    (hname : Path.fileName? file = some name) (hname' : Path.fileName? other = some name')
    (h : (action.placesOf fs dir file).2 = (action.placesOf fs dir other).2) : name = name' := by
  cases action with
  | backup =>
    rw [placesOf_backup fs dir hname, placesOf_backup fs dir hname'] at h
    exact name_eq_of_place_join_eq (Path.isName_of_fileName? hname)
      (Path.isName_of_fileName? hname') h
  | restore =>
    rw [placesOf_restore fs dir hname, placesOf_restore fs dir hname'] at h
    exact name_eq_of_place_eq hname hname' h

/-- No later file of the list has the name of this one. -/
def LastOfName (files : List String) (file : String) : Prop :=
  ∃ before after, files = before ++ file :: after ∧
    ∀ other ∈ after, Path.fileName? other ≠ Path.fileName? file

theorem exists_lastOfName {file : String} (h : file ∈ files) :
    ∃ last ∈ files, LastOfName files last ∧ Path.fileName? last = Path.fileName? file := by
  induction files generalizing file with
  | nil => cases h
  | cons first rest ih =>
    by_cases hlater : ∃ other ∈ rest, Path.fileName? other = Path.fileName? file
    · obtain ⟨other, hother, hsame⟩ := hlater
      obtain ⟨last, hlast, ⟨before, after, hrest, hnone⟩, hname⟩ := ih hother
      exact ⟨last, List.mem_cons_of_mem _ hlast,
        ⟨first :: before, after, by rw [hrest, List.cons_append], hnone⟩, hname.trans hsame⟩
    · rcases List.mem_cons.1 h with rfl | hrest
      · exact ⟨file, List.mem_cons_self,
          ⟨[], rest, rfl, fun other hother hsame => hlater ⟨other, hother, hsame⟩⟩, rfl⟩
      · exact absurd ⟨file, hrest, rfl⟩ hlater

theorem lastOfName_of_nodup (h : (files.map Path.fileName?).Nodup) {file : String}
    (hfile : file ∈ files) : LastOfName files file := by
  obtain ⟨before, after, rfl⟩ := List.append_of_mem hfile
  refine ⟨before, after, rfl, ?_⟩
  intro other hother hsame
  rw [List.map_append, List.map_cons, List.nodup_append] at h
  exact (List.nodup_cons.1 h.2.1).1 (List.mem_map.2 ⟨other, hother, hsame⟩)

namespace Done

variable {action : BackupAction} {targets : List String}

/-- If every source that is a destination is its own destination, the last file of a name leaves its
content at its destination, or none if it is copied onto itself. -/
theorem fileAt_target (h : action.Done fs dir files targets fs')
    (hown : OwnTargets (files.map (action.placesOf fs dir))) {file : String}
    (hlast : LastOfName files file) :
    fs'.fileAt (action.placesOf fs dir file).2 =
      if (action.placesOf fs dir file).1 = (action.placesOf fs dir file).2 then some []
      else fs.fileAt (action.placesOf fs dir file).1 := by
  obtain ⟨before, after, hfiles, hlater⟩ := hlast
  have hafter : ∀ other ∈ after.map (action.placesOf fs dir),
      other.2 ≠ (action.placesOf fs dir file).2 := by
    simp only [List.forall_mem_map]
    intro other hother hsame
    obtain ⟨name, hname⟩ := h.name file (by simp [hfiles])
    obtain ⟨name', hname'⟩ := h.name other (by simp [hfiles, hother])
    apply hlater other hother
    rw [hname, hname', name_eq_of_target_eq hname' hname hsame]
  rw [h.fileAt_eq, foldl_copyIn hown, hfiles, List.map_append, List.map_cons,
    lastSource_append _ hafter]

/-- Where no file is copied to, the content stays. -/
theorem fileAt_of_not_target (h : action.Done fs dir files targets fs')
    (hown : OwnTargets (files.map (action.placesOf fs dir))) {loc : Location}
    (hloc : ¬ action.IsTarget fs dir files loc) : fs'.fileAt loc = fs.fileAt loc := by
  have hnone : lastSource loc (files.map (action.placesOf fs dir)) = none := by
    refine lastSource_eq_none ?_
    simp only [List.forall_mem_map]
    exact fun file hfile heq => hloc ⟨file, hfile, heq.symm⟩
  rw [h.fileAt_eq, foldl_copyIn hown, hnone]

/-- Each destination can be read afterwards. -/
theorem read_target (h : action.Done fs dir files targets fs') {file : String}
    (hfile : file ∈ files) :
    ∃ content, fs'.content? (encode (action.routeOf dir file).2) = some content ∧
      fs'.read (encode (action.routeOf dir file).2) = .ok content := by
  obtain ⟨hreach, hsome⟩ := h.target file hfile
  obtain ⟨content, hat⟩ := Option.isSome_iff_exists.1 hsome
  have hcontent : fs'.content? (encode (action.routeOf dir file).2) = some content := by
    rw [content?, place_congr h.current_eq, ← placesOf_snd, hat]
  exact ⟨content, hcontent, read_of_content? h.plain.linkFree hreach hcontent⟩

end Done

/-- A backup copies from no destination but a file's own. -/
theorem ownTargets_backup (h : ∀ file ∈ files, ∃ name, Path.fileName? file = some name) :
    OwnTargets (files.map (backup.placesOf fs dir)) := by
  unfold OwnTargets
  simp only [List.forall_mem_map]
  intro file hfile other hother hsame
  obtain ⟨name, hname⟩ := h file hfile
  obtain ⟨name', hname'⟩ := h other hother
  rw [placesOf_backup fs dir hname, placesOf_backup fs dir hname'] at hsame
  rw [placesOf_backup fs dir hname]
  obtain rfl := name_eq_of_place_eq_join hname (Path.isName_of_fileName? hname') hsame
  exact hsame

/-- The copy of the last file of a name is what the file was, or empty if it is the file itself. -/
theorem content?_copy {targets : List String} (h : backup.Done fs dir files targets fs')
    {file name : String} (hlast : LastOfName files file) (hname : Path.fileName? file = some name) :
    fs'.content? (encode (Path.join dir name)) =
      if fs.place (encode file) = fs.place (encode (Path.join dir name)) then some []
      else fs.content? (encode file) := by
  have htarget := h.fileAt_target (ownTargets_backup h.name) hlast
  rw [placesOf_backup fs dir hname] at htarget
  rwa [content?, place_congr h.current_eq]

/-! ## The round trip -/

/-- No file lies where the copy of one of the files goes. -/
def Apart (fs : FileSystem) (dir : String) (files : List String) : Prop :=
  ∀ file ∈ files, ∀ other ∈ files, ∀ name, Path.fileName? other = some name →
    fs.place (encode file) ≠ fs.place (encode (Path.join dir name))

theorem Apart.congr (h : Apart fs dir files) (hcurrent : fs'.current = fs.current) :
    Apart fs' dir files := by
  intro file hfile other hother name hname
  rw [place_congr hcurrent, place_congr hcurrent]
  exact h file hfile other hother name hname

theorem ownTargets_restore (h : ∀ file ∈ files, ∃ name, Path.fileName? file = some name)
    (hapart : Apart fs dir files) : OwnTargets (files.map (restore.placesOf fs dir)) := by
  unfold OwnTargets
  simp only [List.forall_mem_map]
  intro file hfile other hother hsame
  obtain ⟨name, hname⟩ := h file hfile
  obtain ⟨name', hname'⟩ := h other hother
  rw [placesOf_restore fs dir hname, placesOf_restore fs dir hname'] at hsame
  exact absurd hsame.symm (hapart other hother file hfile name hname)

/-- What was backed up is restored, whatever has happened to the files in between, if relative paths
still start in the same directory and the copies still stand there.  Nothing else changes. -/
theorem restore_backup {fs₁ fs₂ fs₃ : FileSystem} {saved restored : List String}
    (hplain : fs.Plain) (hplain₂ : fs₂.Plain) (hnames : (files.map Path.fileName?).Nodup)
    (hapart : Apart fs dir files) (hbackup : backup.run fs dir files = (.ok saved, fs₁))
    (hcurrent : fs₂.current = fs₁.current)
    (hkept : ∀ file ∈ files, ∀ name, Path.fileName? file = some name →
      fs₂.content? (encode (Path.join dir name)) = fs₁.content? (encode (Path.join dir name)))
    (hrestore : restore.run fs₂ dir files = (.ok restored, fs₃)) :
    (∀ file ∈ files, ∃ content, fs.content? (encode file) = some content ∧
      fs₃.read (encode file) = .ok content) ∧
    ∀ loc, (∀ file ∈ files, fs₂.place (encode file) ≠ loc) → fs₃.lookup loc = fs₂.lookup loc := by
  have hdone := done_of_run hplain hbackup
  have hback := done_of_run hplain₂ hrestore
  have hcurrent₂ : fs₂.current = fs.current := hcurrent.trans hdone.current_eq
  have hplaces : ∀ path, fs₂.place path = fs.place path := place_congr hcurrent₂
  constructor
  · intro file hfile
    obtain ⟨name, hname⟩ := hdone.name file hfile
    have hlast := lastOfName_of_nodup hnames hfile
    have hsep := hapart file hfile file hfile name hname
    have hsaved : fs₁.content? (encode (Path.join dir name)) = fs.content? (encode file) := by
      rw [content?_copy hdone hlast hname, if_neg hsep]
    have hrestored : fs₃.content? (encode file) = fs₂.content? (encode (Path.join dir name)) := by
      have htarget := hback.fileAt_target
        (ownTargets_restore hdone.name (hapart.congr hcurrent₂)) hlast
      rw [placesOf_restore fs₂ dir hname, hplaces, hplaces, if_neg hsep.symm] at htarget
      rw [content?, content?, place_congr hback.current_eq, hplaces, hplaces]
      exact htarget
    obtain ⟨content, hcontent, hread⟩ := hback.read_target hfile
    rw [routeOf_restore hname] at hcontent hread
    refine ⟨content, ?_, hread⟩
    rw [← hsaved, ← hkept file hfile name hname, ← hrestored, hcontent]
  · intro loc hloc
    refine hback.kept rfl loc ?_
    rintro ⟨file, hfile, htarget⟩
    obtain ⟨name, hname⟩ := hback.name file hfile
    rw [placesOf_restore fs₂ dir hname] at htarget
    exact hloc file hfile htarget.symm

/-- Two files of which there is an old copy. -/
def diskWithOriginals : FileSystem where
  nodes := [([encode "b"], .directory 0o755), ([encode "b", encode "y"], .file 0o600 [7, 7, 7]),
    ([encode "x"], .file 0o644 [1, 2]), ([encode "y"], .file 0o600 [3])]

/-- After both were backed up, one was deleted and the other one overwritten. -/
def diskAfterLoss : FileSystem where
  nodes := [([encode "b"], .directory 0o755), ([encode "b", encode "x"], .file 0o644 [1, 2]),
    ([encode "b", encode "y"], .file 0o600 [3]), ([encode "y"], .file 0o600 [9, 9])]

theorem restore_backup_after_loss :
    ∃ restored fs₃, restore.run diskAfterLoss "b" ["x", "y"] = (.ok restored, fs₃) ∧
      ∀ file ∈ ["x", "y"], ∃ content, diskWithOriginals.content? (encode file) = some content ∧
        fs₃.read (encode file) = .ok content := by
  have hplain : diskWithOriginals.Plain :=
    plain_of_nodes (by simp [diskWithOriginals, Node.isFile, Node.isDirectory])
  have hplain₂ : diskAfterLoss.Plain :=
    plain_of_nodes (by simp [diskAfterLoss, Node.isFile, Node.isDirectory])
  have hbackup : (backup.run diskWithOriginals "b" ["x", "y"]).1 = .ok ["b/x", "b/y"] ∧
      ∀ name ∈ ["x", "y"], diskAfterLoss.content? (encode (Path.join "b" name)) =
        (backup.run diskWithOriginals "b" ["x", "y"]).2.content?
          (encode (Path.join "b" name)) := by
    simp only [run, prepare, copyAll, copyOne, pathExists, copy, find, openForWriting, locate,
      walk_eq_walkLinks]
    decide +kernel
  have hrestore : (restore.run diskAfterLoss "b" ["x", "y"]).1 = .ok ["x", "y"] := by
    simp only [run, prepare, copyAll, copyOne, isDirectory, copy, find, openForWriting, locate,
      walk_eq_walkLinks]
    decide +kernel
  have hlist : ["x", "y"].map Path.fileName? = [some "x", some "y"] := by decide +kernel
  have hapart : Apart diskWithOriginals "b" ["x", "y"] := by
    intro file hfile other _ name hname heq
    have hshort : (diskWithOriginals.place (encode file)).length = 1 := by
      rcases List.mem_pair.1 hfile with rfl | rfl <;> decide +kernel
    have hdir : (diskWithOriginals.place (encode "b")).length = 1 := by decide +kernel
    rw [heq, place_join _ _ (Path.isName_of_fileName? hname), List.length_append, hdir] at hshort
    simp at hshort
  refine ⟨_, _, Prod.ext hrestore rfl, ?_⟩
  refine (restore_backup hplain hplain₂ (hlist ▸ by decide) hapart (Prod.ext hbackup.1 rfl) ?_ ?_
    (Prod.ext hrestore rfl)).1
  · exact (done_of_run hplain (Prod.ext hbackup.1 rfl)).current_eq.symm
  · intro file hfile name hname
    have hmem : some name ∈ ["x", "y"].map Path.fileName? := hname ▸ List.mem_map_of_mem hfile
    rw [hlist] at hmem
    exact hbackup.2 name (by simpa using hmem)

/-! ## What a backup loses -/

/-- Every file still has its content, and its copy holds it. -/
def Keeps (fs : FileSystem) (dir : String) (files : List String) (fs' : FileSystem) : Prop :=
  ∀ file ∈ files, ∀ name, Path.fileName? file = some name →
    ∃ content, fs.content? (encode file) = some content ∧ fs'.read (encode file) = .ok content ∧
      fs'.read (encode (Path.join dir name)) = .ok content

/-- A file that is overwritten is its own copy. -/
theorem content?_original {targets : List String} (h : backup.Done fs dir files targets fs')
    {file name : String} (hname : Path.fileName? file = some name) :
    fs'.content? (encode file) = fs.content? (encode file) ∨
      fs'.content? (encode file) = fs'.content? (encode (Path.join dir name)) := by
  have hown : OwnTargets (files.map (backup.placesOf fs dir)) := ownTargets_backup h.name
  rw [content?, place_congr h.current_eq]
  by_cases htarget : backup.IsTarget fs dir files (fs.place (encode file))
  · obtain ⟨other, hother, hplace⟩ := htarget
    obtain ⟨name', hname'⟩ := h.name other hother
    rw [placesOf_backup fs dir hname'] at hplace
    obtain rfl := name_eq_of_place_eq_join hname (Path.isName_of_fileName? hname') hplace
    refine .inr ?_
    rw [hplace, content?, place_congr h.current_eq]
  · exact .inl (h.fileAt_of_not_target hown htarget)

/-- A backup keeps everything if files of one name have the same content and no file with content is
copied last onto itself. -/
theorem Done.keeps {targets : List String} (h : backup.Done fs dir files targets fs')
    (hsame : ∀ file ∈ files, ∀ other ∈ files, Path.fileName? file = Path.fileName? other →
      fs.content? (encode file) = fs.content? (encode other))
    (hself : ∀ file ∈ files, LastOfName files file → ∀ name, Path.fileName? file = some name →
      fs.place (encode file) = fs.place (encode (Path.join dir name)) →
        fs.content? (encode file) = some []) : Keeps fs dir files fs' := by
  intro file hfile name hname
  -- the copy was written last from a file of the same name, which had the same content
  obtain ⟨last, hmem, hlast, hshared⟩ := exists_lastOfName hfile
  have hlastName : Path.fileName? last = some name := hshared.trans hname
  have hsaved : fs'.content? (encode (Path.join dir name)) = fs.content? (encode file) := by
    rw [content?_copy h hlast hlastName, ← hsame last hmem file hfile hshared]
    split
    · rename_i hplace
      exact (hself last hmem hlast name hlastName hplace).symm
    · rfl
  have hkept : fs'.content? (encode file) = fs.content? (encode file) := by
    rcases content?_original h hname with heq | heq
    · exact heq
    · exact heq.trans hsaved
  obtain ⟨content, hcopied, hcopy⟩ := h.read_target hfile
  rw [routeOf_backup hname] at hcopied hcopy
  have hcontent : fs.content? (encode file) = some content := hsaved.symm.trans hcopied
  have hreach := h.source file hfile
  rw [routeOf_backup hname] at hreach
  exact ⟨content, hcontent,
    read_of_content? h.plain.linkFree hreach (hkept.trans hcontent), hcopy⟩

/-- A backup that succeeds lists the copies of all files.  It keeps everything exactly if files of
one name have the same content and no file with content is copied last onto itself. -/
theorem backup_keeps_iff (hplain : fs.Plain) {targets : List String}
    (h : backup.run fs dir files = (.ok targets, fs')) :
    targets.map some = files.map (fun file => (Path.fileName? file).map (Path.join dir)) ∧
    (Keeps fs dir files fs' ↔
      (∀ file ∈ files, ∀ other ∈ files, Path.fileName? file = Path.fileName? other →
        fs.content? (encode file) = fs.content? (encode other)) ∧
      ∀ file ∈ files, LastOfName files file → ∀ name, Path.fileName? file = some name →
        fs.place (encode file) = fs.place (encode (Path.join dir name)) →
          fs.content? (encode file) = some []) := by
  have hdone := done_of_run hplain h
  refine ⟨?_, ?_, fun ⟨hsame, hself⟩ => hdone.keeps hsame hself⟩
  · rw [hdone.targets_eq, List.map_map]
    refine List.map_congr_left fun file hfile => ?_
    obtain ⟨name, hname⟩ := hdone.name file hfile
    rw [Function.comp_apply, routeOf_backup hname, hname]
    rfl
  · intro hkeeps
    constructor
    · intro file hfile other hother hsame
      obtain ⟨name, hname⟩ := hdone.name file hfile
      obtain ⟨content, hcontent, -, hcopy⟩ := hkeeps file hfile name hname
      obtain ⟨content', hcontent', -, hcopy'⟩ := hkeeps other hother name (hsame ▸ hname)
      obtain rfl : content = content' := Except.ok.inj (hcopy.symm.trans hcopy')
      rw [hcontent, hcontent']
    · intro file hfile hlast name hname hplace
      obtain ⟨content, hcontent, -, hcopy⟩ := hkeeps file hfile name hname
      have hempty := content?_copy hdone hlast hname
      rw [if_pos hplace, content?_of_read hdone.plain hcopy] at hempty
      rw [hcontent, hempty]

/-- A file that lies in the backup directory already. -/
def diskWithOwnCopy : FileSystem where
  nodes := [([encode "b"], .directory 0o755), ([encode "b", encode "x"], .file 0o644 [1, 2])]

theorem run_diskWithOwnCopy :
    (backup.run diskWithOwnCopy "b" ["b/x"]).1 = .ok ["b/x"] ∧
      (backup.run diskWithOwnCopy "b" ["b/x"]).2.read (encode "b/x") = .ok [] := by
  simp only [run, prepare, copyAll, copyOne, pathExists, FileSystem.read, copy, find,
    openForWriting, locate, walk_eq_walkLinks]
  decide +kernel

theorem backup_keeps_iff_own_copy :
    ∃ fs', backup.run diskWithOwnCopy "b" ["b/x"] = (.ok ["b/x"], fs') ∧
      ¬ Keeps diskWithOwnCopy "b" ["b/x"] fs' := by
  have hplain : diskWithOwnCopy.Plain :=
    plain_of_nodes (by simp [diskWithOwnCopy, Node.isFile, Node.isDirectory])
  refine ⟨_, Prod.ext run_diskWithOwnCopy.1 rfl, ?_⟩
  rw [(backup_keeps_iff hplain (Prod.ext run_diskWithOwnCopy.1 rfl)).2]
  rintro ⟨-, hself⟩
  have hempty := hself "b/x" List.mem_cons_self ⟨[], [], rfl, by simp⟩ "x" (by decide +kernel)
    (by decide +kernel)
  exact absurd hempty (by decide +kernel)

/-- A file that is backed up into the directory in which it lies is emptied. -/
theorem backup_empties_own_copy :
    ∃ fs', diskWithOwnCopy.read (encode "b/x") = .ok [1, 2] ∧
      backup.run diskWithOwnCopy "b" ["b/x"] = (.ok ["b/x"], fs') ∧
      fs'.read (encode "b/x") = .ok [] := by
  refine ⟨_, ?_, Prod.ext run_diskWithOwnCopy.1 rfl, run_diskWithOwnCopy.2⟩
  simp only [FileSystem.read, find, locate, walk_eq_walkLinks]
  decide +kernel

end BackupAction

end TestRig.Files
