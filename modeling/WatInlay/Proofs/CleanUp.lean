/-
Cleaning up.

However a run ends, it leaves no file at the two scratch paths, and the tool
itself has written and removed no other file, but for the source of a run that
changed it (`run_cleansUp`). The compiler may behave otherwise each time it is
started, as long as it makes no directory; the formatter is any program at all, and
any write may be refused.
Every step of a run is recorded, and the record accounts for the files
(`Session.Accounted`), so that what is said of the record is said of the files.
-/

import WatInlay.Proofs.WriteBack

namespace WatInlay

/-! ### Files without one of them -/

namespace FileSystem

variable {fs a b : FileSystem} {path : Path} {place q : Place} {names : List Text}

/-- What was no directory is gone. -/
theorem node?_without (hplace : fs.locate path = .ok place)
    (hfolder : fs.node? place ≠ some .folder) : (fs.without path).node? place = none := by
  rw [node?_of_ne_nil (ne_nil_of_node?_ne_folder hfolder),
    getElem?_nodes_without hplace hfolder, if_pos rfl]

/-- All else is still there, and a directory is there anyway. -/
theorem getElem?_nodes_without_of_imp
    (h : fs.locate path = .ok place → fs.node? place = some .folder) :
    (fs.without path).nodes[place]? = fs.nodes[place]? := by
  by_cases hfolder : fs.find? path = some .folder
  · rw [without_of_remove_eq_error (remove_of_find?_eq_folder hfolder)]
  · cases hlocate : fs.locate path with
    | error e =>
      have hnone : fs.find? path = none := find?_eq_none_of_locate (by simp [hlocate])
      rw [without_of_find?_eq_none hnone]
    | ok q =>
      rw [find?_of_locate hlocate] at hfolder
      rw [getElem?_nodes_without hlocate hfolder, if_neg]
      rintro rfl
      exact hfolder (h hlocate)

/-! ### Fewer directories -/

/-- A walk that is still possible with fewer directories leads where it did. -/
theorem walk_of_folders (hfolders : ∀ q, b.node? q = some .folder → a.node? q = some .folder)
    (h : b.walk place names = .ok q) : a.walk place names = .ok q := by
  induction names generalizing place with
  | nil => exact h
  | cons name names ih =>
    rw [walk] at h ⊢
    split at h
    · cases h
    · cases h
    · rename_i hfolder
      rw [hfolders place hfolder]
      simp only
      split at h
      · rename_i hblank
        rw [if_pos hblank]
        exact ih h
      · rename_i hblank
        rw [if_neg hblank]
        split at h
        · rename_i hup
          rw [if_pos hup]
          exact ih h
        · rename_i hup
          rw [if_neg hup]
          split at h
          · cases h
          · rename_i hfits
            rw [if_neg hfits]
            exact ih h

/-- A directory that is found with fewer of them was found before. -/
theorem find?_eq_folder_of_folders (hhere : b.here = a.here)
    (hfolders : ∀ q, b.node? q = some .folder → a.node? q = some .folder)
    (h : b.find? path = some .folder) : a.find? path = some .folder := by
  obtain ⟨q, hplace, hnode⟩ := find?_eq_some_iff.mp h
  refine find?_eq_some_iff.mpr ⟨q, ?_, hfolders q hnode⟩
  obtain ⟨hfault, hfollow⟩ := locate_eq_ok_iff.mp hplace
  refine locate_eq_ok_iff.mpr ⟨hfault, ?_⟩
  unfold follow at hfollow ⊢
  rw [hhere] at hfollow
  exact walk_of_folders hfolders hfollow

end FileSystem

/-! ### Scratch files removed -/

namespace Config

variable {config : Config} {a b : FileSystem} {p : Path}

/-- `b` is `a` without the files at the scratch paths. A directory there stays. -/
structure Cleaned (config : Config) (a b : FileSystem) : Prop where
  here : b.here = a.here
  gone : ∀ p place, config.IsScratch p → a.locate p = .ok place →
    a.node? place ≠ some .folder → b.node? place = none
  kept : ∀ place, (∀ p, config.IsScratch p → a.locate p = .ok place →
    a.node? place = some .folder) → b.nodes[place]? = a.nodes[place]?

theorem files_cleanUp (config : Config) (s : Session) :
    (config.cleanUp s).files = (s.files.without config.unit).without config.binary := by
  unfold cleanUp
  rw [Session.files_discard, Session.files_discard]

/-- Cleaning up removes the files at the scratch paths, and these only. -/
theorem cleaned_cleanUp (config : Config) (s : Session) :
    config.Cleaned s.files (config.cleanUp s).files := by
  rw [files_cleanUp]
  have hunit := FileSystem.agreeBut_without s.files config.unit
  have hbinary := FileSystem.agreeBut_without (s.files.without config.unit) config.binary
  refine ⟨by rw [FileSystem.here_without, FileSystem.here_without], ?_, ?_⟩
  · rintro p place (rfl | rfl) hplace hfolder
    -- The unit goes first, and removing the binary does not bring it back.
    · have hapart : (s.files.without config.unit).locate config.binary ≠ .ok place :=
        config.unit_apart_binary _ _ (hunit.locate_eq_ok_iff.mp hplace)
      rw [← hbinary.node?_eq hapart]
      exact FileSystem.node?_without hplace hfolder
    · exact FileSystem.node?_without (hunit.locate_eq_ok_iff.mp hplace)
        (mt hunit.node?_eq_folder_iff.mpr hfolder)
  · intro place hkept
    rw [FileSystem.getElem?_nodes_without_of_imp, FileSystem.getElem?_nodes_without_of_imp]
    · exact hkept _ (.inl rfl)
    · intro hplace
      exact hunit.node?_eq_folder_iff.mp
        (hkept _ (.inr rfl) (hunit.locate_eq_ok_iff.mpr hplace))

namespace Cleaned

/-- Nothing differs but at the places of the scratch files. -/
theorem agreeBut (h : config.Cleaned a b) :
    FileSystem.AgreeBut (fun place => ∃ p, config.IsScratch p ∧ a.locate p = .ok place) a b where
  here := h.here.symm
  nodes place := by
    by_cases hkept : ∀ p, config.IsScratch p → a.locate p = .ok place →
        a.node? place = some .folder
    · exact .inl (h.kept place hkept).symm
    · simp only [Classical.not_forall] at hkept
      obtain ⟨p, hp, hplace, hfolder⟩ := hkept
      refine .inr ⟨⟨p, hp, hplace⟩, hfolder, ?_⟩
      rw [h.gone p place hp hplace hfolder]
      simp

/-- At a scratch path there is a directory, if it was there before, or nothing. -/
theorem find?_eq_none (h : config.Cleaned a b) (hp : config.IsScratch p)
    (hfolder : a.find? p ≠ some .folder) : b.find? p = none := by
  cases hplace : b.locate p with
  | error e => exact FileSystem.find?_eq_none_of_locate (by simp [hplace])
  | ok place =>
    have hplace' := h.agreeBut.locate_eq_ok_iff.mpr hplace
    rw [FileSystem.find?_of_locate hplace'] at hfolder
    rw [FileSystem.find?_of_locate hplace]
    exact h.gone p place hp hplace' hfolder

/-- Where there is no scratch file nothing is removed. -/
theorem eq (h : config.Cleaned a b)
    (hnone : ∀ p, config.IsScratch p → ∀ contents executable,
      a.find? p ≠ some (.file contents executable)) : b = a := by
  refine FileSystem.eq_of_nodes h.here fun place => ?_
  rcases h.agreeBut.nodes place with heq | ⟨⟨p, hp, hplace⟩, hfolder, -⟩
  · exact heq.symm
  · have hgone := h.gone p place hp hplace hfolder
    have hroot := FileSystem.ne_nil_of_node?_ne_folder hfolder
    have hmissing : a.node? place = none := by
      cases hnode : a.node? place with
      | none => rfl
      | some node =>
        cases node with
        | folder => exact absurd hnode hfolder
        | file contents executable =>
          exact absurd ((FileSystem.find?_of_locate hplace).trans hnode)
            (hnone p hp contents executable)
    rw [← FileSystem.node?_of_ne_nil hroot, ← FileSystem.node?_of_ne_nil hroot, hgone, hmissing]

end Cleaned

end Config

/-! ### Compilers and formatters -/

namespace Launcher

/-- Whatever its options are, the compiler makes no directory, and it does not move
the working directory. -/
def MakesNoFolders (launcher : Launcher) (config : Config) : Prop :=
  ∀ options files exit files',
    launcher config.compiler (config.unit :: options) files = .ok (exit, files') →
      files'.here = files.here ∧
        ∀ place, files'.node? place = some .folder → files.node? place = some .folder

/-- The formatter can make a directory of what is at `p`, or of nothing. -/
def MakesFolder (formatter : Launcher) (d : Dialect) (path p : Path) : Prop :=
  ∃ program arguments written, d.formatter = program :: arguments ∧
    written.find? p ≠ some .folder ∧
    (formatter.leftBy program (arguments ++ [path]) written).find? p = some .folder

theorem MakesNoFolders.find?_leftBy {launcher : Launcher} {config : Config}
    (h : launcher.MakesNoFolders config) {options : List Text} {files : FileSystem} {p : Path}
    (hfolder : (launcher.leftBy config.compiler (config.unit :: options) files).find? p =
      some .folder) : files.find? p = some .folder := by
  unfold leftBy at hfolder
  split at hfolder
  · exact hfolder
  · rename_i exit files' hlaunch
    obtain ⟨hhere, hfolders⟩ := h options files exit files' hlaunch
    exact FileSystem.find?_eq_folder_of_folders hhere hfolders hfolder

end Launcher

/-! ### The record of a session -/

namespace Session

/-- The record of the session accounts for its files: what it lists was done, in
this order, to the files at the start, with the programs in `L`. -/
inductive Accounted (L : Launcher → Prop) (start : FileSystem) : Session → Prop where
  | start : Accounted L start { files := start }
  | after {s a files} : Accounted L start s → a.Does L s.files files →
      Accounted L start (s.after a files)

variable {config : Config} {L M : Launcher → Prop} {s s' : Session}

theorem Steps.accounted {start : FileSystem} (hsub : ∀ launcher, L launcher → M launcher)
    (h : Steps config L s s') (hs : s.Accounted M start) : s'.Accounted M start := by
  induction h with
  | refl => exact hs
  | tail _ hstep ih =>
    obtain ⟨-, hdoes⟩ := hstep
    exact ih.after (hdoes.mono hsub)

/-- Steps with compilers that make no directories make none in place of a scratch
file, nor anywhere else. -/
theorem Steps.find?_eq_folder (hL : ∀ launcher, L launcher → launcher.MakesNoFolders config)
    (h : Steps config L s s') {p : Path} (hfolder : s'.files.find? p = some .folder) :
    s.files.find? p = some .folder := by
  induction h with
  | refl => exact hfolder
  | tail _ hstep ih =>
    refine ih ?_
    obtain ⟨hscratch, hdoes⟩ := hstep
    rcases hscratch.path?_or_compiled with ⟨p', -, hpath⟩ | ⟨options, rfl⟩
    · exact (hdoes.agreeBut hpath).find?_eq_folder_iff.mpr hfolder
    · cases hdoes with
      | launched hlauncher => exact (hL _ hlauncher).find?_leftBy hfolder

/-- How many programs were started. -/
def launches (s : Session) : Nat :=
  s.actions.countP fun a => a.path?.isNone

end Session

/-! ### Compilers that change -/

/-- The configured compiler, which behaves otherwise each time it is started. -/
def Config.toCompilerInTurn (config : Config) (behaviours : Nat → Launcher)
    (refusals : Refusals := .never) : Compiler Session where
  unitName := config.unit
  compile s body options := config.compile (behaviours s.launches) s body options refusals

/-- The whole run with a compiler that behaves otherwise each time it is started,
and a formatter of its own. -/
def runInTurn (behaviours : Nat → Launcher) (formatter : Launcher) (config : Config)
    (path : Option Path) (files : FileSystem) (refusals : Refusals := .never) : Run :=
  let r : Run :=
    match path with
    | none => .failed .missingArgument { files }
    | some path =>
      match Dialect.ofPath path with
      | .error e => .failed e { files }
      | .ok d =>
        Run.onFile formatter d (config.toCompilerInTurn behaviours refusals) path { files } refusals
  { r with session := config.cleanUp r.session }

/-- A run is one in which the compiler always behaves alike. -/
theorem run_eq_runInTurn (launcher : Launcher) (config : Config) (path : Option Path)
    (files : FileSystem) (refusals : Refusals := .never) :
    run launcher config path files refusals =
      runInTurn (fun _ => launcher) launcher config path files refusals :=
  rfl

theorem runInTurn_eq_onFile {behaviours : Nat → Launcher} {formatter : Launcher}
    {config : Config} {path : Path} {d : Dialect} (hd : Dialect.ofPath path = .ok d)
    (files : FileSystem) (refusals : Refusals) :
    runInTurn behaviours formatter config (some path) files refusals =
      let r := Run.onFile formatter d (config.toCompilerInTurn behaviours refusals) path { files }
        refusals
      { r with session := config.cleanUp r.session } := by
  simp only [runInTurn, hd]

/-! ### Before the scratch files are removed -/

namespace Run

/-- The run succeeded, and the source was changed. -/
def Modifies (r : Run) : Prop :=
  ∃ summary, r.outcome = .ok summary ∧ summary.modified = true

/-- The session of the run accounts for its files, and no file was written or
removed but for the scratch files and the source of a run that changed it. In
place of a scratch file there is only a directory if the formatter made it. -/
structure Tidy (r : Run) (L : Launcher → Prop) (formatter : Launcher) (config : Config)
    (d : Dialect) (path : Path) (files : FileSystem) : Prop where
  accounted : r.session.Accounted L files
  touched : ∀ a ∈ r.session.actions, ∀ p, a.path? = some p →
    config.IsScratch p ∨ p = path ∧ r.Modifies
  folders : ∀ p, config.IsScratch p → r.session.files.find? p = some .folder →
    r.Modifies ∧ formatter.MakesFolder d path p

variable {r : Run} {s : Session} {L M : Launcher → Prop} {behaviours : Nat → Launcher}
  {formatter : Launcher} {config : Config} {d : Dialect} {path : Path} {files : FileSystem}

section

variable (hplain : ∀ p, config.IsScratch p → files.find? p ≠ some .folder)
  (hL : ∀ launcher, L launcher → launcher.MakesNoFolders config)
  (hsub : ∀ launcher, L launcher → M launcher)

include hplain hL hsub

/-- A run that only took steps on the scratch files is tidy. -/
theorem tidy_of_steps (h : Session.Steps config L { files } r.session) :
    r.Tidy M formatter config d path files where
  accounted := h.accounted hsub .start
  touched := by
    refine h.forall_actions (fun a ha p hpath => ?_) (by simp)
    exact .inl (ha.isScratch hpath)
  folders p hp hfolder := absurd (h.find?_eq_folder hL hfolder) (hplain p hp)

/-- So is a run that then wrote the source and started the formatter. -/
theorem tidy_of_write (hformatter : M formatter) (h : Session.Steps config L { files } s)
    {program : Text} {arguments : List Text} (hd : d.formatter = program :: arguments)
    {contents : Bytes} {written : FileSystem}
    (hwrite : s.files.write path contents = .ok written)
    (hsession : r.session = (s.after (.wrote path contents) written).after
      (.launched program (arguments ++ [path]))
      (formatter.leftBy program (arguments ++ [path]) written))
    (hmodifies : r.Modifies) : r.Tidy M formatter config d path files where
  accounted := by
    rw [hsession]
    exact ((h.accounted hsub .start).after (.wrote hwrite)).after (.launched hformatter)
  touched := by
    have hsteps := h.forall_actions (P := fun a => ∀ p, a.path? = some p → config.IsScratch p)
      (fun a ha p hpath => ha.isScratch hpath) (by simp)
    intro a ha p hpath
    simp only [hsession, Session.after, List.mem_append, List.mem_singleton] at ha
    rcases ha with (hold | rfl) | rfl
    · exact .inl (hsteps a hold p hpath)
    · cases hpath
      exact .inr ⟨rfl, hmodifies⟩
    · cases hpath
  folders p hp hfolder := by
    -- There was none before the source was written, so the formatter made it.
    refine ⟨hmodifies, program, arguments, written, hd, fun hwritten => ?_, ?_⟩
    · have hbefore := (FileSystem.agreeBut_of_write hwrite).find?_eq_folder_iff.mpr hwritten
      exact hplain p hp (h.find?_eq_folder hL hbefore)
    · rw [hsession] at hfolder
      exact hfolder

end

/-- However a run over a file ends, it is tidy. -/
theorem onFile_tidy (formatter : Launcher) (hd : Dialect.ofPath path = .ok d)
    (hplain : ∀ p, config.IsScratch p → files.find? p ≠ some .folder)
    (hbehaviours : ∀ n, (behaviours n).MakesNoFolders config) (refusals : Refusals) :
    (onFile formatter d (config.toCompilerInTurn behaviours refusals) path { files } refusals).Tidy
      (fun launcher => launcher = formatter ∨ ∃ n, launcher = behaviours n)
      formatter config d path files := by
  have hL : ∀ launcher, (∃ n, launcher = behaviours n) → launcher.MakesNoFolders config := by
    rintro _ ⟨n, rfl⟩
    exact hbehaviours n
  have hpass : ∀ source, Session.Steps config (∃ n, · = behaviours n) { files }
      (process path d (config.toCompilerInTurn behaviours refusals) source { files }).state :=
    Session.Steps.process (fun s _ _ => ⟨behaviours s.launches, ⟨_, rfl⟩, rfl⟩) path d { files }
  cases hread : files.readText path with
  | error e =>
    rw [onFile_of_readText_eq_error hread]
    exact tidy_of_steps hplain hL (fun _ => .inr) .refl
  | ok source =>
    cases hok : (process path d (config.toCompilerInTurn behaviours refusals) source { files }).outcome with
    | error e =>
      rw [onFile_of_outcome_eq_error hread hok]
      exact tidy_of_steps hplain hL (fun _ => .inr) (hpass source)
    | ok p =>
      rw [onFile_of_outcome_eq_ok hread hok]
      cases hmodified : p.modified with
      | false => exact tidy_of_steps hplain hL (fun _ => .inr) (hpass source)
      | true =>
        obtain ⟨program, arguments, hformatter⟩ := Dialect.exists_formatter hd
        cases hwrite : refusals.write (process path d
            (config.toCompilerInTurn behaviours refusals) source { files }).state.files path
            p.text.bytes with
        | error e =>
          rw [Dialect.finalize_of_write_eq_error hwrite]
          exact tidy_of_steps hplain hL (fun _ => .inr) (hpass source)
        | ok written =>
          rw [Dialect.finalize_of_write_eq_ok hformatter hwrite]
          exact tidy_of_write hplain hL (fun _ => .inr) (.inl rfl) (hpass source) hformatter
            (Refusals.write_eq_ok hwrite) rfl ⟨_, rfl, rfl⟩

end Run

/-! ### However a run ends -/

/-- Let neither scratch path lead to a directory, and let the compiler make none,
however it behaves from one start to the next; any write may be refused. Then however
the run ends, no file is left at the scratch paths: nothing at all is there, unless the
formatter made a directory of it. The record of what the tool did accounts for the
files, and lists as written or removed the scratch files only, and the source if the
run succeeded and changed it. -/
theorem run_cleansUp {config : Config} {path : Path} {d : Dialect}
    (hd : Dialect.ofPath path = .ok d) {files : FileSystem}
    (hplain : ∀ p, config.IsScratch p → files.find? p ≠ some .folder)
    {behaviours : Nat → Launcher} (hbehaviours : ∀ n, (behaviours n).MakesNoFolders config)
    (formatter : Launcher) (refusals : Refusals) :
    let r := runInTurn behaviours formatter config (some path) files refusals
    (∀ p, config.IsScratch p → r.session.files.find? p = none ∨
      r.session.files.find? p = some .folder ∧ r.Modifies ∧ formatter.MakesFolder d path p) ∧
    r.session.Accounted (fun launcher => launcher = formatter ∨ ∃ n, launcher = behaviours n)
      files ∧
    ∀ a ∈ r.session.actions, ∀ p, a.path? = some p →
      config.IsScratch p ∨ p = path ∧ r.Modifies := by
  have htidy := Run.onFile_tidy formatter hd hplain hbehaviours refusals
  rw [runInTurn_eq_onFile hd]
  generalize Run.onFile formatter d (config.toCompilerInTurn behaviours refusals) path { files }
    refusals = r at htidy
  have hcleaned := config.cleaned_cleanUp r.session
  have hsteps : Session.Steps config (fun _ => False) r.session (config.cleanUp r.session) :=
    .cleanUp r.session
  refine ⟨fun p hp => ?_, hsteps.accounted (fun _ h => h.elim) htidy.accounted, ?_⟩
  · by_cases hfolder : r.session.files.find? p = some .folder
    · exact .inr ⟨hcleaned.agreeBut.find?_eq_folder_iff.mp hfolder, htidy.folders p hp hfolder⟩
    · exact .inl (hcleaned.find?_eq_none hp hfolder)
  · refine hsteps.forall_actions (fun a ha p hpath => ?_) htidy.touched
    exact .inl (ha.isScratch hpath)

/-! ### A sample -/

theorem sampleLauncher_makesNoFolders : sampleLauncher.MakesNoFolders .standard := by
  intro options files exit files' h
  have hagree := FileSystem.agreeBut_of_write (write_of_sampleLauncher h)
  exact ⟨hagree.here.symm, fun _ => hagree.node?_eq_folder_iff.mpr⟩

/-- As a formatter the sample program does nothing at all. -/
theorem not_sampleLauncher_makesFolder (path p : Path) :
    ¬ sampleLauncher.MakesFolder .rust path p := by
  rintro ⟨program, arguments, written, hformatter, hbefore, hfolder⟩
  cases hformatter
  have hleft : sampleLauncher.leftBy "rustfmt".toList ([] ++ [path]) written = written := by
    unfold Launcher.leftBy sampleLauncher
    rw [if_neg (by decide)]
  rw [hleft] at hfolder
  exact hbefore hfolder

/-- A block that compiles: of the two scratch files nothing is left. -/
theorem run_cleansUp_sample :
    sampleFiles.find? Config.standard.unit = none ∧
      sampleFiles.find? Config.standard.binary = none ∧
      ∀ p, Config.standard.IsScratch p →
        (run sampleLauncher .standard (some "s.rs".toList) sampleFiles).session.files.find? p =
          none := by
  have hunit : sampleFiles.find? Config.standard.unit = none := rfl
  have hbinary : sampleFiles.find? Config.standard.binary = none := rfl
  have hplain : ∀ p, Config.standard.IsScratch p → sampleFiles.find? p ≠ some .folder := by
    rintro p (rfl | rfl)
    · rw [hunit]
      simp
    · rw [hbinary]
      simp
  have hd : Dialect.ofPath "s.rs".toList = .ok .rust := rfl
  obtain ⟨hgone, -⟩ := run_cleansUp hd hplain (fun _ => sampleLauncher_makesNoFolders)
    sampleLauncher .never
  refine ⟨hunit, hbinary, fun p hp => ?_⟩
  rw [run_eq_runInTurn]
  rcases hgone p hp with hnone | ⟨-, -, hmakes⟩
  · exact hnone
  · exact absurd hmakes (not_sampleLauncher_makesFolder _ _)

end WatInlay
