/-
Stale scratch files.

What stands at the paths of the scratch files makes no difference to a run.
Compiling writes the unit and clears the binary before the compiler is started,
and so from files that differ in these two only (`Config.DifferInScratch`) it
comes to the same answer and leaves the same files. In one case nothing is
reset: when there is a directory at the path of the unit. Then nothing is
compiled either, and the answer is still the same (`Config.compile_stale`). What
difference is left after the pass goes away with the scratch files.
-/

import WatInlay.Proofs.WriteBack

namespace WatInlay

/-! ### Differences in the scratch files -/

namespace Config

/-- The file systems differ at most in which regular files there are at the paths
of the scratch files, and in what these hold. Of permissions only one matters: a
unit that is already there keeps its own when it is written. -/
structure DifferInScratch (config : Config) (a b : FileSystem) : Prop where
  agree : FileSystem.AgreeBut
    (fun q => a.locate config.unit = .ok q ∨ a.locate config.binary = .ok q) a b
  executable : ∀ q, a.locate config.unit = .ok q → a.executable q = b.executable q

namespace DifferInScratch

variable {config : Config} {a b : FileSystem}

theorem refl (config : Config) (a : FileSystem) : config.DifferInScratch a a where
  agree := .refl _ a
  executable _ _ := rfl

theorem of_eq (h : a = b) : config.DifferInScratch a b :=
  h ▸ .refl config a

/-- Where the unit has no place the binary has none, and there is no difference. -/
theorem eq_of_locate_eq_error (h : config.DifferInScratch a b) {e : IoFault}
    (hunit : a.locate config.unit = .error e) : a = b := by
  refine h.agree.eq fun q hq => ?_
  obtain ⟨q', hq'⟩ : ∃ q', a.locate config.unit = .ok q' := by
    rcases hq with hq | hq
    · exact ⟨q, hq⟩
    · exact config.exists_locate_unit hq
  rw [hunit] at hq'
  cases hq'

/-- Writing the binary makes such a difference. -/
theorem of_write {contents : Bytes} (h : a.write config.binary contents = .ok b) :
    config.DifferInScratch a b where
  agree := (FileSystem.agreeBut_of_write h).mono fun _ => .inr
  executable q hq := by
    obtain ⟨place, hplace, hfolder, rfl⟩ := FileSystem.write_eq_ok_iff.mp h
    have hne : place ≠ q := by
      rintro rfl
      exact config.unit_apart_binary a place hq (FileSystem.locate_of_locateForWriting hplace)
    unfold FileSystem.executable
    rw [FileSystem.node?_set (FileSystem.ne_nil_of_node?_ne_folder hfolder), if_neg hne]

end DifferInScratch

end Config

/-! ### Results -/

/-- The answers are the same and the files that are left; what was done for them
may differ. -/
def Session.SameResult {α : Type} (x y : α × Session) : Prop :=
  x.1 = y.1 ∧ x.2.files = y.2.files

variable {launcher : Launcher} {config : Config} {d : Dialect} {path : Path} {s t : Session}

namespace Config

/-- The compiler answers according to the files alone. -/
theorem answer_sameResult (h : s.files = t.files) (options : List Text) :
    Session.SameResult (config.answer launcher options s) (config.answer launcher options t) := by
  unfold answer
  rw [Session.launch_eq, Session.launch_eq, h]
  cases launcher config.compiler (config.unit :: config.compilerOptions options) t.files with
  | error e => exact ⟨rfl, rfl⟩
  | ok started =>
    simp only [Except.map, Session.after]
    split
    · split <;> exact ⟨rfl, rfl⟩
    · exact ⟨rfl, rfl⟩

/-- Whatever there is at the paths of the scratch files, a block is compiled to
the same answer, and the same files are left. Only where the unit is a directory
everything is left as it was, the binary too, and nothing is compiled. -/
theorem compile_stale (launcher : Launcher) (h : config.DifferInScratch s.files t.files)
    (body : Text) (options : List Text) :
    if s.files.find? config.unit = some .folder then
      config.compile launcher s body options =
          (.error (.ioAt config.unit (.system .isDirectory)), s) ∧
        config.compile launcher t body options =
          (.error (.ioAt config.unit (.system .isDirectory)), t)
    else
      Session.SameResult (config.compile launcher s body options)
        (config.compile launcher t body options) := by
  have hunit := config.unslashed?_unit
  split
  · rename_i hfolder
    have hwrite := FileSystem.write_of_find?_eq_folder hunit hfolder body.bytes
    have hwrite' := FileSystem.write_of_find?_eq_folder hunit
      (h.agree.find?_eq_folder_iff.mp hfolder) body.bytes
    rw [← Refusals.write_never] at hwrite hwrite'
    exact ⟨compile_of_write_eq_error hwrite options, compile_of_write_eq_error hwrite' options⟩
  · rename_i hfolder
    cases hplace : s.files.locate config.unit with
    | error e =>
      -- A unit that has no place leaves none for the binary either.
      have hfiles := h.eq_of_locate_eq_error hplace
      have hwrite := FileSystem.write_of_locate_eq_error hunit hplace body.bytes
      rw [← Refusals.write_never] at hwrite
      rw [compile_of_write_eq_error hwrite, compile_of_write_eq_error (hfiles ▸ hwrite)]
      exact ⟨rfl, hfiles⟩
    | ok place =>
      obtain ⟨a, b, hwrite, hwrite', hagree⟩ := h.agree.write hunit hplace hfolder
        (h.executable place hplace) body.bytes
      -- From here on only the binary differs.
      have hbinary : FileSystem.AgreeBut (a.locate config.binary = .ok ·) a b :=
        hagree.mono fun _ => (FileSystem.agreeBut_of_write hwrite).locate_eq_ok_iff.mp
      rw [← Refusals.write_never] at hwrite hwrite'
      rcases Session.clear_cases (s := s.after (.wrote config.unit body.bytes) a)
          (t := t.after (.wrote config.unit body.bytes) b) hbinary with
        ⟨e, hclear, hclear', hfiles⟩ | ⟨s', t', hclear, hclear', hfiles⟩
      · rw [compile_of_clear_eq_error hwrite hclear, compile_of_clear_eq_error hwrite' hclear']
        exact ⟨rfl, hfiles⟩
      · rw [compile_of_clear_eq_ok hwrite hclear, compile_of_clear_eq_ok hwrite' hclear']
        exact answer_sameResult hfiles options

theorem compile_answer_eq (h : config.DifferInScratch s.files t.files) (body : Text)
    (options : List Text) :
    (config.compile launcher s body options).1 = (config.compile launcher t body options).1 := by
  have hcompile := compile_stale launcher h body options
  split at hcompile
  · rw [hcompile.1, hcompile.2]
  · exact hcompile.1

/-- A compiler that answers has left the same files. -/
theorem compile_files_eq (h : config.DifferInScratch s.files t.files) {body : Text}
    {options : List Text} {outcome : Outcome}
    (hok : (config.compile launcher s body options).1 = .ok outcome) :
    (config.compile launcher s body options).2.files =
      (config.compile launcher t body options).2.files := by
  have hcompile := compile_stale launcher h body options
  split at hcompile
  · rw [hcompile.1] at hok
    cases hok
  · exact hcompile.2

/-- From the same files the same comes, whatever was done before. -/
theorem compile_sameResult (h : s.files = t.files) (body : Text) (options : List Text) :
    Session.SameResult (config.compile launcher s body options)
      (config.compile launcher t body options) := by
  have hsame : config.DifferInScratch s.files t.files := .of_eq h
  have hcompile := compile_stale launcher hsame body options
  split at hcompile
  · rw [hcompile.1, hcompile.2]
    exact ⟨rfl, h⟩
  · exact hcompile

/-- The configured compiler answers alike as long as only the scratch files
differ. -/
theorem alike_differInScratch (config : Config) (launcher : Launcher) :
    (config.toCompiler launcher).Alike (config.toCompiler launcher)
      fun s t => config.DifferInScratch s.files t.files where
  unitName := rfl
  answer h body options := compile_answer_eq h body options
  next {s t} h body options := by
    have hcompile := compile_stale launcher h body options
    simp only [toCompiler]
    split at hcompile
    · rw [hcompile.1, hcompile.2]
      exact h
    · exact .of_eq hcompile.2

/-- In sessions with the same files it answers alike and leaves the same files. -/
theorem alike_files (config : Config) (launcher : Launcher) :
    (config.toCompiler launcher).Alike (config.toCompiler launcher)
      fun s t => s.files = t.files where
  unitName := rfl
  answer h body options := (compile_sameResult h body options).1
  next h body options := (compile_sameResult h body options).2

/-- Without the scratch files there is no difference left. -/
theorem cleanUp_files_eq (h : config.DifferInScratch s.files t.files) :
    (config.cleanUp s).files = (config.cleanUp t).files := by
  have hunit := Session.agreeBut_discard_discard h.agree
  have hbinary : FileSystem.AgreeBut
      (fun q => (s.discard config.unit).files.locate config.binary = .ok q ∨ False)
      (s.discard config.unit).files (t.discard config.unit).files :=
    hunit.mono fun _ hq => .inl ((Session.agreeBut_discard s config.unit).locate_eq_ok_iff.mp hq)
  exact (Session.agreeBut_discard_discard hbinary).eq fun _ => id

end Config

/-! ### Runs -/

/-- What is written back and what the formatter makes of it depends on the files
alone. -/
theorem Dialect.finalize_sameResult (launcher : Launcher) (hd : Dialect.ofPath path = .ok d)
    (h : s.files = t.files) (text : Text) (modified : Bool) :
    Session.SameResult (d.finalize launcher s path text modified)
      (d.finalize launcher t path text modified) := by
  cases modified with
  | false => exact ⟨rfl, h⟩
  | true =>
    obtain ⟨program, arguments, hformatter⟩ := exists_formatter hd
    cases hwrite : Refusals.never.write s.files path text.bytes with
    | error e =>
      rw [finalize_of_write_eq_error hwrite, finalize_of_write_eq_error (h ▸ hwrite)]
      exact ⟨rfl, h⟩
    | ok written =>
      rw [finalize_of_write_eq_ok hformatter hwrite,
        finalize_of_write_eq_ok hformatter (h ▸ hwrite)]
      exact ⟨rfl, rfl⟩

/-- Runs over files that differ in the scratch files only come out the same and
leave the same files. -/
theorem run_stale (launcher : Launcher) {a b : FileSystem} (hd : Dialect.ofPath path = .ok d)
    (hexists : a.exists? path = true) (h : config.DifferInScratch a b) :
    let r := run launcher config (some path) a
    let r' := run launcher config (some path) b
    r.outcome = r'.outcome ∧ r.printed = r'.printed ∧ r.session.files = r'.session.files := by
  have hread : a.readText path = b.readText path := by
    refine h.agree.readText_eq hexists fun q hq hscratch => ?_
    rcases hscratch with hunit | hbinary
    · exact Dialect.apart_of_isScratch hd (.inl rfl) a q hq hunit
    · exact Dialect.apart_of_isScratch hd (.inr rfl) a q hq hbinary
  rw [Run.run_eq_onFile hd, Run.run_eq_onFile hd]
  cases hsource : a.readText path with
  | error e =>
    rw [Run.onFile_of_readText_eq_error hsource,
      Run.onFile_of_readText_eq_error (hread ▸ hsource)]
    exact ⟨rfl, rfl, Config.cleanUp_files_eq h⟩
  | ok source =>
    have halike := config.alike_differInScratch launcher
    have hpass := halike.process path d source (s := { files := a }) (t := { files := b }) h
    cases hok : (process path d (config.toCompiler launcher) source { files := a }).outcome with
    | error e =>
      rw [Run.onFile_of_outcome_eq_error hsource hok,
        Run.onFile_of_outcome_eq_error (hread ▸ hsource) (hpass.outcome ▸ hok)]
      exact ⟨rfl, hpass.printed, Config.cleanUp_files_eq hpass.state⟩
    | ok p =>
      rw [Run.onFile_of_outcome_eq_ok hsource hok,
        Run.onFile_of_outcome_eq_ok (hread ▸ hsource) (hpass.outcome ▸ hok)]
      cases hmodified : p.modified with
      | false => exact ⟨rfl, hpass.printed, Config.cleanUp_files_eq hpass.state⟩
      | true =>
        -- The formatter sees the scratch files, but only after some block was compiled.
        have hfiles := halike.process_of_modified (t := { files := b })
          (config.alike_files launcher) (fun _ _ _ => Config.compile_files_eq h) h hok hmodified
        have hfinal := Dialect.finalize_sameResult launcher hd hfiles p.text true
        exact ⟨congrArg (Except.map _) hfinal.1, hpass.printed,
          Config.cleanUp_files_eq (.of_eq hfinal.2)⟩

/-! ### Noninterference -/

/-- Stale scratch files never influence a run: the compiler is asked the same and
answers the same for every block, and result, messages and final files are the
same. Nor do they influence a single compilation, which answers the same and
leaves the same files. The exception is a directory at the path of the unit: then
either compilation fails alike before the compiler is started, and a stale binary
stays. -/
theorem scratch_noninterference (launcher : Launcher) (config : Config) :
    (∀ {path d a b}, Dialect.ofPath path = .ok d → a.exists? path = true →
      config.DifferInScratch a b →
        let r := run launcher config (some path) a
        let r' := run launcher config (some path) b
        r.outcome = r'.outcome ∧ r.printed = r'.printed ∧ r.session.files = r'.session.files ∧
          ∀ source,
            (process path d (config.toCompiler launcher) source { files := a }).exchanges =
              (process path d (config.toCompiler launcher) source { files := b }).exchanges) ∧
      ∀ {s t : Session} (body options), config.DifferInScratch s.files t.files →
        let x := config.compile launcher s body options
        let y := config.compile launcher t body options
        x.1 = y.1 ∧
          if s.files.find? config.unit = some .folder then
            x = (.error (.ioAt config.unit (.system .isDirectory)), s) ∧
              y = (.error (.ioAt config.unit (.system .isDirectory)), t)
          else x.2.files = y.2.files := by
  constructor
  · intro path d a b hd hexists h
    obtain ⟨houtcome, hprinted, hfiles⟩ := run_stale launcher hd hexists h
    refine ⟨houtcome, hprinted, hfiles, fun source => ?_⟩
    exact ((config.alike_differInScratch launcher).process path d source h).exchanges
  · intro s t body options h
    refine ⟨Config.compile_answer_eq h body options, ?_⟩
    have hcompile := Config.compile_stale launcher h body options
    split at hcompile
    · rename_i hfolder
      rw [if_pos hfolder]
      exact hcompile
    · rename_i hfolder
      rw [if_neg hfolder]
      exact hcompile.2

/-- The files of the sample with a binary from before. -/
def staleFiles : FileSystem :=
  sampleFiles.set ["wat2wasm4tests.wasm".toList] (.file [1] false)

/-- A block is compiled to the new module, and the old one is gone. -/
theorem scratch_noninterference_sample :
    staleFiles.read Config.standard.binary = .ok [1] ∧
      (run sampleLauncher .standard (some "s.rs".toList) sampleFiles).outcome =
        (run sampleLauncher .standard (some "s.rs".toList) staleFiles).outcome ∧
      (run sampleLauncher .standard (some "s.rs".toList) sampleFiles).session.files =
        (run sampleLauncher .standard (some "s.rs".toList) staleFiles).session.files ∧
      (Config.standard.compile sampleLauncher { files := sampleFiles } "a".toList []).1 =
        (Config.standard.compile sampleLauncher { files := staleFiles } "a".toList []).1 ∧
      (Config.standard.compile sampleLauncher { files := sampleFiles } "a".toList []).2.files =
        (Config.standard.compile sampleLauncher { files := staleFiles } "a".toList []).2.files := by
  have hwrite : sampleFiles.write Config.standard.binary [1] = .ok staleFiles := rfl
  have hdiffer : Config.standard.DifferInScratch sampleFiles staleFiles := .of_write hwrite
  have hfolder : sampleFiles.find? Config.standard.unit ≠ some .folder := by decide
  have hd : Dialect.ofPath "s.rs".toList = .ok .rust := rfl
  have hexists : sampleFiles.exists? "s.rs".toList = true := by decide
  obtain ⟨hrun, hcompile⟩ := scratch_noninterference sampleLauncher .standard
  obtain ⟨houtcome, -, hfiles, -⟩ := hrun hd hexists hdiffer
  obtain ⟨hanswer, hleft⟩ := hcompile (s := { files := sampleFiles })
    (t := { files := staleFiles }) "a".toList [] hdiffer
  rw [if_neg hfolder] at hleft
  exact ⟨FileSystem.read_of_write hwrite, houtcome, hfiles, hanswer, hleft⟩

/-- A directory where the unit would be written. -/
def blockedFiles : FileSystem :=
  FileSystem.set {} ["wat2wasm4tests.wat".toList] .folder

/-- The directory, and a binary from before. -/
def blockedStaleFiles : FileSystem :=
  blockedFiles.set ["wat2wasm4tests.wasm".toList] (.file [1] false)

/-- A compilation does not always leave the same files: where the unit is a
directory, a stale binary stays. -/
theorem compile_keeps_stale_binary :
    ¬ ∀ (launcher : Launcher) (config : Config) (s t : Session) (body : Text)
        (options : List Text), config.DifferInScratch s.files t.files →
          (config.compile launcher s body options).1 =
              (config.compile launcher t body options).1 ∧
            (config.compile launcher s body options).2.files =
              (config.compile launcher t body options).2.files := by
  intro h
  have hwrite : blockedFiles.write Config.standard.binary [1] = .ok blockedStaleFiles := rfl
  have hdiffer : Config.standard.DifferInScratch blockedFiles blockedStaleFiles := .of_write hwrite
  have hfolder : blockedFiles.find? Config.standard.unit = some .folder := by decide
  have hcompile := Config.compile_stale sampleLauncher (s := { files := blockedFiles })
    (t := { files := blockedStaleFiles }) hdiffer "a".toList []
  rw [if_pos hfolder] at hcompile
  have hsame := (h sampleLauncher .standard { files := blockedFiles }
    { files := blockedStaleFiles } "a".toList [] hdiffer).2
  rw [hcompile.1, hcompile.2] at hsame
  have hread : blockedFiles.exists? Config.standard.binary ≠
      blockedStaleFiles.exists? Config.standard.binary := by decide
  exact hread (congrArg (·.exists? Config.standard.binary) hsame)

end WatInlay
