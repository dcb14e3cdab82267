/-
What a run does, one action at a time.

Until it writes the source back, and again when it cleans up, a run does three
things only: it writes the scratch unit, removes a scratch file, or starts the
compiler on the scratch unit (`Session.Step`). Each of its functions, however it
ends, is a row of such steps (`Session.Steps`), and so is a pass, by induction
over its questions to the compiler. What one step keeps is thereby kept by all
of them: of the files, and of the record of what was done.
-/

import Mathlib.Logic.Relation
import WatInlay.Proofs.Agreement
import WatInlay.Proofs.Alike
import WatInlay.Run

namespace WatInlay

/-! ### Programs -/

/-- The files after the program was started, as they were if it could not be. -/
def Launcher.leftBy (launcher : Launcher) (program : Text) (arguments : List Text)
    (files : FileSystem) : FileSystem :=
  match launcher program arguments files with
  | .error _ => files
  | .ok (_, files') => files'

theorem Session.launch_eq (launcher : Launcher) (s : Session) (program : Text)
    (arguments : List Text) :
    s.launch launcher program arguments =
      ((launcher program arguments s.files).map Prod.fst,
        s.after (.launched program arguments) (launcher.leftBy program arguments s.files)) := by
  unfold launch Launcher.leftBy
  cases launcher program arguments s.files <;> rfl

/-! ### Compiling -/

namespace Config

variable {config : Config} {launcher : Launcher} {refusals : Refusals} {s : Session}

/-- The answer of the compiler once the scratch files are in place. -/
def answer (config : Config) (launcher : Launcher) (options : List Text) (s : Session) :
    Except ToolError Outcome × Session :=
  match s.launch launcher config.compiler (config.unit :: config.compilerOptions options) with
  | (.error e, s) => (.error (.compilerLaunch config.compiler e.message), s)
  | (.ok exit, s) =>
    if exit.success then
      match s.files.read config.binary with
      | .error e => (.error (.ioAt config.binary e), s)
      | .ok module => (.ok (.success module), s)
    else (.ok (.failure (Text.ofBytesLossy exit.errors)), s)

theorem compile_of_write_eq_error {body : Text} {e : IoFault}
    (h : refusals.write s.files config.unit body.bytes = .error e) (options : List Text) :
    config.compile launcher s body options refusals = (.error (.ioAt config.unit e), s) := by
  simp only [compile, Session.write, h]

theorem compile_of_clear_eq_error {body : Text} {files : FileSystem} {e : IoFault}
    (hwrite : refusals.write s.files config.unit body.bytes = .ok files)
    (hclear : (s.after (.wrote config.unit body.bytes) files).clear config.binary = .error e)
    (options : List Text) :
    config.compile launcher s body options refusals =
      (.error (.ioAt config.binary e), s.after (.wrote config.unit body.bytes) files) := by
  simp only [compile, Session.write, hwrite, hclear]

theorem compile_of_clear_eq_ok {body : Text} {files : FileSystem} {s' : Session}
    (hwrite : refusals.write s.files config.unit body.bytes = .ok files)
    (hclear : (s.after (.wrote config.unit body.bytes) files).clear config.binary = .ok s')
    (options : List Text) :
    config.compile launcher s body options refusals = config.answer launcher options s' := by
  simp only [compile, Session.write, hwrite, hclear]
  rfl

/-- However the compiler answers, all that was done is that it was started. -/
theorem answer_session (options : List Text) :
    (config.answer launcher options s).2 =
      s.after (.launched config.compiler (config.unit :: config.compilerOptions options))
        (launcher.leftBy config.compiler (config.unit :: config.compilerOptions options)
          s.files) := by
  unfold answer
  rw [Session.launch_eq]
  cases launcher config.compiler (config.unit :: config.compilerOptions options) s.files with
  | error e => rfl
  | ok result =>
    simp only [Except.map]
    split
    · split <;> rfl
    · rfl

end Config

/-! ### Actions -/

namespace Action

/-- The scratch unit was written, a scratch file was removed, or the compiler was
started on the scratch unit. -/
inductive OnScratch (config : Config) : Action → Prop where
  | wrote {contents} : OnScratch config (.wrote config.unit contents)
  | removed {p} : config.IsScratch p → OnScratch config (.removed p)
  | compiled {options} : OnScratch config (.launched config.compiler (config.unit :: options))

/-- What an action makes of the files. A program that was started is one of those
in `L`, and leaves them as it does. -/
inductive Does (L : Launcher → Prop) : Action → FileSystem → FileSystem → Prop where
  | wrote {path contents a b} : a.write path contents = .ok b →
      Does L (.wrote path contents) a b
  | removed {path a b} : a.remove path = .ok b → Does L (.removed path) a b
  | launched {launcher program arguments a} : L launcher →
      Does L (.launched program arguments) a (launcher.leftBy program arguments a)

/-- The path of the file that is written or removed. -/
def path? : Action → Option Path
  | wrote path _ | removed path => some path
  | launched _ _ => none

variable {config : Config} {L M : Launcher → Prop} {a : Action} {files files' : FileSystem}

theorem Does.mono (hsub : ∀ launcher, L launcher → M launcher) (h : a.Does L files files') :
    a.Does M files files' := by
  cases h with
  | wrote hwrite => exact .wrote hwrite
  | removed hremove => exact .removed hremove
  | launched hlauncher => exact .launched (hsub _ hlauncher)

/-- Writing or removing a file changes nothing but that file. -/
theorem Does.agreeBut {path : Path} (h : a.Does L files files') (hpath : a.path? = some path) :
    FileSystem.AgreeBut (files.locate path = .ok ·) files files' := by
  cases h with
  | wrote hwrite =>
    cases hpath
    exact FileSystem.agreeBut_of_write hwrite
  | removed hremove =>
    cases hpath
    exact FileSystem.agreeBut_of_remove hremove
  | launched _ => cases hpath

/-- What is done to the scratch files is done to one of them, or by the compiler. -/
theorem OnScratch.path?_or_compiled (h : a.OnScratch config) :
    (∃ p, config.IsScratch p ∧ a.path? = some p) ∨
      ∃ options, a = .launched config.compiler (config.unit :: options) := by
  cases h with
  | wrote => exact .inl ⟨_, .inl rfl, rfl⟩
  | removed hp => exact .inl ⟨_, hp, rfl⟩
  | compiled => exact .inr ⟨_, rfl⟩

/-- Only scratch files are written and removed among the scratch files. -/
theorem OnScratch.isScratch {p : Path} (h : a.OnScratch config) (hpath : a.path? = some p) :
    config.IsScratch p := by
  rcases h.path?_or_compiled with ⟨p', hp', hpath'⟩ | ⟨options, rfl⟩
  · cases hpath.symm.trans hpath'
    exact hp'
  · cases hpath

end Action

/-! ### Steps on the scratch files -/

namespace Session

/-- One more action on the scratch files, with the compilers in `L`. -/
inductive Step (config : Config) (L : Launcher → Prop) (s : Session) : Session → Prop where
  | after {a files} : a.OnScratch config → a.Does L s.files files →
      Step config L s (s.after a files)

/-- Any number of actions on the scratch files. -/
abbrev Steps (config : Config) (L : Launcher → Prop) : Session → Session → Prop :=
  Relation.ReflTransGen (Step config L)

variable {config : Config} {L : Launcher → Prop} {s s' : Session}

theorem Step.write {contents : Bytes} {files : FileSystem}
    (h : s.files.write config.unit contents = .ok files) :
    Step config L s (s.after (.wrote config.unit contents) files) :=
  .after .wrote (.wrote h)

theorem Step.answer {launcher : Launcher} (hlauncher : L launcher) (options : List Text) :
    Step config L s (config.answer launcher options s).2 := by
  rw [Config.answer_session]
  exact .after .compiled (.launched hlauncher)

namespace Steps

theorem clear {p : Path} (hp : config.IsScratch p) (h : s.clear p = .ok s') :
    Steps config L s s' := by
  rcases clear_eq_ok_iff.mp h with ⟨-, rfl⟩ | ⟨-, files, hfiles, rfl⟩
  · exact .refl
  · exact .single (.after (.removed hp) (.removed hfiles))

theorem discard {p : Path} (hp : config.IsScratch p) : Steps config L s (s.discard p) := by
  unfold Session.discard
  cases h : s.clear p with
  | error e => exact .refl
  | ok s' => exact clear hp h

/-- Compiling a block is all done on the scratch files, however it ends. -/
theorem compile {launcher : Launcher} (hlauncher : L launcher) (s : Session) (body : Text)
    (options : List Text) (refusals : Refusals) :
    Steps config L s (config.compile launcher s body options refusals).2 := by
  cases hwrite : refusals.write s.files config.unit body.bytes with
  | error e =>
    rw [Config.compile_of_write_eq_error hwrite]
  | ok files =>
    have hwritten : Steps config L s _ := .single (.write (Refusals.write_eq_ok hwrite))
    cases hclear : (s.after (.wrote config.unit body.bytes) files).clear config.binary with
    | error e =>
      rw [Config.compile_of_clear_eq_error hwrite hclear]
      exact hwritten
    | ok s' =>
      rw [Config.compile_of_clear_eq_ok hwrite hclear]
      exact (hwritten.trans (clear (.inr rfl) hclear)).tail (.answer hlauncher options)

/-- So is a whole pass whose questions are put to the compilers in `L`. -/
theorem process {compiler : Compiler Session} {refusals : Refusals}
    (hcompile : ∀ s body options, ∃ launcher, L launcher ∧
      compiler.compile s body options = config.compile launcher s body options refusals)
    (path : Path) (d : Dialect) (s : Session) (source : Text) :
    Steps config L s (WatInlay.process path d compiler source s).state := by
  refine process_invariant (fun s' hs body options => ?_) .refl source
  obtain ⟨launcher, hlauncher, heq⟩ := hcompile s' body options
  rw [heq]
  exact hs.trans (compile hlauncher s' body options refusals)

theorem cleanUp (s : Session) : Steps config L s (config.cleanUp s) :=
  (discard (.inl rfl)).trans (discard (.inr rfl))

/-- What holds of all that is done to the scratch files holds of all that was
done, if it did before. -/
theorem forall_actions {P : Action → Prop} (hP : ∀ a, a.OnScratch config → P a)
    (h : Steps config L s s') (hs : ∀ a ∈ s.actions, P a) : ∀ a ∈ s'.actions, P a := by
  induction h with
  | refl => exact hs
  | tail _ hstep ih =>
    obtain ⟨hscratch, -⟩ := hstep
    intro a ha
    rcases List.mem_append.mp ha with hold | hnew
    · exact ih a hold
    · rw [List.mem_singleton.mp hnew]
      exact hP _ hscratch

end Steps

end Session

end WatInlay
