/-
All or nothing.

What a run does to the source file it does at its end, in one go, or not at all.
Before and after that it writes, compiles and removes the scratch files only
(`Session.OnlyScratch`), and these are never the source file, whatever their
directory and name. Every step of a run keeps this, and so does the pass, which
is nothing but such steps. The compiler itself is any program that spares the
source file; the formatter is any program at all.
-/

import WatInlay.Proofs.Steps
import WatInlay.Proofs.Trace

namespace WatInlay

/-! ### Programs -/

namespace Launcher

/-- The program can be started and ends well. -/
def succeeds (launcher : Launcher) (program : Text) (arguments : List Text) (files : FileSystem) :
    Bool :=
  match launcher program arguments files with
  | .error _ => false
  | .ok (exit, _) => exit.success

/-- Whatever its options are, the compiler leaves the file at `path` as it is. -/
def Spares (launcher : Launcher) (config : Config) (path : Path) : Prop :=
  ∀ options files exit files',
    launcher config.compiler (config.unit :: options) files = .ok (exit, files') →
      files'.find? path = files.find? path

theorem Spares.find?_leftBy {launcher : Launcher} {config : Config} {path : Path}
    (h : launcher.Spares config path) (options : List Text) (files : FileSystem) :
    (launcher.leftBy config.compiler (config.unit :: options) files).find? path =
      files.find? path := by
  unfold leftBy
  split
  · rfl
  · rename_i exit files' hlaunch
    exact h options files exit files' hlaunch

end Launcher

/-! ### Actions -/

namespace Action

/-- The file at `path` was written or removed, or the formatter was started on
it. -/
def Concerns (d : Dialect) (path : Path) : Action → Bool
  | .wrote p _ => p = path
  | .removed p => p = path
  | .launched program arguments => program :: arguments = d.formatter ++ [path]

variable {config : Config} {d : Dialect} {path : Path}

theorem concerns_wrote (d : Dialect) (path : Path) (contents : Bytes) :
    (wrote path contents).Concerns d path = true :=
  decide_eq_true rfl

theorem concerns_launched {program : Text} {arguments : List Text}
    (h : d.formatter = program :: arguments) (path : Path) :
    (launched program (arguments ++ [path])).Concerns d path = true := by
  refine decide_eq_true ?_
  rw [h, List.cons_append]

/-- What is done to the scratch files never concerns a source file. A compiler
that goes by the name of the formatter is started on another file. -/
theorem OnScratch.not_concerns (hd : Dialect.ofPath path = .ok d) {a : Action}
    (h : a.OnScratch config) : a.Concerns d path = false := by
  have hunit : config.unit ≠ path := Dialect.ne_of_isScratch hd (.inl rfl)
  cases h with
  | wrote => exact decide_eq_false hunit
  | removed hp => exact decide_eq_false (Dialect.ne_of_isScratch hd hp)
  | compiled =>
    refine decide_eq_false ?_
    have hmem := (Dialect.exists_name?_of_ofPath hd).1
    simp only [Dialect.all, List.mem_cons, List.not_mem_nil, or_false] at hmem
    rcases hmem with rfl | rfl
    · intro h
      obtain ⟨v, hv⟩ := config.exists_name?_unit
      simp only [Dialect.cpp, List.cons_append, List.cons.injEq] at h
      rw [h.2.1] at hv
      have hlast := Path.getLast?_eq_of_append_eq (v := []) (by decide) (by decide)
        (Option.some.inj hv)
      exact absurd hlast (by decide)
    · intro h
      simp only [Dialect.rust, List.cons_append, List.nil_append, List.cons.injEq] at h
      exact hunit h.2.1

end Action

/-! ### Steps on the scratch files -/

namespace Session

/-- On the way from one session to the other only the scratch files were dealt
with, and what is at `path` is as it was. -/
structure OnlyScratch (config : Config) (path : Path) (s s' : Session) : Prop where
  source : s'.files.find? path = s.files.find? path
  actions : ∃ done, s'.actions = s.actions ++ done ∧ ∀ a ∈ done, a.OnScratch config

namespace OnlyScratch

variable {config : Config} {L : Launcher → Prop} {launcher : Launcher} {path : Path} {d : Dialect}
  {s s' s'' : Session}

theorem refl (s : Session) : OnlyScratch config path s s where
  source := rfl
  actions := ⟨[], (List.append_nil _).symm, by simp⟩

theorem trans (h : OnlyScratch config path s s') (h' : OnlyScratch config path s' s'') :
    OnlyScratch config path s s'' where
  source := h'.source.trans h.source
  actions := by
    obtain ⟨done, hdone, hall⟩ := h.actions
    obtain ⟨done', hdone', hall'⟩ := h'.actions
    refine ⟨done ++ done', by rw [hdone', hdone, List.append_assoc], fun a ha => ?_⟩
    rcases List.mem_append.mp ha with ha | ha
    · exact hall a ha
    · exact hall' a ha

/-- A step leaves the source file alone, as the compiler spares it and no scratch
file is ever the source file. -/
theorem of_step (hd : Dialect.ofPath path = .ok d)
    (hspares : ∀ launcher, L launcher → launcher.Spares config path)
    (h : Step config L s s') : OnlyScratch config path s s' := by
  obtain ⟨ha, hdoes⟩ := h
  refine ⟨?_, ⟨[_], rfl, by simpa using ha⟩⟩
  rcases ha.path?_or_compiled with ⟨p, hp, hpath⟩ | ⟨options, rfl⟩
  · have hapart := Dialect.apart_of_isScratch hd hp
    exact ((hdoes.agreeBut hpath).find?_eq (hapart _)).symm
  · cases hdoes with
    | launched hlauncher => exact (hspares _ hlauncher).find?_leftBy options _

theorem of_steps (hd : Dialect.ofPath path = .ok d)
    (hspares : ∀ launcher, L launcher → launcher.Spares config path)
    (h : Steps config L s s') : OnlyScratch config path s s' := by
  induction h with
  | refl => exact refl s
  | tail _ hstep ih => exact ih.trans (of_step hd hspares hstep)

/-- A pass with the configured compiler keeps to the scratch files. -/
theorem process (hd : Dialect.ofPath path = .ok d) (hspares : launcher.Spares config path)
    (refusals : Refusals) (s : Session) (source : Text) :
    OnlyScratch config path s
      (WatInlay.process path d (config.toCompiler launcher refusals) source s).state := by
  have hsteps : Steps config (· = launcher) s
      (WatInlay.process path d (config.toCompiler launcher refusals) source s).state :=
    .process (L := (· = launcher)) (fun _ _ _ => ⟨launcher, rfl, rfl⟩) path d s source
  refine of_steps hd ?_ hsteps
  rintro _ rfl
  exact hspares

theorem cleanUp (hd : Dialect.ofPath path = .ok d) (s : Session) :
    OnlyScratch config path s (config.cleanUp s) := by
  have hsteps : Steps config (fun _ => False) s (config.cleanUp s) := .cleanUp s
  refine of_steps hd ?_ hsteps
  rintro _ ⟨⟩

end OnlyScratch

/-! ### What was done to the source file -/

/-- What was done to the source file at `path`, or by its formatter, is what is
listed in `own`; all else was done to the scratch files. -/
structure Did (config : Config) (d : Dialect) (path : Path) (s : Session) (own : List Action) :
    Prop where
  own : s.actions.filter (·.Concerns d path) = own
  others : ∀ a ∈ s.actions, a.Concerns d path = false → a.OnScratch config

namespace Did

variable {config : Config} {path : Path} {d : Dialect} {s s' : Session} {own : List Action}

theorem start (files : FileSystem) : Did config d path { files } [] where
  own := rfl
  others := by simp

theorem after (h : Did config d path s own) {a : Action} (ha : a.Concerns d path = true)
    (files : FileSystem) : Did config d path (s.after a files) (own ++ [a]) where
  own := by rw [Session.after, List.filter_append, h.own, List.filter_cons_of_pos ha,
    List.filter_nil]
  others := by
    intro a' ha' hother
    rcases List.mem_append.mp ha' with hold | hnew
    · exact h.others a' hold hother
    · rw [List.mem_singleton.mp hnew, ha] at hother
      cases hother

/-- Steps on the scratch files do nothing to the source file. -/
theorem onlyScratch (hd : Dialect.ofPath path = .ok d) (h : Did config d path s own)
    (hsteps : OnlyScratch config path s s') : Did config d path s' own := by
  obtain ⟨done, hdone, hall⟩ := hsteps.actions
  have hnone : done.filter (·.Concerns d path) = [] := by
    refine List.filter_eq_nil_iff.mpr fun a ha => ?_
    rw [(hall a ha).not_concerns hd]
    exact Bool.false_ne_true
  constructor
  · rw [hdone, List.filter_append, hnone, List.append_nil, h.own]
  · intro a ha hother
    rw [hdone] at ha
    rcases List.mem_append.mp ha with hold | hnew
    · exact h.others a hold hother
    · exact hall a hnew

end Did

end Session

/-! ### Writing back -/

namespace Dialect

variable {d : Dialect} {path : Path}

theorem exists_formatter (hd : ofPath path = .ok d) :
    ∃ program arguments, d.formatter = program :: arguments := by
  have hmem := (exists_name?_of_ofPath hd).1
  simp only [all, List.mem_cons, List.not_mem_nil, or_false] at hmem
  rcases hmem with rfl | rfl <;> exact ⟨_, _, rfl⟩

variable {launcher : Launcher} {refusals : Refusals} {s : Session} {text : Text}

/-- A text that cannot be written back changes nothing, and nothing is formatted. -/
theorem finalize_of_write_eq_error {e : IoFault}
    (h : refusals.write s.files path text.bytes = .error e) :
    d.finalize launcher s path text true refusals = (.error (.ioAt path e), s) := by
  simp only [finalize, Session.write, h, ↓reduceIte]

/-- A text is written back before the formatter is started, and that on what was
written. -/
theorem finalize_of_write_eq_ok {program : Text} {arguments : List Text} {written : FileSystem}
    (hformatter : d.formatter = program :: arguments)
    (h : refusals.write s.files path text.bytes = .ok written) :
    d.finalize launcher s path text true refusals =
      (.ok (launcher.succeeds program (arguments ++ [path]) written),
        (s.after (.wrote path text.bytes) written).after
          (.launched program (arguments ++ [path]))
          (launcher.leftBy program (arguments ++ [path]) written)) := by
  simp only [finalize, Session.write, h, ↓reduceIte, format, hformatter, Session.launch_eq,
    Launcher.succeeds]
  have hfiles : (s.after (.wrote path text.bytes) written).files = written := rfl
  rw [hfiles]
  cases launcher program (arguments ++ [path]) written <;> rfl

end Dialect

/-! ### Runs -/

namespace Run

/-- The run did nothing to the source file and did not start its formatter. -/
structure LeavesAlone (r : Run) (config : Config) (d : Dialect) (path : Path)
    (files : FileSystem) : Prop where
  source : r.session.files.find? path = files.find? path
  did : r.session.Did config d path []

/-- The run wrote `text` to the source file and then started the formatter on it,
each once. `formatted` says whether the formatter succeeded. -/
inductive WritesBack (r : Run) (launcher : Launcher) (config : Config) (d : Dialect) (path : Path)
    (files : FileSystem) (text : Text) (formatted : Bool) : Prop where
  | intro {start written : FileSystem} {program : Text} {arguments : List Text}
      (kept : start.find? path = files.find? path)
      (write : start.write path text.bytes = .ok written)
      (contents : written.read path = .ok text.bytes)
      (formatter : d.formatter = program :: arguments)
      (did : r.session.Did config d path
        [.wrote path text.bytes, .launched program (arguments ++ [path])])
      (success : formatted = launcher.succeeds program (arguments ++ [path]) written)
      (source : r.session.files.find? path =
        (launcher.leftBy program (arguments ++ [path]) written).find? path)

variable {launcher : Launcher} {refusals : Refusals} {config : Config} {d : Dialect} {path : Path}
  {files : FileSystem}

theorem leavesAlone_of_onlyScratch (hd : Dialect.ofPath path = .ok d) {r : Run}
    (h : Session.OnlyScratch config path { files } r.session) :
    r.LeavesAlone config d path files where
  source := h.source
  did := (Session.Did.start files).onlyScratch hd h

/-- A run writes back when the text is written after steps on the scratch files,
and the scratch files are cleaned up behind the formatter. -/
theorem writesBack_of_write (hd : Dialect.ofPath path = .ok d) {r : Run} {s : Session}
    {text : Text} {written : FileSystem} {program : Text} {arguments : List Text}
    (hformatter : d.formatter = program :: arguments)
    (hpass : Session.OnlyScratch config path { files } s)
    (hwrite : s.files.write path text.bytes = .ok written)
    (hsession : r.session = config.cleanUp
      ((s.after (.wrote path text.bytes) written).after
        (.launched program (arguments ++ [path]))
        (launcher.leftBy program (arguments ++ [path]) written))) :
    r.WritesBack launcher config d path files text
      (launcher.succeeds program (arguments ++ [path]) written) := by
  have hwrote := ((Session.Did.start files).onlyScratch hd hpass).after
    (Action.concerns_wrote d path text.bytes) written
  have hstarted := hwrote.after (Action.concerns_launched hformatter path)
    (launcher.leftBy program (arguments ++ [path]) written)
  refine .intro hpass.source hwrite (FileSystem.read_of_write hwrite) hformatter ?_ rfl ?_
  · rw [hsession]
    exact hstarted.onlyScratch hd (.cleanUp hd _)
  · rw [hsession]
    exact (Session.OnlyScratch.cleanUp hd _).source

/-- Whatever the run does at its end it does to the scratch files. -/
theorem run_eq_onFile (hd : Dialect.ofPath path = .ok d) :
    run launcher config (some path) files refusals =
      let r := onFile launcher d (config.toCompiler launcher refusals) path { files } refusals
      { r with session := config.cleanUp r.session } := by
  simp only [run, uncleaned, hd]

section

variable {compiler : Compiler Session} {s : Session} {source : Text}

theorem onFile_of_readText_eq_error {e : IoFault} (hread : s.files.readText path = .error e) :
    onFile launcher d compiler path s refusals = .failed (.ioAt path e) s := by
  simp only [onFile, hread]

theorem onFile_of_outcome_eq_error {e : ToolError} (hread : s.files.readText path = .ok source)
    (hok : (process path d compiler source s).outcome = .error e) :
    onFile launcher d compiler path s refusals =
      { outcome := .error e
        printed := (process path d compiler source s).printed
        session := (process path d compiler source s).state } := by
  simp only [onFile, hread, hok]

theorem onFile_of_outcome_eq_ok {p : Processed} (hread : s.files.readText path = .ok source)
    (hok : (process path d compiler source s).outcome = .ok p) :
    onFile launcher d compiler path s refusals =
      let finalized := d.finalize launcher (process path d compiler source s).state path p.text
        p.modified refusals
      { outcome := finalized.1.map fun formatted =>
          { path
            dialect := d.name
            modified := p.modified
            formatted
            counts := Counts.tally p.blocks
            blocks := p.blocks }
        printed := (process path d compiler source s).printed
        session := finalized.2 } := by
  simp only [onFile, hread, hok]

end

end Run

/-! ### A sample -/

/-- A source with one block. -/
def sampleBlock : Text :=
  "/* wat2wasm\na*/".toList

/-- The source in a file of its own. -/
def sampleFiles : FileSystem :=
  FileSystem.set {} ["s.rs".toList] (.file sampleBlock.bytes false)

/-- A compiler that writes one byte to the binary, and other programs that do
nothing. -/
def sampleLauncher : Launcher := fun program _ files =>
  if program = Config.standard.compiler then
    (files.write Config.standard.binary [0xAB]).map ({ success := true, errors := [] }, ·)
  else .ok ({ success := true, errors := [] }, files)

/-- The sample compiler writes the binary and does nothing else. -/
theorem write_of_sampleLauncher {options : List Text} {files files' : FileSystem} {exit : Exit}
    (h : sampleLauncher Config.standard.compiler options files = .ok (exit, files')) :
    files.write Config.standard.binary [0xAB] = .ok files' := by
  unfold sampleLauncher at h
  rw [if_pos rfl] at h
  cases hwrite : files.write Config.standard.binary [0xAB] with
  | error e =>
    rw [hwrite] at h
    cases h
  | ok written =>
    rw [hwrite] at h
    cases h
    rfl

theorem sampleLauncher_spares : sampleLauncher.Spares .standard "s.rs".toList := by
  intro options files exit files' h
  have hd : Dialect.ofPath "s.rs".toList = .ok .rust := rfl
  have hbinary : Config.standard.IsScratch Config.standard.binary := .inr rfl
  exact ((FileSystem.agreeBut_of_write (write_of_sampleLauncher h)).find?_eq
    (Dialect.apart_of_isScratch hd hbinary _)).symm

theorem process_sampleFiles (refusals : Refusals)
    (h : ∀ contents files, refusals Config.standard.unit contents files = none) :
    ∃ p, (process "s.rs".toList .rust (Config.standard.toCompiler sampleLauncher refusals)
        sampleBlock { files := sampleFiles }).outcome = .ok p ∧
      p.text = sampleBlock ++ "let wasm = hex::decode(\"ab\").unwrap();".toList ∧
      p.modified = true := by
  let k : Block.Cut := ⟨[], [], "a".toList, []⟩
  have hcut : Block.cut? sampleBlock = some k := by cbv
  have hwrite : refusals.write sampleFiles Config.standard.unit (Text.bytes k.body) =
      sampleFiles.write Config.standard.unit (Text.bytes k.body) := by
    simp only [Refusals.write, h]
  have hanswer : ((Config.standard.toCompiler sampleLauncher refusals).compile
      { files := sampleFiles } k.body k.options).1 = .ok (.success [0xAB]) := by
    have hoptions : k.options = [] := by cbv
    rw [hoptions]
    simp only [Config.toCompiler, Config.compile, Session.write, hwrite]
    rfl
  have hamended : Dialect.rust.literal.amend (Hex.encode [0xAB]) k.rest =
      ⟨"let wasm = hex::decode(\"ab\").unwrap();".toList, .inserted, []⟩ := by decide
  have htrace : Trace "s.rs".toList .rust
      (Config.standard.toCompiler sampleLauncher refusals).unitName 0
      sampleBlock [⟨k.body, k.options, .ok (.success [0xAB])⟩] _ :=
    .synced hcut hamended (.done rfl)
  have hreplay : (Config.standard.toCompiler sampleLauncher refusals).Replays
      { files := sampleFiles } [⟨k.body, k.options, .ok (.success [0xAB])⟩] := ⟨hanswer, trivial⟩
  obtain ⟨hok, -⟩ := htrace.outcome_eq_ok hreplay
  rw [← process_eq_rewriteFrom] at hok
  exact ⟨_, hok, rfl, rfl⟩

/-! ### All or nothing -/

/-- A run that ends early, also because a write is refused, or that changes nothing
leaves the source file as it was and does not start the formatter. A run that changes
the source writes the text of the pass back, once, and only then starts the formatter,
once. -/
theorem run_writesBack_or_leavesAlone {launcher : Launcher} {config : Config} {path : Path}
    {d : Dialect} (hd : Dialect.ofPath path = .ok d) (hspares : launcher.Spares config path)
    (refusals : Refusals) (files : FileSystem) :
    let r := run launcher config (some path) files refusals
    match r.outcome with
    | .error _ => r.LeavesAlone config d path files
    | .ok summary =>
      (summary.modified = false →
        summary.formatted = false ∧ r.LeavesAlone config d path files) ∧
      (summary.modified = true →
        ∃ source p, files.readText path = .ok source ∧
          (process path d (config.toCompiler launcher refusals) source { files }).outcome =
            .ok p ∧
          p.modified = true ∧
          r.WritesBack launcher config d path files p.text summary.formatted) := by
  rw [Run.run_eq_onFile hd]
  cases hread : files.readText path with
  | error e =>
    rw [Run.onFile_of_readText_eq_error hread]
    exact Run.leavesAlone_of_onlyScratch hd (.cleanUp hd _)
  | ok source =>
    have hpass := Session.OnlyScratch.process hd hspares refusals { files } source
    have hcleaned := hpass.trans (.cleanUp hd _)
    cases hok : (process path d (config.toCompiler launcher refusals) source
        { files }).outcome with
    | error e =>
      rw [Run.onFile_of_outcome_eq_error hread hok]
      exact Run.leavesAlone_of_onlyScratch hd hcleaned
    | ok p =>
      rw [Run.onFile_of_outcome_eq_ok hread hok]
      cases hmodified : p.modified with
      | false =>
        refine ⟨fun _ => ⟨rfl, ?_⟩, fun h => ?_⟩
        · exact Run.leavesAlone_of_onlyScratch hd hcleaned
        · cases h
      | true =>
        obtain ⟨program, arguments, hformatter⟩ := Dialect.exists_formatter hd
        cases hwrite : refusals.write (process path d (config.toCompiler launcher refusals) source
            { files }).state.files path p.text.bytes with
        | error e =>
          rw [Dialect.finalize_of_write_eq_error hwrite]
          exact Run.leavesAlone_of_onlyScratch hd hcleaned
        | ok written =>
          rw [Dialect.finalize_of_write_eq_ok hformatter hwrite]
          refine ⟨fun h => ?_, fun _ => ⟨source, p, rfl, hok, hmodified, ?_⟩⟩
          · cases h
          · exact Run.writesBack_of_write hd hformatter hpass (Refusals.write_eq_ok hwrite) rfl

/-- The sample's source is protected, and all other files are not. -/
def sampleRefusals : Refusals := fun path _ _ =>
  if path = "s.rs".toList then some (.system .accessDenied) else none

/-- A block that compiles and has no statement: the file is written with one, and
formatted. Where it is protected, the run ends with that error after the block was
given its statement, and the file is as it was. -/
theorem run_writesBack_sample :
    (∃ summary, (run sampleLauncher .standard (some "s.rs".toList) sampleFiles).outcome =
        .ok summary ∧
      summary.modified = true ∧
      (run sampleLauncher .standard (some "s.rs".toList) sampleFiles).WritesBack sampleLauncher
        .standard .rust "s.rs".toList sampleFiles
        (sampleBlock ++ "let wasm = hex::decode(\"ab\").unwrap();".toList)
        summary.formatted) ∧
    (∃ p, (process "s.rs".toList .rust (Config.standard.toCompiler sampleLauncher sampleRefusals)
        sampleBlock { files := sampleFiles }).outcome = .ok p ∧ p.modified = true) ∧
      (run sampleLauncher .standard (some "s.rs".toList) sampleFiles sampleRefusals).outcome =
        .error (.io "s.rs: Permission denied (os error 13)".toList) ∧
      (run sampleLauncher .standard (some "s.rs".toList) sampleFiles sampleRefusals).LeavesAlone
        .standard .rust "s.rs".toList sampleFiles := by
  have hd : Dialect.ofPath "s.rs".toList = .ok .rust := rfl
  have hread : sampleFiles.readText "s.rs".toList = .ok sampleBlock := rfl
  constructor
  · obtain ⟨p, hok, htext, hmodified⟩ := process_sampleFiles .never fun _ _ => rfl
    -- The file is still there after the pass, and so it can be written.
    have hkept := (Session.OnlyScratch.process hd sampleLauncher_spares .never
      { files := sampleFiles } sampleBlock).source
    obtain ⟨written, hwrite⟩ := FileSystem.exists_write_eq_ok rfl hkept p.text.bytes
    have hrun := run_writesBack_or_leavesAlone hd sampleLauncher_spares .never sampleFiles
    have hsummary : ∃ summary, (run sampleLauncher .standard (some "s.rs".toList)
        sampleFiles).outcome = .ok summary ∧ summary.modified = true := by
      rw [Run.run_eq_onFile hd, Run.onFile_of_outcome_eq_ok hread hok, hmodified,
        Dialect.finalize_of_write_eq_ok rfl ((Refusals.write_never _ _ _).trans hwrite)]
      exact ⟨_, rfl, rfl⟩
    obtain ⟨summary, houtcome, hchanged⟩ := hsummary
    simp only [houtcome] at hrun
    obtain ⟨source, q, hsource, hq, -, hback⟩ := hrun.2 hchanged
    cases hread.symm.trans hsource
    cases hok.symm.trans hq
    rw [htext] at hback
    exact ⟨summary, houtcome, hchanged, hback⟩
  · obtain ⟨p, hok, -, hmodified⟩ := process_sampleFiles sampleRefusals
      fun _ _ => rfl
    have hrun := run_writesBack_or_leavesAlone hd sampleLauncher_spares sampleRefusals sampleFiles
    have houtcome : (run sampleLauncher .standard (some "s.rs".toList) sampleFiles
        sampleRefusals).outcome = .error (.ioAt "s.rs".toList (.system .accessDenied)) := by
      rw [Run.run_eq_onFile hd, Run.onFile_of_outcome_eq_ok hread hok, hmodified,
        Dialect.finalize_of_write_eq_error rfl]
      rfl
    simp only [houtcome] at hrun
    exact ⟨⟨p, hok, hmodified⟩, houtcome, hrun⟩

end WatInlay
