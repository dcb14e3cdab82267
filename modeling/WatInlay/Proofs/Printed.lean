/-
What is printed for people.

On standard error stand the diagnostics of the blocks that failed, in the order
of the blocks, each with one line break at its end, and after them the error that
ended the invocation, if one did (`ofArguments_stderr`). This is said of the turns
of the pass (`Invocation.Failures`), and so also of a pass that was cut short,
which leaves no reports. Where there are reports, they tell of the same
diagnostics. With `--json` nothing of this changes, nor do the files.
-/

import WatInlay.Invocation
import WatInlay.Proofs.Encoding
import WatInlay.Proofs.Search
import WatInlay.Proofs.Segments
import WatInlay.Proofs.Turns
import WatInlay.Proofs.WriteBack

namespace WatInlay

/-! ### Diagnostics as they are printed -/

/-- The texts one after another, each without the line breaks at its end and with
one line break instead. -/
inductive Prints : List Text → Text → Prop where
  | nil : Prints [] []
  | cons {s : Text} {breaks : Nat} {texts : List Text} {rest : Text} :
      s.getLast? ≠ some '\n' → Prints texts rest →
      Prints ((s ++ List.replicate breaks '\n') :: texts) (s ++ '\n' :: rest)

/-- A text is what is left without the characters of a class at its end, and then
only such characters. -/
theorem Text.exists_eq_dropEndWhile_append (p : Char → Bool) (t : Text) :
    ∃ ending, t = dropEndWhile p t ++ ending ∧ (∀ c ∈ ending, p c = true) ∧
      ∀ c, (dropEndWhile p t).getLast? = some c → p c = false := by
  refine ⟨(t.reverse.takeWhile p).reverse, ?_, ?_, ?_⟩
  · rw [dropEndWhile, ← List.reverse_append, List.takeWhile_append_dropWhile, List.reverse_reverse]
  · intro c hc
    exact List.all_eq_true.mp List.all_takeWhile c (List.mem_reverse.mp hc)
  · intro c hc
    rw [dropEndWhile, List.getLast?_reverse] at hc
    have hhead := List.head?_dropWhile_not p t.reverse
    rw [hc] at hhead
    exact hhead

/-- Characters of a class at the end of a text are dropped, up to one of another class. -/
theorem Text.dropEndWhile_append {p : Char → Bool} {t ending : Text}
    (hending : ∀ c ∈ ending, p c = true) (hlast : ∀ c, t.getLast? = some c → p c = false) :
    dropEndWhile p (t ++ ending) = t := by
  have hreverse : ∀ c ∈ ending.reverse, p c = true := fun c hc =>
    hending c (List.mem_reverse.mp hc)
  have hkept : t.reverse.dropWhile p = t.reverse := by
    cases ht : t.reverse with
    | nil => rfl
    | cons c r =>
      have hc : p c = false := by
        refine hlast c ?_
        rw [← List.head?_reverse, ht, List.head?_cons]
      rw [List.dropWhile_cons_of_neg (by simp [hc])]
  rw [dropEndWhile, List.reverse_append, List.dropWhile_append_of_pos hreverse, hkept,
    List.reverse_reverse]

theorem Prints.printedForm {texts : List Text} {rest : Text} (h : Prints texts rest) (t : Text) :
    Prints (t :: texts) (Pass.printedForm t ++ rest) := by
  obtain ⟨ending, ht, hbreaks, hlast⟩ := Text.exists_eq_dropEndWhile_append (· == '\n') t
  have hending : ending = List.replicate ending.length '\n' :=
    List.eq_replicate_iff.mpr ⟨rfl, fun c hc => eq_of_beq (hbreaks c hc)⟩
  have hcons : Prints ((Text.dropEndWhile (· == '\n') t ++ List.replicate ending.length '\n') ::
      texts) (Text.dropEndWhile (· == '\n') t ++ '\n' :: rest) :=
    .cons (fun hc => absurd (hlast _ hc) (by decide)) h
  rw [← hending, ← ht] at hcons
  rwa [Pass.printedForm, List.append_assoc, List.singleton_append]

theorem prints_flatMap_printedForm (texts : List Text) :
    Prints texts (texts.flatMap Pass.printedForm) := by
  induction texts with
  | nil => exact .nil
  | cons t texts ih => exact ih.printedForm t

theorem Prints.eq_flatMap_printedForm {texts : List Text} {t : Text} (h : Prints texts t) :
    t = texts.flatMap Pass.printedForm := by
  induction h with
  | nil => rfl
  | @cons s breaks texts rest hlast _ ih =>
    have hdrop : Text.dropEndWhile (· == '\n') (s ++ List.replicate breaks '\n') = s := by
      refine Text.dropEndWhile_append ?_ ?_
      · intro c hc
        exact beq_iff_eq.mpr (List.eq_of_mem_replicate hc)
      · intro c hc
        refine beq_eq_false_iff_ne.mpr ?_
        rintro rfl
        exact hlast hc
    rw [List.flatMap_cons, Pass.printedForm, hdrop, List.append_assoc, List.singleton_append, ← ih]

/-- There is one way to print texts, and it is that of a pass. -/
theorem prints_iff {texts : List Text} {t : Text} :
    Prints texts t ↔ t = texts.flatMap Pass.printedForm := by
  constructor
  · exact Prints.eq_flatMap_printedForm
  · rintro rfl
    exact prints_flatMap_printedForm texts

/-! ### Diagnostics of a pass -/

section Passes

variable {σ : Type} {d : Dialect} {compiler : Compiler σ} {s : Stage σ}

/-- A pass prints the diagnostics of the blocks that failed, in their order. -/
theorem Turns.printed_eq {turns : List (Turn σ)} (h : Turns d compiler s turns) (path : Path) :
    (processFrom path d compiler s.buffer s.pos s.state).printed =
      (turns.filterMap (·.diagnostics? path compiler.unitName)).flatMap Pass.printedForm := by
  induction h with
  | done hturn =>
    rw [Stage.processFrom_of_done path hturn]
    rfl
  | aborted hturn hnext =>
    obtain ⟨hdiagnostics, e, hpass⟩ := Stage.processFrom_of_aborted path hturn hnext
    rw [hpass, List.filterMap_cons_none hdiagnostics]
    rfl
  | more hturn hnext _ ih =>
    obtain ⟨report, -, hpass⟩ := Stage.processFrom_of_next path hturn hnext
    rw [hpass, Pass.before, ih, List.filterMap_cons]
    split
    · rename_i hdiagnostics
      rw [hdiagnostics]
      rfl
    · rename_i diagnostics hdiagnostics
      rw [hdiagnostics]
      rfl

/-- A pass that comes to its end reports the same diagnostics. -/
theorem Turns.diagnostics_blocks {turns : List (Turn σ)} (h : Turns d compiler s turns)
    {path : Path} {p : Processed}
    (hok : (processFrom path d compiler s.buffer s.pos s.state).outcome = .ok p) :
    p.blocks.filterMap (·.status.diagnostics?) =
      turns.filterMap (·.diagnostics? path compiler.unitName) := by
  induction h generalizing p with
  | done hturn =>
    rw [Stage.processFrom_of_done path hturn] at hok
    cases hok
    rfl
  | aborted hturn hnext =>
    obtain ⟨-, e, hpass⟩ := Stage.processFrom_of_aborted path hturn hnext
    rw [hpass] at hok
    cases hok
  | @more s s' t turns hturn hnext _ ih =>
    obtain ⟨report, hreport, hpass⟩ := Stage.processFrom_of_next path hturn hnext
    rw [hpass] at hok
    cases hrest : (processFrom path d compiler s'.buffer s'.pos s'.state).outcome with
    | error e =>
      simp only [Pass.before, hrest] at hok
      cases hok
    | ok q =>
      simp only [Pass.before, hrest] at hok
      cases hok
      rw [List.filterMap_cons, List.filterMap_cons, hreport, ih hrest]

end Passes

/-! ### Runs and invocations -/

section Runs

variable {launcher : Launcher} {refusals : Refusals} {config : Config} {path : Path} {d : Dialect}
  {files : FileSystem} {source : Text}

/-- A run prints what its pass prints, whatever becomes of the file. -/
theorem run_printed (hd : Dialect.ofPath path = .ok d) (hread : files.readText path = .ok source) :
    (run launcher config (some path) files refusals).printed =
      (process path d (config.toCompiler launcher refusals) source { files }).printed := by
  rw [Run.run_eq_onFile hd]
  cases hok : (process path d (config.toCompiler launcher refusals) source { files }).outcome with
  | error e => rw [Run.onFile_of_outcome_eq_error hread hok]
  | ok p => rw [Run.onFile_of_outcome_eq_ok hread hok]

/-- A pass that an error ends, ends the run with that error. -/
theorem run_outcome_of_error (hd : Dialect.ofPath path = .ok d)
    (hread : files.readText path = .ok source) {e : ToolError}
    (herror : (process path d (config.toCompiler launcher refusals) source { files }).outcome =
      .error e) :
    (run launcher config (some path) files refusals).outcome = .error e := by
  rw [Run.run_eq_onFile hd, Run.onFile_of_outcome_eq_error hread herror]

/-- A pass that leaves the text as it is ends the run well, with its own reports. -/
theorem run_outcome_of_unmodified (hd : Dialect.ofPath path = .ok d)
    (hread : files.readText path = .ok source) {p : Processed}
    (hok : (process path d (config.toCompiler launcher refusals) source { files }).outcome = .ok p)
    (hmodified : p.modified = false) :
    ∃ summary, (run launcher config (some path) files refusals).outcome = .ok summary ∧
      summary.blocks = p.blocks := by
  rw [Run.run_eq_onFile hd, Run.onFile_of_outcome_eq_ok hread hok, hmodified]
  exact ⟨_, rfl, rfl⟩

/-- The reports of a run that succeeds are those of its pass. -/
theorem run_blocks (hd : Dialect.ofPath path = .ok d) (hread : files.readText path = .ok source)
    {summary : Summary}
    (h : (run launcher config (some path) files refusals).outcome = .ok summary) :
    ∃ p, (process path d (config.toCompiler launcher refusals) source { files }).outcome = .ok p ∧
      summary.blocks = p.blocks := by
  rw [Run.run_eq_onFile hd] at h
  cases hok : (process path d (config.toCompiler launcher refusals) source { files }).outcome with
  | error e =>
    rw [Run.onFile_of_outcome_eq_error hread hok] at h
    cases h
  | ok p =>
    rw [Run.onFile_of_outcome_eq_ok hread hok] at h
    dsimp only at h
    cases hfinal : (d.finalize launcher (process path d (config.toCompiler launcher refusals)
        source { files }).state path p.text p.modified refusals).1 with
    | error e =>
      rw [hfinal] at h
      cases h
    | ok formatted =>
      rw [hfinal] at h
      cases h
      exact ⟨p, rfl, rfl⟩

end Runs

/-! ### Command lines -/

namespace CommandLine

/-- The switch for JSON, before anything else. -/
theorem parse_json_cons (ts : List Text) :
    parse ("--json".toList :: ts) = read { json := true } ts := by
  have hjson : Argument.ofText "--json".toList = .long "json".toList none := by decide
  rw [parse, read, hjson]
  rfl

theorem parse_json : parse ["--json".toList] = .ok (.run { json := true }) :=
  parse_json_cons []

/-- A file behind the switches. -/
theorem read_file {o : Options} {t : Text} (ho : o.file = none) (h : Argument.ofText t = .plain t)
    (hne : t ≠ []) : read o [t] = .ok (.run { o with file := t }) := by
  have hadd : addFile o t = .ok { o with file := t } := by
    rw [addFile, ho, if_neg (by decide), if_neg (by simpa using hne)]
  simp only [read, h, hadd, bind, Except.bind]

theorem parse_json_file : parse ["--json".toList, "s.rs".toList] =
    .ok (.run { file := "s.rs".toList, json := true }) := by
  rw [parse_json_cons]
  exact read_file rfl (by decide) (by decide)

end CommandLine

namespace Invocation

variable {launcher : Launcher} {environment file explicit : Option Path} {files : FileSystem}
  {refusals : Refusals} {whereabouts : Json.Whereabouts}

/-- How the invocation ends: with a summary, or with an error of its
configuration or of its run. -/
def outcome (launcher : Launcher) (environment file explicit : Option Path)
    (files : FileSystem) (refusals : Refusals := .never)
    (whereabouts : Json.Whereabouts := .unsaid) : Except ToolError Summary :=
  (Config.resolve files explicit environment whereabouts).bind fun config =>
    (run launcher config file files refusals).outcome

theorem outcome_of_resolve {config : Config}
    (hconfig : Config.resolve files explicit environment whereabouts = .ok config) :
    outcome launcher environment file explicit files refusals whereabouts =
      (run launcher config file files refusals).outcome := by
  simp only [outcome, hconfig, Except.bind]

/-- The error that ended the invocation, on a line of its own. -/
def lastLine : Except ToolError Summary → Text
  | .ok _ => []
  | .error e => e.message ++ ['\n']

/-- The invocation comes to compile the blocks of `source`. -/
structure Begins (environment file explicit : Option Path) (files : FileSystem)
    (whereabouts : Json.Whereabouts) (config : Config) (path : Path) (d : Dialect)
    (source : Text) : Prop where
  config : Config.resolve files explicit environment whereabouts = .ok config
  file : file = some path
  dialect : Dialect.ofPath path = .ok d
  source : files.readText path = .ok source

theorem Begins.eq {config config' : Config} {path path' : Path} {d d' : Dialect}
    {source source' : Text}
    (h : Begins environment file explicit files whereabouts config path d source)
    (h' : Begins environment file explicit files whereabouts config' path' d' source') :
    config' = config ∧ path' = path ∧ d' = d ∧ source' = source := by
  cases h.config.symm.trans h'.config
  cases h.file.symm.trans h'.file
  cases h.dialect.symm.trans h'.dialect
  cases h.source.symm.trans h'.source
  exact ⟨rfl, rfl, rfl, rfl⟩

/-- The diagnostics of the blocks that failed to compile, in the order of the
blocks, also of a pass that an error ended. -/
inductive Failures (launcher : Launcher) (environment file explicit : Option Path)
    (files : FileSystem) (refusals : Refusals) (whereabouts : Json.Whereabouts) :
    List Text → Prop where
  | none : (∀ config path d source,
        ¬ Begins environment file explicit files whereabouts config path d source) →
      Failures launcher environment file explicit files refusals whereabouts []
  | pass {config path d source turns} :
      Begins environment file explicit files whereabouts config path d source →
      Turns d (config.toCompiler launcher refusals) ⟨⟨source, false⟩, 0, { files }⟩ turns →
      Failures launcher environment file explicit files refusals whereabouts
        (turns.filterMap (·.diagnostics? path config.unit))

/-- An invocation has one list of such diagnostics. -/
theorem Failures.unique {failures failures' : List Text}
    (h : Failures launcher environment file explicit files refusals whereabouts failures)
    (h' : Failures launcher environment file explicit files refusals whereabouts failures') :
    failures = failures' := by
  cases h with
  | none hnever =>
    cases h' with
    | none => rfl
    | pass hbegins => exact absurd hbegins (hnever _ _ _ _)
  | pass hbegins hturns =>
    cases h' with
    | none hnever => exact absurd hbegins (hnever _ _ _ _)
    | pass hbegins' hturns' =>
      obtain ⟨rfl, rfl, rfl, rfl⟩ := hbegins.eq hbegins'
      rw [hturns.unique hturns']

/-- A run that never comes to its source ends with an error and prints nothing. -/
theorem run_of_not_begins (launcher : Launcher) (refusals : Refusals) {config : Config}
    (hconfig : Config.resolve files explicit environment whereabouts = .ok config)
    (h : ∀ config path d source,
      ¬ Begins environment file explicit files whereabouts config path d source) :
    (run launcher config file files refusals).printed = [] ∧
      ∃ e, (run launcher config file files refusals).outcome = .error e := by
  cases file with
  | none => exact ⟨rfl, _, rfl⟩
  | some path =>
    cases hd : Dialect.ofPath path with
    | error e =>
      simp only [run, Run.uncleaned, hd]
      exact ⟨rfl, e, rfl⟩
    | ok d =>
      rw [Run.run_eq_onFile hd]
      cases hread : files.readText path with
      | error e =>
        rw [Run.onFile_of_readText_eq_error hread]
        exact ⟨rfl, _, rfl⟩
      | ok source => exact absurd ⟨hconfig, rfl, hd, hread⟩ (h config path d source)

/-- Whether the summary is also asked for as JSON only shows on standard output. -/
theorem ofOptions_json (launcher : Launcher) (environment : Option Path) (o : Options)
    (json : Bool) (files : FileSystem) (refusals : Refusals) (whereabouts : Json.Whereabouts) :
    let i := ofOptions launcher environment o files refusals whereabouts
    let j := ofOptions launcher environment { o with json } files refusals whereabouts
    j.exit = i.exit ∧ j.stderr = i.stderr ∧ j.files = i.files := by
  unfold ofOptions
  cases Config.resolve files o.config environment whereabouts with
  | error e => exact ⟨rfl, rfl, rfl⟩
  | ok config =>
    simp only
    cases (run launcher config o.file files refusals).outcome <;> exact ⟨rfl, rfl, rfl⟩

theorem ofOptions_exit (launcher : Launcher) (environment : Option Path) (o : Options)
    (files : FileSystem) (refusals : Refusals) (whereabouts : Json.Whereabouts) :
    (ofOptions launcher environment o files refusals whereabouts).exit = 0 := by
  unfold ofOptions
  cases Config.resolve files o.config environment whereabouts with
  | error e => rfl
  | ok config =>
    simp only
    cases (run launcher config o.file files refusals).outcome <;> rfl

/-- What ends up on standard error: what the run printed, and the error that ended
the invocation. -/
theorem ofOptions_stderr_of_resolve {o : Options} {config : Config}
    (hconfig : Config.resolve files o.config environment whereabouts = .ok config) :
    (ofOptions launcher environment o files refusals whereabouts).stderr =
      (run launcher config o.file files refusals).printed ++
        lastLine (outcome launcher environment o.file o.config files refusals whereabouts) := by
  simp only [ofOptions, outcome, hconfig, Except.bind]
  cases (run launcher config o.file files refusals).outcome with
  | error e => rfl
  | ok summary => exact (List.append_nil _).symm

/-- Standard error holds the diagnostics of the failed blocks and then the error,
if there is one. -/
theorem ofOptions_stderr (launcher : Launcher) (environment : Option Path) (o : Options)
    (files : FileSystem) (refusals : Refusals) (whereabouts : Json.Whereabouts) :
    let outcome := outcome launcher environment o.file o.config files refusals whereabouts
    ∃ failures printed,
      Failures launcher environment o.file o.config files refusals whereabouts failures ∧
      Prints failures printed ∧
      (ofOptions launcher environment o files refusals whereabouts).stderr =
        printed ++ lastLine outcome ∧
      ∀ summary, outcome = .ok summary →
        summary.blocks.filterMap (·.status.diagnostics?) = failures := by
  cases hconfig : Config.resolve files o.config environment whereabouts with
  | error e =>
    refine ⟨[], [], .none fun _ _ _ _ h => ?_, .nil, ?_, ?_⟩
    · cases hconfig.symm.trans h.config
    · simp only [ofOptions, outcome, hconfig, Except.bind]
      rfl
    · simp only [outcome, hconfig, Except.bind]
      intro summary h
      cases h
  | ok config =>
    rw [ofOptions_stderr_of_resolve hconfig]
    have houtcome : outcome launcher environment o.file o.config files refusals whereabouts =
        (run launcher config o.file files refusals).outcome := outcome_of_resolve hconfig
    -- Either there are turns to speak of, or the run ended before its first one.
    by_cases hbegins : ∃ config path d source,
        Begins environment o.file o.config files whereabouts config path d source
    · obtain ⟨config', path, d, source, h⟩ := hbegins
      cases hconfig.symm.trans h.config
      have hstart : source.IsBoundary 0 := Text.isBoundary_iff.mpr ⟨[], source, rfl, rfl⟩
      obtain ⟨turns, hturns, -, -⟩ := Stage.exists_turns d
        (config.toCompiler launcher refusals) ⟨⟨source, false⟩, 0, { files }⟩ hstart
      have hprinted : (run launcher config o.file files refusals).printed =
          (turns.filterMap (·.diagnostics? path config.unit)).flatMap Pass.printedForm := by
        rw [h.file, run_printed h.dialect h.source]
        exact hturns.printed_eq path
      refine ⟨_, _, .pass h hturns, prints_flatMap_printedForm _, by rw [hprinted], ?_⟩
      intro summary hsummary
      rw [houtcome, h.file] at hsummary
      obtain ⟨p, hok, hblocks⟩ := run_blocks h.dialect h.source hsummary
      rw [hblocks]
      exact hturns.diagnostics_blocks hok
    · have hnever : ∀ config path d source,
          ¬ Begins environment o.file o.config files whereabouts config path d source :=
        fun config path d source h => hbegins ⟨config, path, d, source, h⟩
      obtain ⟨hprinted, e, herror⟩ := run_of_not_begins launcher refusals hconfig hnever
      refine ⟨[], [], .none hnever, .nil, by rw [hprinted], ?_⟩
      intro summary hsummary
      rw [houtcome, herror] at hsummary
      cases hsummary

/-- The same invocation with and without `--json` leaves the same files, prints the
same on standard error, and ends with status zero. On standard error stand the
diagnostics of all blocks that failed to compile, in their order, each with one
line break at its end, and after them the error that ended the invocation, if one
did. The reports of a run that succeeds tell of the same diagnostics. -/
theorem ofArguments_stderr {arguments arguments' : List Text} {file explicit : Option Path}
    {json json' : Bool}
    (h : CommandLine.parse arguments = .ok (.run { file, config := explicit, json }))
    (h' : CommandLine.parse arguments' = .ok (.run { file, config := explicit, json := json' }))
    (launcher : Launcher) (environment : Option Path) (files : FileSystem) (refusals : Refusals)
    (whereabouts : Json.Whereabouts) :
    let i := ofArguments launcher environment arguments files refusals whereabouts
    let i' := ofArguments launcher environment arguments' files refusals whereabouts
    let outcome := outcome launcher environment file explicit files refusals whereabouts
    i'.files = i.files ∧ i'.stderr = i.stderr ∧ i.exit = 0 ∧ i'.exit = 0 ∧
      ∃ failures printed,
        Failures launcher environment file explicit files refusals whereabouts failures ∧
        Prints failures printed ∧ i.stderr = printed ++ lastLine outcome ∧
        ∀ summary, outcome = .ok summary →
          summary.blocks.filterMap (·.status.diagnostics?) = failures := by
  simp only [ofArguments, h, h']
  obtain ⟨-, hstderr, hfiles⟩ := ofOptions_json launcher environment
    { file, config := explicit, json } json' files refusals whereabouts
  exact ⟨hfiles, hstderr, ofOptions_exit _ _ _ _ _ _, ofOptions_exit _ _ _ _ _ _,
    ofOptions_stderr launcher environment { file, config := explicit, json } files refusals
      whereabouts⟩

end Invocation

/-! ### A sample -/

/-- A block that is told to be bad, and one whose statement is up to date. -/
def mixedSource : Text :=
  "/* wat2wasm --bad\na*/\n/* wat2wasm\nb*/let w = hex::decode(\"ab\").unwrap();".toList

/-- The source in a file of its own. -/
def mixedFiles : FileSystem :=
  FileSystem.set {} ["s.rs".toList] (.file mixedSource.bytes false)

theorem readText_of_set (t : Text) :
    (FileSystem.set {} ["s.rs".toList] (.file t.bytes false)).readText "s.rs".toList = .ok t := by
  have hread : (FileSystem.set {} ["s.rs".toList] (.file t.bytes false)).read "s.rs".toList =
      .ok t.bytes := rfl
  simp only [FileSystem.readText, hread, Text.ofBytes?_bytes]

/-- What the compiler says of the bad block. -/
def complaints : Text :=
  "./wat2wasm4tests.wat:1: bad\n\n".toList

/-- A compiler that rejects what it is told is bad. Otherwise it ends well, also where it
has no module to write. Other programs do nothing. -/
def complainingLauncher (module : Option Bytes) : Launcher := fun program arguments files =>
  if program = Config.standard.compiler then
    if "--bad".toList ∈ arguments then
      .ok ({ success := false, errors := complaints.bytes }, files)
    else
      match module with
      | none => .ok ({ success := true, errors := [] }, files)
      | some module =>
        (files.write Config.standard.binary module).map ({ success := true, errors := [] }, ·)
  else .ok ({ success := true, errors := [] }, files)

/-- The compiler of the sample. -/
abbrev complaining (module : Option Bytes) : Compiler Session :=
  Config.standard.toCompiler (complainingLauncher module)

/-- The bad block, cut off the source. -/
def rejectedCut : Block.Cut :=
  ⟨[], " --bad".toList, "a".toList, mixedSource.drop 21⟩

/-- The other block, cut off what is behind the bad one. -/
def settledCut : Block.Cut :=
  ⟨"\n".toList, [], "b".toList, mixedSource.drop 37⟩

theorem cut?_mixedSource : Block.cut? mixedSource = some rejectedCut := by cbv

theorem cut?_rest_rejectedCut : Block.cut? rejectedCut.rest = some settledCut := by cbv

/-- What the compiler leaves behind it when it has rejected the bad block. -/
def afterRejection (module : Option Bytes) : Session :=
  ((complaining module).compile { files := mixedFiles } rejectedCut.body rejectedCut.options).2

theorem options_rejectedCut : rejectedCut.options = ["--bad".toList] := by
  rw [Block.Cut.options, Text.pieces_eq_filter_splitOnP]
  decide

theorem compile_rejectedCut (module : Option Bytes) :
    (complaining module).compile { files := mixedFiles } rejectedCut.body rejectedCut.options =
      (.ok (.failure complaints), afterRejection module) := by
  refine Prod.ext ?_ rfl
  have hanswer : ((complaining module).compile { files := mixedFiles } rejectedCut.body
      ["--bad".toList]).1 = .ok (.failure (Text.ofBytesLossy complaints.bytes)) := rfl
  have hread : Text.ofBytesLossy complaints.bytes = complaints :=
    Text.ofBytesLossy_bytes_of_ascii (by decide)
  rw [options_rejectedCut, hanswer, hread]

/-- The other block compiles where there is a module for it. -/
theorem answer_settledCut (module : Option Bytes) :
    ((complaining module).compile (afterRejection module) settledCut.body settledCut.options).1 =
      module.elim (.error (.ioAt Config.standard.binary (.system .notFound)))
        (.ok ∘ .success) := by
  have hoptions : settledCut.options = [] := by cbv
  rw [hoptions, afterRejection, options_rejectedCut]
  cases module <;> rfl

/-- The complaints about the body below the first line of the source. -/
theorem remap_complaints :
    Diagnostics.remap complaints 1 "s.rs".toList Config.standard.unit =
      "s.rs:2: bad\n\n".toList := by
  have hunit : Config.standard.unit = "./wat2wasm4tests.wat".toList := by decide
  have hcomplaints : complaints =
      "./wat2wasm4tests.wat".toList ++ ':' :: ['1'] ++ ':' :: " bad\n\n".toList := rfl
  have hnumber : Diagnostics.IsNumber ['1'] := by decide
  have hshifted : Diagnostics.renumber 1 ['1'] = ['2'] := by decide
  rw [hunit, Diagnostics.remap, if_neg (by decide), Diagnostics.finish_zero (by decide),
    hcomplaints, Diagnostics.shiftLines_numbered hnumber, hshifted,
    Diagnostics.shiftLines_of_colon_not_mem (by decide)]
  cbv

/-- The pass that has a module leaves the text as it is. -/
theorem process_mixedSource_some :
    ∃ p, (process "s.rs".toList .rust (complaining (some [0xAB])) mixedSource
        { files := mixedFiles }).outcome = .ok p ∧ p.modified = false ∧
      p.blocks.map (·.status) = [.failed "s.rs:2: bad\n\n".toList, .unchanged] := by
  have hamended : Dialect.rust.literal.amend (Hex.encode [0xAB]) settledCut.rest =
      ⟨settledCut.rest, .unchanged, []⟩ := rfl
  have htrace : Trace "s.rs".toList .rust (complaining (some [0xAB])).unitName 0 mixedSource
      [⟨_, _, .ok (.failure complaints)⟩, ⟨_, _, .ok (.success [0xAB])⟩] _ :=
    .failed cut?_mixedSource (.synced cut?_rest_rejectedCut hamended (.done rfl))
  have hreplay : (complaining (some [0xAB])).Replays { files := mixedFiles }
      [⟨rejectedCut.body, rejectedCut.options, .ok (.failure complaints)⟩,
        ⟨settledCut.body, settledCut.options, .ok (.success [0xAB])⟩] :=
    ⟨congrArg Prod.fst (compile_rejectedCut _), answer_settledCut (some [0xAB]), trivial⟩
  obtain ⟨hok, -⟩ := htrace.outcome_eq_ok hreplay
  rw [← process_eq_rewriteFrom] at hok
  refine ⟨_, hok, rfl, ?_⟩
  have hlines : 0 + rejectedCut.upToBody.lineBreaks = 1 := by decide
  have hremap := remap_complaints
  rw [← hlines] at hremap
  exact congrArg (fun t => [Status.failed t, .unchanged]) hremap

/-- The pass that has none ends with the second block, behind the diagnostics of the
first. -/
theorem process_mixedSource_none :
    (process "s.rs".toList .rust (complaining none) mixedSource { files := mixedFiles }).outcome =
        .error (.ioAt Config.standard.binary (.system .notFound)) ∧
      ∃ turns, Turns .rust (complaining none) ⟨⟨mixedSource, false⟩, 0, { files := mixedFiles }⟩
          turns ∧
        turns.filterMap (·.diagnostics? "s.rs".toList Config.standard.unit) =
          ["s.rs:2: bad\n\n".toList] := by
  have hcut := Block.cuts_of_cut?_eq_some cut?_mixedSource
  have hstop : (rejectedCut.block 0).stop = Text.size rejectedCut.upTo := Nat.zero_add _
  have hfirst : Block.find? mixedSource 0 = some (rejectedCut.block 0) := hcut.find?_start []
  have hsecond : Block.find? mixedSource (rejectedCut.block 0).stop =
      some (settledCut.block (Text.size rejectedCut.upTo)) := by
    have hfound := Block.find?_append rejectedCut.upTo rejectedCut.rest
    rw [cut?_rest_rejectedCut, ← hcut.eq] at hfound
    rw [hstop]
    exact hfound
  have hrejected := compile_rejectedCut none
  obtain ⟨state, habsent⟩ : ∃ state, (complaining none).compile (afterRejection none)
      settledCut.body settledCut.options =
        (.error (.ioAt Config.standard.binary (.system .notFound)), state) :=
    ⟨_, Prod.ext (answer_settledCut none) rfl⟩
  constructor
  · rw [process, processFrom_of_failure hfirst hrejected, processFrom_of_error hsecond habsent]
    rfl
  · let first : Turn Session :=
      ⟨⟨⟨mixedSource, false⟩, 0, { files := mixedFiles }⟩, rejectedCut.block 0,
        .ok (.failure complaints), afterRejection none⟩
    let second : Turn Session :=
      ⟨⟨⟨mixedSource, false⟩, (rejectedCut.block 0).stop, afterRejection none⟩,
        settledCut.block (Text.size rejectedCut.upTo),
        .error (.ioAt Config.standard.binary (.system .notFound)), state⟩
    have hturns : Turns .rust (complaining none)
        ⟨⟨mixedSource, false⟩, 0, { files := mixedFiles }⟩ [first, second] :=
      .more (Stage.turn?_eq_some_iff.mpr ⟨rfl, hfirst, hrejected⟩) rfl
        (.aborted (Stage.turn?_eq_some_iff.mpr ⟨rfl, hsecond, habsent⟩) rfl)
    have hlines : Text.lineBreaksBefore mixedSource (rejectedCut.block 0).bodyStart = 1 := by
      decide
    have hdiagnostics : first.diagnostics? "s.rs".toList Config.standard.unit =
        some "s.rs:2: bad\n\n".toList := by
      simp only [Turn.diagnostics?, first, Diagnostics.ofBody, hlines, remap_complaints]
    refine ⟨_, hturns, ?_⟩
    rw [List.filterMap_cons_some hdiagnostics]
    rfl

namespace Invocation

theorem begins_mixedFiles : Begins none "s.rs".toList none mixedFiles .unsaid .standard
    "s.rs".toList .rust mixedSource where
  config := rfl
  file := rfl
  dialect := rfl
  source := by rw [mixedFiles, readText_of_set]

theorem outcome_mixedFiles_some :
    ∃ summary, outcome (complainingLauncher (some [0xAB])) none "s.rs".toList none mixedFiles =
        .ok summary ∧
      summary.blocks.map (·.status) = [.failed "s.rs:2: bad\n\n".toList, .unchanged] := by
  have h := begins_mixedFiles
  obtain ⟨p, hok, hmodified, hstatus⟩ := process_mixedSource_some
  obtain ⟨summary, houtcome, hblocks⟩ := run_outcome_of_unmodified h.dialect h.source hok hmodified
  rw [← hblocks] at hstatus
  exact ⟨summary, (outcome_of_resolve h.config).trans houtcome, hstatus⟩

theorem outcome_mixedFiles_none :
    outcome (complainingLauncher none) none "s.rs".toList none mixedFiles =
      .error (.ioAt Config.standard.binary (.system .notFound)) := by
  have h := begins_mixedFiles
  rw [outcome_of_resolve h.config]
  exact run_outcome_of_error h.dialect h.source process_mixedSource_none.1

theorem failures_mixedFiles_none :
    Failures (complainingLauncher none) none "s.rs".toList none mixedFiles .never .unsaid
      ["s.rs:2: bad\n\n".toList] := by
  obtain ⟨-, turns, hturns, hdiagnostics⟩ := process_mixedSource_none
  rw [← hdiagnostics]
  exact .pass begins_mixedFiles hturns

/-- A block fails to compile. Whether the run is Ok all the same or an error ends it at
the next block, the diagnostics stand on standard error, and that also with `--json`. -/
theorem ofArguments_stderr_sample :
    ((ofArguments (complainingLauncher (some [0xAB])) none ["s.rs".toList] mixedFiles).stderr =
        "s.rs:2: bad\n".toList ∧
      (ofArguments (complainingLauncher (some [0xAB])) none ["--json".toList, "s.rs".toList]
        mixedFiles).stderr = "s.rs:2: bad\n".toList ∧
      (ofArguments (complainingLauncher (some [0xAB])) none ["--json".toList, "s.rs".toList]
        mixedFiles).files =
          (ofArguments (complainingLauncher (some [0xAB])) none ["s.rs".toList] mixedFiles).files ∧
      ∃ summary, outcome (complainingLauncher (some [0xAB])) none "s.rs".toList none mixedFiles =
          .ok summary ∧
        summary.blocks.map (·.status) = [.failed "s.rs:2: bad\n\n".toList, .unchanged]) ∧
    (ofArguments (complainingLauncher none) none ["s.rs".toList] mixedFiles).stderr =
        ("s.rs:2: bad\n" ++ "I/O error: ./wat2wasm4tests.wasm: " ++
          "No such file or directory (os error 2)\n").toList ∧
      (ofArguments (complainingLauncher none) none ["--json".toList, "s.rs".toList]
        mixedFiles).stderr =
        ("s.rs:2: bad\n" ++ "I/O error: ./wat2wasm4tests.wasm: " ++
          "No such file or directory (os error 2)\n").toList ∧
      (ofArguments (complainingLauncher none) none ["--json".toList, "s.rs".toList]
        mixedFiles).files =
          (ofArguments (complainingLauncher none) none ["s.rs".toList] mixedFiles).files ∧
      outcome (complainingLauncher none) none "s.rs".toList none mixedFiles =
        .error (.ioAt Config.standard.binary (.system .notFound)) := by
  have hplain : CommandLine.parse ["s.rs".toList] = .ok (.run { file := "s.rs".toList }) :=
    CommandLine.read_file rfl (by decide) (by decide)
  have hjson := CommandLine.parse_json_file
  have hprinted : ["s.rs:2: bad\n\n".toList].flatMap Pass.printedForm =
      "s.rs:2: bad\n".toList := by decide
  constructor
  · obtain ⟨summary, houtcome, hstatus⟩ := outcome_mixedFiles_some
    obtain ⟨hfiles, hsame, -, -, failures, printed, -, hprints, hstderr, hreported⟩ :=
      ofArguments_stderr hplain hjson (complainingLauncher (some [0xAB])) none mixedFiles .never
        .unsaid
    have hfailures : failures = ["s.rs:2: bad\n\n".toList] := by
      rw [← hreported summary houtcome, ← Function.comp_def Status.diagnostics?,
        ← List.filterMap_map, hstatus]
      rfl
    rw [hfailures, prints_iff, hprinted] at hprints
    rw [houtcome, hprints, lastLine, List.append_nil] at hstderr
    exact ⟨hstderr, hsame.trans hstderr, hfiles, summary, houtcome, hstatus⟩
  · have hmessage : "s.rs:2: bad\n".toList ++
        ((ToolError.ioAt Config.standard.binary (.system .notFound)).message ++ ['\n']) =
          ("s.rs:2: bad\n" ++ "I/O error: ./wat2wasm4tests.wasm: " ++
            "No such file or directory (os error 2)\n").toList := by decide
    obtain ⟨hfiles, hsame, -, -, failures, printed, hfailures, hprints, hstderr, -⟩ :=
      ofArguments_stderr hplain hjson (complainingLauncher none) none mixedFiles .never .unsaid
    rw [hfailures.unique failures_mixedFiles_none, prints_iff, hprinted] at hprints
    rw [outcome_mixedFiles_none, hprints, lastLine, hmessage] at hstderr
    exact ⟨hstderr, hsame.trans hstderr, hfiles, outcome_mixedFiles_none⟩

end Invocation

end WatInlay
