/-
What is printed for programs.

With `--json` there is one JSON document on standard output, and a line break: the
summary of a run that succeeds, or a report of the error that ended the run,
whatever it was. An invocation that ends before its run, because its configuration
cannot be read, prints none (`ofArguments_stdout`).
-/

import WatInlay.Proofs.Document
import WatInlay.Proofs.Printed

namespace WatInlay

/-! ### Sorted members -/

namespace Json

theorem perm_insertMember (m : Text × Json) (ms : List (Text × Json)) :
    (insertMember m ms).Perm (m :: ms) := by
  induction ms with
  | nil => exact .refl _
  | cons m' ms ih =>
    unfold insertMember
    split
    · exact .refl _
    · exact (ih.cons m').trans (.swap m m' ms)

/-- Sorting moves members, and does nothing else to them but sort their values. -/
theorem perm_sortedMembers (ms : List (Text × Json)) :
    (sortedMembers ms).Perm (ms.map fun (k, v) => (k, v.sorted)) := by
  induction ms with
  | nil => exact .refl _
  | cons m ms ih =>
    obtain ⟨k, v⟩ := m
    rw [sortedMembers]
    exact (perm_insertMember _ _).trans (ih.cons _)

theorem sorted_string (t : Text) : (string t).sorted = string t := by
  simp only [sorted]

/-- Two members in order stay in order. -/
theorem sorted_object_pair {k k' : Text} (h : compare k k' = .lt) (v w : Json) :
    (object [(k, v), (k', w)]).sorted = object [(k, v.sorted), (k', w.sorted)] := by
  simp only [sorted, sortedMembers, insertMember, h, ↓reduceIte]

/-! ### Errors as JSON -/

/-- The object that reports an error: under `error` its code, and what it is about
in any order if it is about anything, and under `message` its text. -/
inductive Reports (e : ToolError) : Json → Prop where
  | bare : e.detail = [] →
      Reports e (object
        [("error".toList, object [("code".toList, string e.code)]),
          ("message".toList, string e.message)])
  | detailed {detail} : e.detail ≠ [] → detail.Perm (e.detail.map fun (k, v) => (k, string v)) →
      Reports e (object
        [("error".toList, object
          [("code".toList, string e.code), ("detail".toList, object detail)]),
          ("message".toList, string e.message)])

/-- Every error is reported in full. -/
theorem reports_errorDocument (e : ToolError) : Reports e (Invocation.errorDocument e) := by
  have hmessage : compare "error".toList "message".toList = .lt := by decide
  have hdetail : compare "code".toList "detail".toList = .lt := by decide
  rw [Invocation.errorDocument, sorted_object_pair hmessage, sorted_string]
  by_cases hnone : e.detail = []
  · have herror : (ofError e).sorted = object [("code".toList, string e.code)] := by
      simp [ofError, hnone, sorted, sortedMembers, insertMember]
    rw [herror]
    exact .bare hnone
  · have herror : ofError e = object [("code".toList, string e.code),
        ("detail".toList, object (e.detail.map fun (k, v) => (k, string v)))] := by
      simp [ofError, hnone]
    rw [herror, sorted_object_pair hdetail, sorted_string, sorted]
    refine .detailed hnone ((perm_sortedMembers _).trans (.of_eq ?_))
    rw [List.map_map]
    exact List.map_congr_left fun m _ => congrArg (m.1, ·) (sorted_string m.2)

end Json

/-! ### Standard output -/

namespace Invocation

/-- The text is one JSON document and a line break. -/
def IsDocumentLine (t : Text) (v : Json) : Prop :=
  ∃ document, t = document ++ ['\n'] ∧ Json.Document document v

theorem isDocumentLine_pretty (v : Json) : IsDocumentLine (line v.pretty) v :=
  ⟨v.pretty, rfl, Json.document_pretty v⟩

/-- With `--json`, standard output is one JSON document and a line break for every
outcome of the run: the summary, or the error with its code, its details and its
text. If the configuration cannot be read there is nothing on standard output. -/
theorem ofArguments_stdout {arguments : List Text} {o : Options}
    (h : CommandLine.parse arguments = .ok (.run o)) (hjson : o.json = true)
    (launcher : Launcher) (environment : Option Path) (files : FileSystem) (refusals : Refusals)
    (whereabouts : Json.Whereabouts) :
    let i := ofArguments launcher environment arguments files refusals whereabouts
    match Config.resolve files o.config environment whereabouts with
    | .error _ => i.stdout = []
    | .ok config =>
      match (run launcher config o.file files refusals).outcome with
      | .ok summary => IsDocumentLine i.stdout (Json.ofSummary summary)
      | .error e => ∃ v, IsDocumentLine i.stdout v ∧ Json.Reports e v := by
  simp only [ofArguments, h, ofOptions]
  cases Config.resolve files o.config environment whereabouts with
  | error e => rfl
  | ok config =>
    simp only
    cases (run launcher config o.file files refusals).outcome with
    | ok summary =>
      simp only [hjson, ↓reduceIte]
      exact isDocumentLine_pretty _
    | error e =>
      simp only [hjson, ↓reduceIte]
      exact ⟨_, isDocumentLine_pretty _, Json.reports_errorDocument e⟩

/-- A summary with a block that failed and one that was left as it is; an error of the
run, which has details; and an error that has none. -/
theorem ofArguments_stdout_sample :
    (∃ summary, outcome (complainingLauncher (some [0xAB])) none "s.rs".toList none mixedFiles =
        .ok summary ∧
      summary.blocks.map (·.status) = [.failed "s.rs:2: bad\n\n".toList, .unchanged] ∧
      IsDocumentLine (ofArguments (complainingLauncher (some [0xAB])) none
        ["--json".toList, "s.rs".toList] mixedFiles).stdout (Json.ofSummary summary)) ∧
    (∃ v, IsDocumentLine (ofArguments (complainingLauncher none) none
        ["--json".toList, "s.rs".toList] mixedFiles).stdout v ∧
      Json.Reports (.ioAt Config.standard.binary (.system .notFound)) v) ∧
    ∃ v, IsDocumentLine (ofArguments sampleLauncher none ["--json".toList] sampleFiles).stdout v ∧
      Json.Reports .missingArgument v := by
  have hjson := CommandLine.parse_json_file
  have hconfig := begins_mixedFiles.config
  refine ⟨?_, ?_, ?_⟩
  · obtain ⟨summary, houtcome, hstatus⟩ := outcome_mixedFiles_some
    have hstdout := ofArguments_stdout hjson rfl (complainingLauncher (some [0xAB])) none
      mixedFiles .never .unsaid
    rw [outcome_of_resolve hconfig] at houtcome
    simp only [hconfig, houtcome] at hstdout
    exact ⟨summary, (outcome_of_resolve hconfig).trans houtcome, hstatus, hstdout⟩
  · have houtcome := outcome_mixedFiles_none
    have hstdout := ofArguments_stdout hjson rfl (complainingLauncher none) none mixedFiles .never
      .unsaid
    rw [outcome_of_resolve hconfig] at houtcome
    simp only [hconfig, houtcome] at hstdout
    exact hstdout
  · exact ofArguments_stdout CommandLine.parse_json rfl sampleLauncher none sampleFiles .never
      .unsaid

/-- An error too, but of a configuration that does not exist: nothing is reported as
JSON, though it was asked for. -/
theorem ofArguments_stdout_absent_config :
    outcome sampleLauncher none (some "a.rs".toList) (some "absent.json".toList) {} =
        .error (.config "absent.json: No such file or directory (os error 2)".toList) ∧
      ∀ v, ¬ IsDocumentLine (ofArguments sampleLauncher none
        ["--json".toList, "--config".toList, "absent.json".toList, "a.rs".toList] {}).stdout v := by
  have hresolve : Config.resolve {} (some "absent.json".toList) none =
      .error (.config "absent.json: No such file or directory (os error 2)".toList) := rfl
  have hparse : CommandLine.parse
      ["--json".toList, "--config".toList, "absent.json".toList, "a.rs".toList] =
        .ok (.run { file := "a.rs".toList, config := "absent.json".toList, json := true }) := by
    simp [CommandLine.parse, CommandLine.read, CommandLine.Argument.ofText, CommandLine.addSwitch,
      CommandLine.addConfig, CommandLine.addFile, bind, Except.bind]
  refine ⟨by simp only [outcome, hresolve, Except.bind], fun v hline => ?_⟩
  obtain ⟨document, htext, -⟩ := hline
  simp only [ofArguments, hparse, ofOptions, hresolve] at htext
  exact absurd htext.symm (by simp)

end Invocation

end WatInlay
