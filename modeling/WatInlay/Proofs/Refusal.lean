/-
Runs that end before they begin.

A run without a source file, or with one whose extension belongs to no dialect,
starts no program and writes nothing. But a run cleans up however it ends, and so
these too remove what files they find at the scratch paths, though they have put
none there themselves (`run_removes_stale_unit`). All else stays as it was
(`run_endsAtOnce`).
-/

import WatInlay.Proofs.CleanUp

namespace WatInlay

theorem Dialect.ofPath_of_extension?_ne {path : Path}
    (hcpp : path.extension? ≠ some "cpp".toList) (hrust : path.extension? ≠ some "rs".toList) :
    ofPath path = .error (.unsupportedDialect (path.extension?.getD [])) := by
  have hnone : all.find? (·.extension = path.extension?.getD []) = none := by
    refine List.find?_eq_none.mpr fun d hd => ?_
    simp only [all, List.mem_cons, List.not_mem_nil, or_false] at hd
    cases hext : path.extension? with
    | none => rcases hd with rfl | rfl <;> decide
    | some extension =>
      rw [hext] at hcpp hrust
      simp only [Option.getD_some, decide_eq_true_eq]
      rintro rfl
      rcases hd with rfl | rfl
      · exact hcpp rfl
      · exact hrust rfl
  simp only [ofPath, hnone]

/-- What is discarded is removed, if anything is done at all. -/
theorem Session.mem_actions_discard {s : Session} {p : Path} {a : Action}
    (h : a ∈ (s.discard p).actions) : a ∈ s.actions ∨ a = .removed p := by
  unfold discard at h
  cases hclear : s.clear p with
  | error e =>
    rw [hclear] at h
    exact .inl h
  | ok s' =>
    rw [hclear] at h
    rcases clear_eq_ok_iff.mp hclear with ⟨-, rfl⟩ | ⟨-, files, -, rfl⟩
    · exact .inl h
    · rcases List.mem_append.mp h with hold | hnew
      · exact .inl hold
      · exact .inr (List.mem_singleton.mp hnew)

/-- The run ended with the error before it began. It printed nothing, and what it
did was to remove the files that it found at the scratch paths. -/
structure Run.EndsAtOnce (r : Run) (e : ToolError) (config : Config) (files : FileSystem) :
    Prop where
  outcome : r.outcome = .error e
  printed : r.printed = []
  did : ∀ a ∈ r.session.actions, ∃ p, config.IsScratch p ∧ a = .removed p
  cleaned : config.Cleaned files r.session.files
  unchanged : (∀ p, config.IsScratch p → ∀ contents executable,
    files.find? p ≠ some (.file contents executable)) → r.session.files = files

theorem Run.endsAtOnce_of_failed {launcher : Launcher} {config : Config} {path : Option Path}
    {files : FileSystem} {e : ToolError}
    (h : uncleaned launcher config path { files } = .failed e { files }) :
    (run launcher config path files).EndsAtOnce e config files := by
  have hcleaned : config.Cleaned files (config.cleanUp { files }).files :=
    config.cleaned_cleanUp { files }
  unfold run
  rw [h]
  refine ⟨rfl, rfl, fun a ha => ?_, hcleaned, hcleaned.eq⟩
  rcases Session.mem_actions_discard ha with ha | rfl
  · rcases Session.mem_actions_discard ha with ha | rfl
    · cases ha
    · exact ⟨_, .inl rfl, rfl⟩
  · exact ⟨_, .inr rfl, rfl⟩

/-- A run without a source file, or with one whose extension belongs to no
dialect, ends with that error and starts no program. All files are afterwards
what they were before, except that there is none any more at the scratch paths;
where there was none, all is unchanged. -/
theorem run_endsAtOnce (launcher : Launcher) (config : Config) (files : FileSystem) :
    (run launcher config none files).EndsAtOnce .missingArgument config files ∧
      ∀ path : Path, path.extension? ≠ some "cpp".toList → path.extension? ≠ some "rs".toList →
        (run launcher config (some path) files).EndsAtOnce
          (.unsupportedDialect (path.extension?.getD [])) config files := by
  refine ⟨Run.endsAtOnce_of_failed rfl, fun path hcpp hrust => Run.endsAtOnce_of_failed ?_⟩
  simp only [Run.uncleaned, Dialect.ofPath_of_extension?_ne hcpp hrust]

/-- A file at the path of the scratch unit, and nothing else. -/
def staleUnit : FileSystem :=
  FileSystem.set {} ["wat2wasm4tests.wat".toList] (.file (Text.bytes "old".toList) false)

/-- A file that belongs to no dialect, with a file at the path of the scratch unit
from before. -/
theorem run_endsAtOnce_sample :
    (run sampleLauncher .standard (some "a.txt".toList) staleUnit).EndsAtOnce
      (.unsupportedDialect "txt".toList) .standard staleUnit :=
  (run_endsAtOnce sampleLauncher .standard staleUnit).2 "a.txt".toList (by decide) (by decide)

/-- A file at the path of the scratch unit does not outlast these runs, although
they have done nothing before they end. -/
theorem run_removes_stale_unit :
    staleUnit.find? Config.standard.unit = some (.file (Text.bytes "old".toList) false) ∧
      (run sampleLauncher .standard none staleUnit).session.files ≠ staleUnit ∧
      (run sampleLauncher .standard (some "a.txt".toList) staleUnit).session.files ≠
        staleUnit := by
  have hstale : staleUnit.find? Config.standard.unit =
      some (.file (Text.bytes "old".toList) false) := rfl
  refine ⟨hstale, fun h => ?_, fun h => ?_⟩
  · have hgone : (run sampleLauncher .standard none staleUnit).session.files.find?
        Config.standard.unit = none := rfl
    rw [h, hstale] at hgone
    cases hgone
  · have hgone : (run sampleLauncher .standard (some "a.txt".toList) staleUnit).session.files.find?
        Config.standard.unit = none := rfl
    rw [h, hstale] at hgone
    cases hgone

end WatInlay
