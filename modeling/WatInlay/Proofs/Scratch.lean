/-
Three files of a run.

The scratch unit, the scratch binary and the source have names with different
endings, wherever the configuration puts the scratch files and however the path
of the source is written; so no two of them are ever the same file, neither read
nor written to (`Config.files_distinct`). The scratch unit always has a name, and
so the diagnostics of a run are always searched for it.
-/

import WatInlay.Proofs.Agreement
import WatInlay.Proofs.LineShift
import WatInlay.Proofs.Turns
import WatInlay.Run

namespace WatInlay

/-! ### Distinct files -/

/-- The path leads to the place, as the path of a file that is read or of one
that is written. -/
def FileSystem.Leads (fs : FileSystem) (path : Path) (place : Place) : Prop :=
  fs.locate path = .ok place ∨ fs.locateForWriting path = .ok place

namespace Path

variable {p q : Path}

/-- The paths have different names, and never lead to the same file. -/
structure Distinct (p q : Path) : Prop where
  names : ∃ s s', p.name? = some s ∧ q.name? = some s' ∧ s ≠ s'
  places : ∀ (fs : FileSystem) (place : Place), fs.Leads p place → ¬ fs.Leads q place

theorem locate_of_leads {fs : FileSystem} {place : Place} (h : fs.Leads p place) :
    fs.locate p = .ok place := by
  rcases h with h | h
  · exact h
  · exact FileSystem.locate_of_locateForWriting h

/-- Different names are enough. -/
theorem distinct_of_name?_ne {s s' : Text} (hp : p.name? = some s) (hq : q.name? = some s')
    (hne : s ≠ s') : p.Distinct q where
  names := ⟨s, s', hp, hq, hne⟩
  places := by
    intro fs place hplace hplace'
    exact apart_of_name?_ne hp hq hne fs place (locate_of_leads hplace) (locate_of_leads hplace')

/-- Names that end in different characters are different. -/
theorem distinct_of_ends {v v' w w' : Text} (hp : p.name? = some (v ++ w))
    (hq : q.name? = some (v' ++ w')) (hw : w ≠ []) (hw' : w' ≠ [])
    (hends : w.getLast? ≠ w'.getLast?) : p.Distinct q :=
  distinct_of_name?_ne hp hq fun h => hends (getLast?_eq_of_append_eq hw hw' h)

end Path

/-! ### The files of a run -/

/-- A source has a name that ends like sources of C++ or of Rust. -/
theorem Dialect.exists_name?_ends {path : Path} {d : Dialect} (hd : ofPath path = .ok d) :
    ∃ v w, path.name? = some (v ++ w) ∧ (w = ".cpp".toList ∨ w = ".rs".toList) := by
  obtain ⟨hmem, v, hname⟩ := exists_name?_of_ofPath hd
  refine ⟨v, _, hname, ?_⟩
  simp only [all, List.mem_cons, List.not_mem_nil, or_false] at hmem
  rcases hmem with rfl | rfl
  · exact .inl rfl
  · exact .inr rfl

namespace Config

theorem unit_ne_nil (config : Config) : config.unit ≠ [] := by
  rw [unit_eq]
  exact List.append_ne_nil_of_right_ne_nil _ (by decide)

/-- The diagnostics of a block that failed in a run have been searched for the
name of the scratch unit. -/
theorem diagnostics?_eq_some (config : Config) (launcher : Launcher) (path : Path)
    {t : Turn Session} {complaints : Text} (h : t.answer = .ok (.failure complaints)) :
    t.diagnostics? path (config.toCompiler launcher).unitName =
      some (Text.replaceAll config.unit path
        (Diagnostics.Scan.finish config.unit
          (t.stage.buffer.text.lineBreaksBefore t.block.bodyStart) ⟨complaints, 0⟩)) := by
  have hunit : config.unit.isEmpty = false := by simpa using config.unit_ne_nil
  have hname : (config.toCompiler launcher).unitName = config.unit := rfl
  simp only [Turn.diagnostics?, h, hname, Diagnostics.ofBody, Diagnostics.remap, hunit]
  simp

/-- The scratch unit, the scratch binary and the source of a run have names with
different endings and are never the same file; and the scratch unit has a name,
so that diagnostics are never handed on as they came. -/
theorem files_distinct {path : Path} {d : Dialect} (hd : Dialect.ofPath path = .ok d)
    (config : Config) :
    (∃ v, config.unit.name? = some (v ++ ".wat".toList)) ∧
      (∃ v, config.binary.name? = some (v ++ ".wasm".toList)) ∧
      (∃ v w, path.name? = some (v ++ w) ∧ (w = ".cpp".toList ∨ w = ".rs".toList)) ∧
      config.unit.Distinct config.binary ∧ config.unit.Distinct path ∧
      config.binary.Distinct path ∧ config.unit ≠ [] ∧
      ∀ (launcher : Launcher) (t : Turn Session) (complaints : Text),
        t.answer = .ok (.failure complaints) →
        t.diagnostics? path (config.toCompiler launcher).unitName =
          some (Text.replaceAll config.unit path
            (Diagnostics.Scan.finish config.unit
              (t.stage.buffer.text.lineBreaksBefore t.block.bodyStart) ⟨complaints, 0⟩)) := by
  obtain ⟨u, hu⟩ := config.exists_name?_unit
  obtain ⟨b, hb⟩ := config.exists_name?_binary
  obtain ⟨v, w, hv, hw⟩ := Dialect.exists_name?_ends hd
  have hne : w ≠ [] := by rcases hw with rfl | rfl <;> decide
  refine ⟨⟨u, hu⟩, ⟨b, hb⟩, ⟨v, w, hv, hw⟩, ?_, ?_, ?_, config.unit_ne_nil, ?_⟩
  · exact Path.distinct_of_ends hu hb (by decide) (by decide) (by decide)
  · refine Path.distinct_of_ends hu hv (by decide) hne ?_
    rcases hw with rfl | rfl <;> decide
  · refine Path.distinct_of_ends hb hv (by decide) hne ?_
    rcases hw with rfl | rfl <;> decide
  · intro launcher t complaints h
    exact config.diagnostics?_eq_some launcher path h

/-- Scratch files next to a source, with its name for a stem. -/
def besideSource : Config :=
  { standard with scratchDir := "lib".toList, scratchStem := "/src/a.cpp".toList }

/-- A block that failed on the second line of its source. -/
def failedTurn : Turn Session where
  stage := ⟨⟨"\n/* wat2wasm\n*/".toList, false⟩, 0, { files := {} }⟩
  block := ⟨1, [], [], 13, 15⟩
  answer := .ok (.failure "/src/a.cpp.wat:1:".toList)
  state := { files := {} }

theorem files_distinct_sample :
    Dialect.ofPath "/src/a.cpp/.".toList = .ok .cpp ∧
      besideSource.unit = "/src/a.cpp.wat".toList ∧
      besideSource.unit.Distinct "/src/a.cpp/.".toList ∧
      besideSource.binary.Distinct "/src/a.cpp/.".toList ∧
      failedTurn.diagnostics? "/src/a.cpp/.".toList besideSource.unit =
        some "/src/a.cpp/.:3:".toList := by
  have hd : Dialect.ofPath "/src/a.cpp/.".toList = .ok .cpp := rfl
  obtain ⟨-, -, -, -, hunit, hbinary, -, hremaps⟩ := files_distinct hd besideSource
  have hremap := hremaps (fun _ _ files => .ok (⟨false, []⟩, files)) failedTurn _ rfl
  have hone : Diagnostics.IsNumber ['1'] := ⟨by decide, List.forall_mem_singleton.mpr rfl⟩
  have hshift : Diagnostics.shiftLines "/src/a.cpp.wat".toList 2 "/src/a.cpp.wat:1:".toList =
      "/src/a.cpp.wat:3:".toList := by
    have h : Diagnostics.shiftLines "/src/a.cpp.wat".toList 2 "/src/a.cpp.wat:1:".toList =
        "/src/a.cpp.wat:3:".toList ++ Diagnostics.shiftLines "/src/a.cpp.wat".toList 2 [] :=
      Diagnostics.shiftLines_numbered hone []
    rw [h, Diagnostics.shiftLines]
    rfl
  have hlines : failedTurn.stage.buffer.text.lineBreaksBefore failedTurn.block.bodyStart = 2 := by
    decide
  have hname : Text.replaceAll "/src/a.cpp.wat".toList "/src/a.cpp/.".toList
      "/src/a.cpp.wat:3:".toList = "/src/a.cpp/.:3:".toList := by cbv
  rw [Diagnostics.finish_zero besideSource.unit_ne_nil, hlines] at hremap
  have hstem : besideSource.unit = "/src/a.cpp.wat".toList := rfl
  rw [hstem, hshift, hname] at hremap
  rw [hstem]
  exact ⟨hd, rfl, hstem ▸ hunit, hbinary, hremap⟩

end Config

end WatInlay
