/-
Nothing is lost in print.

A summary and an error are found again in what is printed of them. The readers
here find a member by its key and not by its place, so that they give back the
original from any value that is the same up to the order of members
(`Summary.ofJson?_of_same`, `ToolError.ofJson?_of_same`). Since a text has one
meaning, no two summaries and no two errors share a text (`prints_lossless`).
-/

import Mathlib.Data.List.Nodup
import WatInlay.Report
import WatInlay.Proofs.Meaning

namespace WatInlay

namespace Json

/-! ### Keys -/

mutual

/-- No object in the value has a key twice. -/
def DistinctKeys : Json → Prop
  | .array items => DistinctItems items
  | .object ms => (ms.map Prod.fst).Nodup ∧ DistinctMembers ms
  | _ => True

/-- No object in the items has a key twice. -/
def DistinctItems : List Json → Prop
  | [] => True
  | v :: vs => v.DistinctKeys ∧ DistinctItems vs

/-- No object in the values of the members has a key twice. -/
def DistinctMembers : List (Text × Json) → Prop
  | [] => True
  | (_, v) :: ms => v.DistinctKeys ∧ DistinctMembers ms

end

theorem distinctItems_map {α : Type} {print : α → Json} (h : ∀ a, (print a).DistinctKeys)
    (as : List α) : DistinctItems (as.map print) := by
  induction as with
  | nil => trivial
  | cons a as ih => exact ⟨h a, ih⟩

theorem distinctKeys_ofBlockReport (b : BlockReport) : (ofBlockReport b).DistinctKeys := by
  obtain ⟨line, options, status⟩ := b
  have hstring (t : Text) : (Json.string t).DistinctKeys := trivial
  have hoptions := distinctItems_map hstring options
  have hkeys : ["line".toList, "options".toList, "status".toList, "diagnostics".toList].Nodup := by
    decide
  cases status with
  | failed d => exact ⟨hkeys, trivial, hoptions, trivial, trivial, trivial⟩
  | _ => exact ⟨hkeys.sublist (List.sublist_append_left _ ["diagnostics".toList]), trivial, hoptions,
      trivial, trivial⟩

theorem distinctKeys_ofCounts (c : Counts) : (ofCounts c).DistinctKeys := by
  have hkeys : ["inserted".toList, "updated".toList, "unchanged".toList, "failed".toList].Nodup := by
    decide
  exact ⟨hkeys, trivial, trivial, trivial, trivial, trivial⟩

theorem distinctKeys_ofSummary (s : Summary) : (ofSummary s).DistinctKeys := by
  have hcounts := distinctKeys_ofCounts s.counts
  have hblocks := distinctItems_map distinctKeys_ofBlockReport s.blocks
  have hkeys : ["path".toList, "dialect".toList, "modified".toList, "formatted".toList,
      "counts".toList, "blocks".toList].Nodup := by decide
  exact ⟨hkeys, trivial, trivial, trivial, trivial, hcounts, hblocks, trivial⟩

theorem distinctKeys_ofError (e : ToolError) : (ofError e).DistinctKeys := by
  have hkeys : ["code".toList, "detail".toList].Nodup := by decide
  have hdetail : ["program".toList, "message".toList].Nodup := by decide
  cases e with
  | missingArgument => exact ⟨List.nodup_singleton _, trivial, trivial⟩
  | compilerLaunch program message =>
    exact ⟨hkeys, trivial, ⟨hdetail, trivial, trivial, trivial⟩, trivial⟩
  | _ => exact ⟨hkeys, trivial, ⟨List.nodup_singleton _, trivial, trivial⟩, trivial⟩

/-! ### Values up to the order of members -/

mutual

/-- The same value, when the order of members does not count. -/
inductive Same : Json → Json → Prop where
  | null : Same .null .null
  | bool {b} : Same (.bool b) (.bool b)
  | number {n} : Same (.number n) (.number n)
  | string {s} : Same (.string s) (.string s)
  | array {vs ws} : SameItems vs ws → Same (.array vs) (.array ws)
  | object {ms ns os} : ms.Perm ns → SameMembers ns os → Same (.object ms) (.object os)

/-- The same items in the same order. -/
inductive SameItems : List Json → List Json → Prop where
  | nil : SameItems [] []
  | cons {v w vs ws} : Same v w → SameItems vs ws → SameItems (v :: vs) (w :: ws)

/-- The same keys in the same order, with the same values. -/
inductive SameMembers : List (Text × Json) → List (Text × Json) → Prop where
  | nil : SameMembers [] []
  | cons {k v w ms ns} : Same v w → SameMembers ms ns → SameMembers ((k, v) :: ms) ((k, w) :: ns)

end

mutual

theorem Same.refl : ∀ v : Json, Same v v
  | .null => .null
  | .bool _ => .bool
  | .number _ => .number
  | .string _ => .string
  | .array vs => .array (SameItems.refl vs)
  | .object ms => .object (.refl ms) (SameMembers.refl ms)

theorem SameItems.refl : ∀ vs : List Json, SameItems vs vs
  | [] => .nil
  | v :: vs => .cons (Same.refl v) (SameItems.refl vs)

theorem SameMembers.refl : ∀ ms : List (Text × Json), SameMembers ms ms
  | [] => .nil
  | (_, v) :: ms => .cons (Same.refl v) (SameMembers.refl ms)

end

/-- The value of the member with this key. -/
def member? (k : Text) : Json → Option Json
  | .object ms => (ms.find? (·.1 = k)).map Prod.snd
  | _ => none

section Members

variable {ms ns : List (Text × Json)} {k : Text} {v w : Json}

theorem SameMembers.exists_find? (h : SameMembers ms ns) (hkeys : (ms.map Prod.fst).Nodup)
    (hm : (k, v) ∈ ms) : ∃ w, ns.find? (·.1 = k) = some (k, w) ∧ Same v w := by
  induction ms generalizing ns with
  | nil => cases hm
  | cons m ms ih =>
    obtain - | ⟨hsame, hrest⟩ := h
    obtain ⟨hnotMem, hkeys⟩ := List.nodup_cons.mp hkeys
    rcases List.mem_cons.mp hm with heq | hm
    · cases heq
      exact ⟨_, List.find?_cons_of_pos (by simp), hsame⟩
    · obtain ⟨w, hfind, hw⟩ := ih hrest hkeys hm
      refine ⟨w, ?_, hw⟩
      rw [List.find?_cons_of_neg, hfind]
      rw [decide_eq_true_eq]
      rintro rfl
      exact hnotMem (List.mem_map.mpr ⟨_, hm, rfl⟩)

theorem SameMembers.find?_eq_none (h : SameMembers ms ns) (hk : k ∉ ms.map Prod.fst) :
    ns.find? (·.1 = k) = none := by
  induction ms generalizing ns with
  | nil =>
    cases h
    rfl
  | cons m ms ih =>
    obtain - | ⟨hsame, hrest⟩ := h
    rw [List.map_cons, List.mem_cons, not_or] at hk
    rw [List.find?_cons_of_neg (by simpa using Ne.symm hk.1), ih hrest hk.2]

/-- A member is found by its key. -/
theorem Same.exists_member? (h : Same (.object ms) w) (hkeys : (Json.object ms).DistinctKeys)
    (hm : (k, v) ∈ ms) : ∃ w', w.member? k = some w' ∧ Same v w' := by
  cases h with
  | object hperm hmembers =>
    obtain ⟨w', hfind, hw'⟩ :=
      hmembers.exists_find? ((hperm.map Prod.fst).nodup_iff.mp hkeys.1) (hperm.mem_iff.mp hm)
    exact ⟨w', by rw [member?, hfind, Option.map_some], hw'⟩

/-- A member that is not there is not found. -/
theorem Same.member?_eq_none (h : Same (.object ms) w) (hk : k ∉ ms.map Prod.fst) :
    w.member? k = none := by
  cases h with
  | object hperm hmembers =>
    rw [(hperm.map Prod.fst).mem_iff] at hk
    rw [member?, hmembers.find?_eq_none hk, Option.map_none]

/-- What a reader makes of a member, if it makes the same of all that are the
same. -/
theorem Same.bind_member? {α : Type} {g : Json → Option α} {o : Option α}
    (h : Same (.object ms) w) (hkeys : (Json.object ms).DistinctKeys) (hm : (k, v) ∈ ms)
    (hg : ∀ w', Same v w' → g w' = o) : (w.member? k).bind g = o := by
  obtain ⟨w', hw', hsame⟩ := h.exists_member? hkeys hm
  rw [hw', Option.bind_some, hg w' hsame]

end Members

/-! ### Scalars and lists -/

/-- The number of a value that is written with digits only. -/
def nat? : Json → Option Nat
  | .number n => if n = { whole := n.whole } then some n.whole else none
  | _ => none

/-- The truth value of a value. -/
def bool? : Json → Option Bool
  | .bool b => some b
  | _ => none

section Scalars

variable {w : Json}

theorem Same.text? {s : Text} (h : Same (.string s) w) : w.text? = some s := by
  cases h
  rfl

theorem Same.nat? {n : Nat} (h : Same (.nat n) w) : w.nat? = some n := by
  cases h
  exact if_pos rfl

theorem Same.bool? {b : Bool} (h : Same (.bool b) w) : w.bool? = some b := by
  cases h
  rfl

/-- A reader that finds each item of a list again finds the list. -/
theorem Same.mapM_items? {α : Type} {print : α → Json} {g : Json → Option α}
    (hg : ∀ a w, Same (print a) w → g w = some a) {as : List α}
    (h : Same (.array (as.map print)) w) : w.items?.bind (·.mapM g) = some as := by
  obtain - | - | - | - | hitems | - := h
  rename_i ws
  rw [items?, Option.bind_some]
  induction as generalizing ws with
  | nil =>
    cases hitems
    rfl
  | cons a as ih =>
    obtain - | ⟨hfirst, hrest⟩ := hitems
    rw [List.mapM_cons, hg a _ hfirst, ih hrest]
    rfl

theorem Same.texts? {ts : List Text} (h : Same (.array (ts.map .string)) w) :
    w.texts? = some ts :=
  Same.mapM_items? (fun _ _ hs => hs.text?) h

end Scalars

end Json

/-! ### Summaries -/

open Json

/-- The status with this name, and with diagnostics exactly if it is a failure. -/
def Status.ofJson? (name : Text) (diagnostics : Option Json) : Option Status :=
  match diagnostics with
  | some v => if name = "failed".toList then v.text?.map .failed else none
  | none => [unchanged, updated, inserted].find? (·.name = name)

/-- The report that a value says. -/
def BlockReport.ofJson? (v : Json) : Option BlockReport := do
  let line ← (v.member? "line".toList).bind nat?
  let options ← (v.member? "options".toList).bind texts?
  let name ← (v.member? "status".toList).bind text?
  let status ← Status.ofJson? name (v.member? "diagnostics".toList)
  return { line, options, status }

/-- The counts that a value says. -/
def Counts.ofJson? (v : Json) : Option Counts := do
  let inserted ← (v.member? "inserted".toList).bind nat?
  let updated ← (v.member? "updated".toList).bind nat?
  let unchanged ← (v.member? "unchanged".toList).bind nat?
  let failed ← (v.member? "failed".toList).bind nat?
  return { inserted, updated, unchanged, failed }

/-- The summary that a value says. -/
def Summary.ofJson? (v : Json) : Option Summary := do
  let path ← (v.member? "path".toList).bind text?
  let dialect ← (v.member? "dialect".toList).bind text?
  let modified ← (v.member? "modified".toList).bind bool?
  let formatted ← (v.member? "formatted".toList).bind bool?
  let counts ← (v.member? "counts".toList).bind Counts.ofJson?
  let blocks ← (v.member? "blocks".toList).bind fun v => v.items?.bind (·.mapM BlockReport.ofJson?)
  return { path, dialect, modified, formatted, counts, blocks }

section Summaries

variable {w : Json}

theorem Counts.ofJson?_of_same {c : Counts} (h : Same (ofCounts c) w) :
    Counts.ofJson? w = some c := by
  have hkeys := distinctKeys_ofCounts c
  have hinserted : (w.member? "inserted".toList).bind nat? = some c.inserted :=
    h.bind_member? hkeys (by simp) fun _ h => h.nat?
  have hupdated : (w.member? "updated".toList).bind nat? = some c.updated :=
    h.bind_member? hkeys (by simp) fun _ h => h.nat?
  have hunchanged : (w.member? "unchanged".toList).bind nat? = some c.unchanged :=
    h.bind_member? hkeys (by simp) fun _ h => h.nat?
  have hfailed : (w.member? "failed".toList).bind nat? = some c.failed :=
    h.bind_member? hkeys (by simp) fun _ h => h.nat?
  simp only [Counts.ofJson?, hinserted, hupdated, hunchanged, hfailed, Option.bind_eq_bind,
    Option.bind_some, Option.pure_def]

theorem BlockReport.ofJson?_of_same {b : BlockReport} (h : Same (ofBlockReport b) w) :
    BlockReport.ofJson? w = some b := by
  have hkeys := distinctKeys_ofBlockReport b
  have hline : (w.member? "line".toList).bind nat? = some b.line :=
    h.bind_member? hkeys (by simp) fun _ h => h.nat?
  have hoptions : (w.member? "options".toList).bind texts? = some b.options :=
    h.bind_member? hkeys (by simp) fun _ h => h.texts?
  have hname : (w.member? "status".toList).bind text? = some b.status.name :=
    h.bind_member? hkeys (by simp) fun _ h => h.text?
  have hstatus : Status.ofJson? b.status.name (w.member? "diagnostics".toList) = some b.status := by
    cases hs : b.status with
    | failed d =>
      obtain ⟨v, hv, hsame⟩ := h.exists_member? (k := "diagnostics".toList) (v := .string d) hkeys
        (by simp [hs, Status.diagnostics?])
      rw [hv, Status.ofJson?, hsame.text?]
      rfl
    | _ =>
      rw [h.member?_eq_none (by simp [hs, Status.diagnostics?])]
      rfl
  simp only [BlockReport.ofJson?, hline, hoptions, hname, hstatus, Option.bind_eq_bind,
    Option.bind_some, Option.pure_def]

theorem Summary.ofJson?_of_same {s : Summary} (h : Same (ofSummary s) w) :
    Summary.ofJson? w = some s := by
  have hkeys := distinctKeys_ofSummary s
  have hpath : (w.member? "path".toList).bind text? = some s.path :=
    h.bind_member? hkeys (by simp) fun _ h => h.text?
  have hdialect : (w.member? "dialect".toList).bind text? = some s.dialect :=
    h.bind_member? hkeys (by simp) fun _ h => h.text?
  have hmodified : (w.member? "modified".toList).bind bool? = some s.modified :=
    h.bind_member? hkeys (by simp) fun _ h => h.bool?
  have hformatted : (w.member? "formatted".toList).bind bool? = some s.formatted :=
    h.bind_member? hkeys (by simp) fun _ h => h.bool?
  have hcounts : (w.member? "counts".toList).bind Counts.ofJson? = some s.counts :=
    h.bind_member? hkeys (by simp) fun _ h => Counts.ofJson?_of_same h
  have hblocks : ((w.member? "blocks".toList).bind fun v =>
      v.items?.bind (·.mapM BlockReport.ofJson?)) = some s.blocks :=
    h.bind_member? hkeys (by simp) fun _ h =>
      h.mapM_items? fun _ _ h => BlockReport.ofJson?_of_same h
  simp only [Summary.ofJson?, hpath, hdialect, hmodified, hformatted, hcounts, hblocks,
    Option.bind_eq_bind, Option.bind_some, Option.pure_def]

end Summaries

/-! ### Errors -/

/-- The text of a detail of an error. -/
def ToolError.detail? (v : Json) (k : Text) : Option Text :=
  (v.member? "detail".toList).bind fun d => (d.member? k).bind text?

/-- The error that a value says. -/
def ToolError.ofJson? (v : Json) : Option ToolError := do
  let code ← (v.member? "code".toList).bind text?
  if code = "MissingArgument".toList then return .missingArgument
  else if code = "UnsupportedDialect".toList then
    return .unsupportedDialect (← detail? v "extension".toList)
  else if code = "Io".toList then return .io (← detail? v "message".toList)
  else if code = "CompilerLaunch".toList then
    return .compilerLaunch (← detail? v "program".toList) (← detail? v "message".toList)
  else if code = "Config".toList then return .config (← detail? v "message".toList)
  else none

section Errors

variable {e : ToolError} {w : Json}

theorem ToolError.detail?_of_same {k x : Text} (h : Same (ofError e) w) (hm : (k, x) ∈ e.detail) :
    detail? w k = some x := by
  have hkeys := distinctKeys_ofError e
  have hsome : ¬ e.detail.isEmpty = true := by
    intro hempty
    rw [List.isEmpty_iff.mp hempty] at hm
    cases hm
  rw [ofError, if_neg hsome] at h hkeys
  refine h.bind_member? hkeys (List.mem_cons_of_mem _ List.mem_cons_self) fun d hd => ?_
  exact hd.bind_member? hkeys.2.2.1 (List.mem_map.mpr ⟨(k, x), hm, rfl⟩) fun _ h => h.text?

theorem ToolError.ofJson?_of_same (h : Same (ofError e) w) : ToolError.ofJson? w = some e := by
  have hcode : (w.member? "code".toList).bind text? = some e.code :=
    h.bind_member? (distinctKeys_ofError e) List.mem_cons_self fun _ h => h.text?
  have hdetail {k x : Text} (hm : (k, x) ∈ e.detail) : detail? w k = some x :=
    detail?_of_same h hm
  rw [ofJson?, hcode]
  cases e with
  | missingArgument => rfl
  | unsupportedDialect extension =>
    have hextension : detail? w "extension".toList = some extension := hdetail (by simp [detail])
    rw [hextension]
    rfl
  | io message =>
    have hmessage : detail? w "message".toList = some message := hdetail (by simp [detail])
    rw [hmessage]
    rfl
  | compilerLaunch program message =>
    have hprogram : detail? w "program".toList = some program := hdetail (by simp [detail])
    have hmessage : detail? w "message".toList = some message := hdetail (by simp [detail])
    rw [hprogram, hmessage]
    rfl
  | config message =>
    have hmessage : detail? w "message".toList = some message := hdetail (by simp [detail])
    rw [hmessage]
    rfl

end Errors

/-! ### Texts -/

/-- What is printed of `v` keeps `a`: no object has a key twice, both texts are
documents with this value and no other, and `read` finds `a` in the value in
whatever order its members come. -/
structure Json.Keeps {α : Type} (v : Json) (read : Json → Option α) (a : α) : Prop where
  distinct : v.DistinctKeys
  document : ∀ t, v.Prints t → ∀ w, Document t w ↔ w = v
  read_same : ∀ w, Same v w → read w = some a

/-- What is kept is told apart by its texts. -/
theorem Json.Keeps.prints_iff {α : Type} {print : α → Json} {read : Json → Option α}
    (h : ∀ a, (print a).Keeps read a) (a a' : α) :
    (∃ t, (print a).Prints t ∧ (print a').Prints t) ↔ a = a' := by
  constructor
  · rintro ⟨t, ht, ht'⟩
    have hvalue : print a = print a' :=
      ((h a').document t ht' (print a)).mp (((h a).document t ht (print a)).mpr rfl)
    have hread := (h a).read_same _ (Same.refl _)
    rw [hvalue, (h a').read_same _ (Same.refl _), Option.some.injEq] at hread
    exact hread.symm
  · rintro rfl
    exact ⟨_, .inl rfl, .inl rfl⟩

/-- Summaries and errors are kept in print, so that no two summaries and no two
errors have a text in common, be it compact or pretty. -/
theorem prints_lossless :
    (∀ s : Summary, (ofSummary s).Keeps Summary.ofJson? s) ∧
      (∀ e : ToolError, (ofError e).Keeps ToolError.ofJson? e) ∧
      (∀ s s' : Summary, (∃ t, (ofSummary s).Prints t ∧ (ofSummary s').Prints t) ↔ s = s') ∧
      ∀ e e' : ToolError, (∃ t, (ofError e).Prints t ∧ (ofError e').Prints t) ↔ e = e' := by
  have hsummary (s : Summary) : (ofSummary s).Keeps Summary.ofJson? s :=
    ⟨distinctKeys_ofSummary s, fun _ ht _ => ht.document_iff,
      fun _ h => Summary.ofJson?_of_same h⟩
  have herror (e : ToolError) : (ofError e).Keeps ToolError.ofJson? e :=
    ⟨distinctKeys_ofError e, fun _ ht _ => ht.document_iff,
      fun _ h => ToolError.ofJson?_of_same h⟩
  exact ⟨hsummary, herror, Keeps.prints_iff hsummary, Keeps.prints_iff herror⟩

end WatInlay
