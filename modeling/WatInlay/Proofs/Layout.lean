/-
Configuration files, however they are laid out.

What a configuration file means depends on the members of its object only:
`Settings.putAll?` says what they make of the settings, and the reader agrees
with it on every document, accepting and refusing alike
(`ofText_of_document`). Each reader of a value is given once as what it makes of
the value (`Reads`). Hence the fields of a configuration are read back from
either text of an object that holds them in any order and among any other
members, and a field that stands twice is refused (`load_layout`).
-/

import WatInlay.Invocation
import WatInlay.Proofs.Meaning

namespace WatInlay

/-! ### Readers of values -/

namespace Config

open Json

/-- A reader takes all up to `r` and makes `o` of it; a fault if that is nothing. -/
def Reads {α : Type} (x : Except Fault (α × Text)) (o : Option α) (r : Text) : Prop :=
  match o with
  | some a => x = .ok (a, r)
  | none => ∃ e, x = .error e

theorem Reads.map {α β : Type} {x : Except Fault (α × Text)} {o : Option α} {r : Text}
    (h : Reads x o r) (f : α → β) : Reads (x.map fun (a, r) => (f a, r)) (o.map f) r := by
  cases o with
  | some a =>
    have hx : x = .ok (a, r) := h
    rw [hx]
    rfl
  | none =>
    obtain ⟨e, hx⟩ : ∃ e, x = .error e := h
    rw [hx]
    exact ⟨e, rfl⟩

/-- A reader and then another one, which goes on with what the first one left. -/
theorem Reads.bind {α β : Type} {x : Except Fault (α × Text)} {o : Option α} {w r : Text}
    (h : Reads x o w) {f : α × Text → Except Fault (β × Text)} {g : α → Option β}
    (hf : ∀ a, Reads (f (a, w)) (g a) r) : Reads (x.bind f) (o.bind g) r := by
  cases o with
  | some a =>
    have hx : x = .ok (a, w) := h
    rw [hx]
    exact hf a
  | none =>
    obtain ⟨e, hx⟩ : ∃ e, x = .error e := h
    rw [hx]
    exact ⟨e, rfl⟩

section Values

variable {t u r : Text} {v : Json}

theorem readText_reads (expected : Text) (h : Value (trimStart t) v r) :
    Reads (readText expected t) v.text? r := by
  obtain ⟨c, u, hcons, hkind⟩ := h.exists_eq_cons
  cases v with
  | string s =>
    obtain ⟨w, hquote, hquoted⟩ := h.inversion
    simp only [Reads, text?, readText, hquote]
    exact hquoted.readString_eq
  | _ =>
    have hrefused : readText expected t = .error (mismatch expected (c :: u)) := by
      unfold readText
      rw [hcons]
      split
      · rename_i heq
        cases heq
      · rename_i heq
        cases heq
        cases hkind
      · rfl
    exact ⟨_, hrefused⟩

/-- `t` goes on with `u`: at once for what comes first, else behind a comma. -/
def GoesOn (first : Bool) (t u : Text) : Prop :=
  if first then t = u else trimStart t = ',' :: u

theorem nextItem_of_goesOn {first : Bool} {c : Char} {w : Text} (h : GoesOn first t u)
    (hcons : trimStart u = c :: w) (hclose : c ≠ ']') :
    nextItem first t = .ok (true, trimStart u) := by
  cases first with
  | true =>
    have htu : t = u := h
    rw [htu]
    unfold nextItem
    rw [hcons]
    split
    · rename_i heq
      cases heq
    · rename_i heq
      exact absurd (List.cons.inj heq).1 hclose
    · rename_i heq
      cases heq
      rfl
  | false =>
    have hcomma : trimStart t = ',' :: u := h
    unfold nextItem
    rw [hcomma]
    split
    · rename_i heq
      cases heq
    · rename_i heq
      cases heq
    · rename_i heq
      cases heq
      rw [if_neg Bool.false_ne_true, if_pos rfl, hcons]
      split
      · rename_i heq
        cases heq
      · rename_i heq
        exact absurd (List.cons.inj heq).1 hclose
      · rfl

theorem readTexts_of_end {first : Bool} (hnext : nextItem first t = .ok (false, r)) :
    readTexts first t = .ok ([], r) := by
  rw [readTexts]
  split
  all_goals
    rename_i heq
    cases hnext.symm.trans heq
  rfl

theorem readTexts_of_item {first : Bool} (hnext : nextItem first t = .ok (true, u)) :
    readTexts first t =
      (readText "a string".toList u).bind fun (s, w) =>
        (readTexts false w).map fun (ss, rest) => (s :: ss, rest) := by
  rw [readTexts]
  split
  all_goals
    rename_i heq
    cases hnext.symm.trans heq
  split
  · rename_i htext
    rw [htext]
    rfl
  · rename_i htext
    rw [htext, Except.bind]
    dsimp only
    cases readTexts false _ <;> rfl

/-- The next item is read, and then those behind it. -/
theorem readTexts_step {first : Bool} {w : Text} {items : List Json} (ht : GoesOn first t u)
    (hvalue : Value (trimStart u) v w)
    (hrest : Reads (readTexts false w) (items.mapM text?) r) :
    Reads (readTexts first t) ((v :: items).mapM text?) r := by
  obtain ⟨c, x, hcons, hkind⟩ := hvalue.exists_eq_cons
  have hclose : c ≠ ']' := by
    rintro rfl
    cases hkind
  rw [mapM_text?_cons, readTexts_of_item (nextItem_of_goesOn ht hcons hclose)]
  rw [← trimStart_trimStart] at hvalue
  exact (readText_reads _ hvalue).bind fun s => hrest.map (s :: ·)

theorem readTexts_end {first : Bool} (hclose : trimStart t = ']' :: r) :
    readTexts first t = .ok ([], r) := by
  refine readTexts_of_end ?_
  simp only [nextItem, hclose]

/-- A list of strings is read item by item; the first item of another kind is
refused. -/
theorem readTexts_reads : ∀ {u : Text} {items : List Json} {r : Text}, Items u items r →
    ∀ {first : Bool} {t : Text}, GoesOn first t u →
      Reads (readTexts first t) (items.mapM text?) r
  | _, _, _, .last hvalue hclose, _, _, ht =>
    readTexts_step ht hvalue (readTexts_end hclose)
  | _, _, _, .more hvalue hcomma hrest, _, _, ht =>
    readTexts_step ht hvalue (readTexts_reads hrest hcomma)
termination_by structural _ _ _ h => h

theorem readTextList_reads (h : Value (trimStart t) v r) : Reads (readTextList t) v.texts? r := by
  obtain ⟨c, u, hcons, hkind⟩ := h.exists_eq_cons
  cases v with
  | array items =>
    obtain ⟨w, hopen, hitems⟩ := h.inversion
    simp only [readTextList, hopen, texts?]
    rcases hitems with ⟨rfl, hclose⟩ | hitems
    · exact readTexts_end hclose
    · exact readTexts_reads hitems rfl
  | _ =>
    have hrefused : readTextList t = .error (mismatch "a sequence".toList (c :: u)) := by
      unfold readTextList
      rw [hcons]
      split
      · rename_i heq
        cases heq
      · rename_i heq
        cases heq
        cases hkind
      · rfl
    exact ⟨_, hrefused⟩

end Values

end Config

/-! ### What members make of the settings -/

namespace Settings

/-- The settings with a value for a field, if it is of the field's kind. -/
def put? (s : Settings) (f : Field) (v : Json) : Option Settings :=
  match f with
  | .compiler => v.text?.map fun x => { s with compiler := some x }
  | .defaultOptions => v.texts?.map fun x => { s with defaultOptions := some x }
  | .scratchDir => v.text?.map fun x => { s with scratchDir := some x }
  | .scratchStem => v.text?.map fun x => { s with scratchStem := some x }

/-- The settings with a member: a field must still be open, and other names do nothing. -/
def putMember? (s : Settings) (k : Text) (v : Json) : Option Settings :=
  match Field.ofName? k with
  | none => some s
  | some f => if s.has f then none else s.put? f v

/-- The settings with the fields among these members, each given once. -/
def putAll? (s : Settings) : List (Text × Json) → Option Settings
  | [] => some s
  | (k, v) :: ms => (s.putMember? k v).bind fun s => s.putAll? ms

end Settings

namespace Config

open Json

section Members

variable {t u r : Text} {v : Json} {s : Settings}

theorem readField_reads (s : Settings) (f : Field) (h : Value (trimStart t) v r) :
    Reads (readField s f t) (s.put? f v) r := by
  cases f with
  | compiler => exact (readText_reads _ h).map fun x => { s with compiler := some x }
  | defaultOptions => exact (readTextList_reads h).map fun x => { s with defaultOptions := some x }
  | scratchDir => exact (readText_reads _ h).map fun x => { s with scratchDir := some x }
  | scratchStem => exact (readText_reads _ h).map fun x => { s with scratchStem := some x }

/-- A member is read from behind its key. -/
theorem readMember_reads (s : Settings) (k : Text) (hcolon : trimStart t = ':' :: u)
    (h : Value (trimStart u) v r) : Reads (readMember s k t) (s.putMember? k v) r := by
  simp only [readMember, Settings.putMember?, skipColon_eq hcolon]
  cases Field.ofName? k with
  | none => exact congrArg (Except.map (s, ·)) (skip_eq h)
  | some f =>
    dsimp only
    by_cases hhas : s.has f = true
    · rw [if_pos hhas, if_pos hhas]
      exact ⟨_, rfl⟩
    · rw [if_neg hhas, if_neg hhas]
      exact readField_reads s f h

theorem nextKey_of_goesOn {first : Bool} {q : Text} (h : GoesOn first t u)
    (hquote : trimStart u = '"' :: q) : nextKey first t = .ok (true, q) := by
  cases first with
  | true =>
    have htu : t = u := h
    rw [htu]
    simp [nextKey, hquote]
  | false =>
    have hcomma : trimStart t = ',' :: u := h
    simp [nextKey, hcomma, hquote]

theorem readMembers_of_end {first : Bool} (hnext : nextKey first t = .ok (false, r)) :
    readMembers s first t = .ok (s, r) := by
  rw [readMembers]
  split
  all_goals
    rename_i heq
    cases hnext.symm.trans heq
  rfl

theorem readMembers_of_key {first : Bool} {k : Text} (hnext : nextKey first t = .ok (true, u))
    (hkey : readString u = .ok (k, r)) :
    readMembers s first t = (readMember s k r).bind fun (s, w) => readMembers s false w := by
  rw [readMembers]
  split
  all_goals
    rename_i heq
    cases hnext.symm.trans heq
  split
  all_goals
    rename_i heq
    cases hkey.symm.trans heq
  split
  all_goals
    rename_i hmember
    rw [hmember]
    rfl

theorem readMembers_end {first : Bool} (hclose : trimStart t = '\x7d' :: r) :
    readMembers s first t = .ok (s, r) := by
  refine readMembers_of_end ?_
  simp only [nextKey, hclose]

/-- The next member is read into the settings or passed over, and then those
behind it are read. -/
theorem readMembers_step {first : Bool} {k w : Text} {ms : List (Text × Json)}
    (ht : GoesOn first t u) (hmember : Member u k v w)
    (hrest : ∀ s : Settings, Reads (readMembers s false w) (s.putAll? ms) r) :
    Reads (readMembers s first t) (s.putAll? ((k, v) :: ms)) r := by
  obtain ⟨hquote, hkey, hcolon, hvalue⟩ := hmember
  rw [readMembers_of_key (nextKey_of_goesOn ht hquote) hkey.readString_eq, Settings.putAll?]
  exact (readMember_reads s k hcolon hvalue).bind hrest

/-- The members of an object are read one by one. -/
theorem readMembers_reads : ∀ {u : Text} {ms : List (Text × Json)} {r : Text}, Members u ms r →
    ∀ {s : Settings} {first : Bool} {t : Text}, GoesOn first t u →
      Reads (readMembers s first t) (s.putAll? ms) r
  | _, _, _, .last hmember hclose, _, _, _, ht =>
    readMembers_step ht hmember fun _ => readMembers_end hclose
  | _, _, _, .more hmember hcomma hrest, _, _, _, ht =>
    readMembers_step ht hmember fun _ => readMembers_reads hrest hcomma
termination_by structural _ _ _ h => h

end Members

/-- What a document with an object means as a configuration, whatever its
layout. -/
theorem ofText_of_document {t : Text} {ms : List (Text × Json)} (h : Document t (.object ms)) :
    match Settings.putAll? {} ms with
    | some s => ofText t = .ok s.config
    | none => ∃ e, ofText t = .error e := by
  obtain ⟨r, hvalue, hend⟩ := h
  obtain ⟨u, hopen, hmembers⟩ := hvalue.inversion
  have hread : Reads (readSettings t) (Settings.putAll? {} ms) r := by
    simp only [readSettings, hopen]
    rcases hmembers with ⟨rfl, hclose⟩ | hmembers
    · exact readMembers_end hclose
    · exact readMembers_reads hmembers rfl
  cases hput : Settings.putAll? {} ms with
  | none =>
    rw [hput] at hread
    obtain ⟨e, he⟩ := hread
    exact ⟨e, by rw [ofText, he]; rfl⟩
  | some s =>
    rw [hput] at hread
    have hs : readSettings t = .ok (s, r) := hread
    simp only [ofText, hs, bind, Except.bind, hend]
    rfl

end Config

/-! ### Objects that hold a configuration -/

namespace Config

/-- The value of a field. -/
def value (c : Config) : Field → Json
  | .compiler => .string c.compiler
  | .defaultOptions => .array (c.defaultOptions.map .string)
  | .scratchDir => .string c.scratchDir
  | .scratchStem => .string c.scratchStem

/-- `base` with the given fields of `c`. -/
def overlay (base c : Config) (fields : List Field) : Config where
  compiler := if .compiler ∈ fields then c.compiler else base.compiler
  defaultOptions := if .defaultOptions ∈ fields then c.defaultOptions else base.defaultOptions
  scratchDir := if .scratchDir ∈ fields then c.scratchDir else base.scratchDir
  scratchStem := if .scratchStem ∈ fields then c.scratchStem else base.scratchStem

theorem overlay_of_forall_mem {base c : Config} {fields : List Field} (h : ∀ f, f ∈ fields) :
    base.overlay c fields = c := by
  simp only [overlay, h, ↓reduceIte]

/-- The members that have the name of a field are the given fields of `c`, each
once and in this order. Other members may stand anywhere among them. -/
structure Holds (c : Config) (fields : List Field) (ms : List (Text × Json)) : Prop where
  nodup : fields.Nodup
  fields_eq : ms.filter (fun m => (Field.ofName? m.1).isSome) =
    fields.map fun f => (f.name, c.value f)

end Config

namespace Settings

variable {s s' : Settings} {f g : Field} {c : Config} {fields : List Field}
  {ms : List (Text × Json)}

/-- The settings with the given fields of `c`. -/
def overlay (s : Settings) (c : Config) (fields : List Field) : Settings where
  compiler := if .compiler ∈ fields then some c.compiler else s.compiler
  defaultOptions := if .defaultOptions ∈ fields then some c.defaultOptions else s.defaultOptions
  scratchDir := if .scratchDir ∈ fields then some c.scratchDir else s.scratchDir
  scratchStem := if .scratchStem ∈ fields then some c.scratchStem else s.scratchStem

theorem overlay_nil (s : Settings) (c : Config) : s.overlay c [] = s := by
  simp [overlay]

theorem overlay_cons (s : Settings) (c : Config) (f : Field) (fields : List Field) :
    (s.overlay c [f]).overlay c fields = s.overlay c (f :: fields) := by
  cases f <;> simp [overlay]

theorem config_overlay (c : Config) (fields : List Field) :
    (Settings.overlay {} c fields).config = Config.standard.overlay c fields := by
  have hgetD {α : Type} (p : Prop) [Decidable p] (a b : α) :
      (if p then some a else none).getD b = if p then a else b := by
    split <;> rfl
  simp only [config, overlay, Config.overlay, hgetD]

/-- The settings have the field that was put and those that they had. -/
theorem has_of_put? {v : Json} (h : s.put? f v = some s') (g : Field) :
    s'.has g = (decide (g = f) || s.has g) := by
  cases f with
  | _ =>
    obtain ⟨x, -, rfl⟩ := Option.map_eq_some_iff.mp h
    cases g <;> simp [has]

/-- A field takes its own value. -/
theorem put?_value (s : Settings) (c : Config) (f : Field) :
    s.put? f (c.value f) = some (s.overlay c [f]) := by
  cases f with
  | defaultOptions =>
    rw [put?, Config.value, Json.texts?_map_string]
    simp [overlay]
  | _ => simp [put?, Config.value, Json.text?, overlay]

theorem putMember?_of_has (hs : s.has f = true) (v : Json) : s.putMember? f.name v = none := by
  rw [putMember?, Field.ofName?_name]
  exact if_pos hs

/-- A field that is open takes its own value. -/
theorem putMember?_value (hs : s.has f = false) (c : Config) :
    s.putMember? f.name (c.value f) = some (s.overlay c [f]) := by
  rw [putMember?, Field.ofName?_name]
  dsimp only
  rw [if_neg (by simp [hs]), put?_value]

/-- The settings have the field of the member, if it is one, and those that they had. -/
theorem has_of_putMember? {k : Text} {v : Json} (h : s.putMember? k v = some s') {g : Field}
    (hg : s.has g = true ∨ k = g.name) : s'.has g = true := by
  unfold putMember? at h
  cases hname : Field.ofName? k with
  | none =>
    rw [hname] at h
    cases h
    rcases hg with hg | rfl
    · exact hg
    · rw [Field.ofName?_name] at hname
      cases hname
  | some f =>
    rw [hname] at h
    dsimp only at h
    split at h
    · cases h
    · rw [has_of_put? h]
      rcases hg with hg | rfl
      · rw [hg, Bool.or_true]
      · rw [Field.ofName?_name, Option.some.injEq] at hname
        rw [decide_eq_true hname, Bool.true_or]

/-- The fields of `c` go into settings that have none of them. -/
theorem putAll?_of_holds (hs : ∀ f ∈ fields, s.has f = false) (h : c.Holds fields ms) :
    s.putAll? ms = some (s.overlay c fields) := by
  induction ms generalizing s fields with
  | nil =>
    have hnil : fields = [] := List.map_eq_nil_iff.mp h.fields_eq.symm
    rw [hnil, putAll?, overlay_nil]
  | cons m ms ih =>
    obtain ⟨k, v⟩ := m
    have hfields := h.fields_eq
    rw [putAll?]
    cases hname : Field.ofName? k with
    | none =>
      rw [List.filter_cons_of_neg (by simp [hname])] at hfields
      rw [putMember?, hname]
      exact ih hs ⟨h.nodup, hfields⟩
    | some f =>
      rw [List.filter_cons_of_pos (by simp [hname])] at hfields
      obtain ⟨f', fields, rfl, hmember, hrest⟩ := List.map_eq_cons_iff.mp hfields.symm
      cases hmember
      obtain ⟨hnotMem, hnodup⟩ := List.nodup_cons.mp h.nodup
      have hput := putMember?_value (hs f' List.mem_cons_self) c
      have hafter : ∀ g ∈ fields, (s.overlay c [f']).has g = false := by
        intro g hg
        have hne : g ≠ f' := by
          rintro rfl
          exact hnotMem hg
        rw [has_of_put? (s.put?_value c f'), hs g (List.mem_cons_of_mem _ hg),
          decide_eq_false hne]
        rfl
      rw [hput, Option.bind_some, ih hafter ⟨hnodup, hrest.symm⟩, overlay_cons]

/-- Members are refused behind a first one that no settings can hold them behind:
those that have what was there and the field of the first member. -/
theorem putAll?_cons_eq_none {k : Text} {v : Json}
    (h : ∀ s' : Settings, (∀ g, s.has g = true ∨ k = g.name → s'.has g = true) →
      s'.putAll? ms = none) : s.putAll? ((k, v) :: ms) = none := by
  rw [putAll?, Option.bind_eq_none_iff]
  intro s' hput
  exact h s' fun g hg => has_of_putMember? hput hg

/-- A field that the settings have is not put again. -/
theorem putAll?_eq_none_of_has (hs : s.has f = true) (hf : f.name ∈ ms.map Prod.fst) :
    s.putAll? ms = none := by
  induction ms generalizing s with
  | nil => cases hf
  | cons m ms ih =>
    obtain ⟨k, v⟩ := m
    rcases List.mem_cons.mp hf with hk | hbehind
    · simp only at hk
      rw [putAll?, ← hk, putMember?_of_has hs, Option.bind_none]
    · apply putAll?_cons_eq_none
      intro s' hs'
      exact ih (hs' f (.inl hs)) hbehind

/-- A field is not put twice. -/
theorem putAll?_eq_none_of_count (hf : 2 ≤ (ms.map Prod.fst).count f.name) :
    s.putAll? ms = none := by
  induction ms generalizing s with
  | nil => cases hf
  | cons m ms ih =>
    obtain ⟨k, v⟩ := m
    rw [List.map_cons, List.count_cons] at hf
    apply putAll?_cons_eq_none
    intro s' hs'
    by_cases hk : k = f.name
    · -- the field is here, and once more behind
      rw [if_pos (beq_iff_eq.mpr hk)] at hf
      exact putAll?_eq_none_of_has (hs' f (.inr hk)) (List.count_pos_iff.mp (by omega))
    · rw [if_neg (by simpa using hk)] at hf
      exact ih hf

end Settings

/-! ### Files -/

namespace Config

variable {files : FileSystem} {path : Path} {t : Text} {ms : List (Text × Json)}

/-- A file is read by what the members of its object make of the settings. -/
theorem load_of_document (hread : files.read path = .ok t.bytes)
    (h : Json.Document t (.object ms)) (whereabouts : Json.Whereabouts) :
    match Settings.putAll? {} ms with
    | some s => load files path whereabouts = .ok s.config
    | none => ∃ message, load files path whereabouts = .error (.config message) := by
  have htext : files.readText path = .ok t := by
    simp only [FileSystem.readText, hread, Text.ofBytes?_bytes]
  have hmeaning := ofText_of_document h
  cases hput : Settings.putAll? {} ms with
  | none =>
    rw [hput] at hmeaning
    obtain ⟨fault, hfault⟩ := hmeaning
    exact ⟨fault.message ++ whereabouts t, by simp only [load, htext, hfault]⟩
  | some s =>
    rw [hput] at hmeaning
    simp only [load, htext]
    rw [hmeaning]

/-- Either text of an object is read alike. The fields that it holds, in any
order and among any other members, take the place of the defaults, so that all
four give back the configuration; and whatever the values are, a field that
stands twice is refused. -/
theorem load_layout (hread : files.read path = .ok t.bytes) (ht : (Json.object ms).Prints t)
    (whereabouts : Json.Whereabouts) :
    (∀ c fields, c.Holds fields ms →
        load files path whereabouts = .ok (standard.overlay c fields) ∧
          ((∀ f, f ∈ fields) → load files path whereabouts = .ok c)) ∧
      ∀ f : Field, 2 ≤ (ms.map Prod.fst).count f.name →
        ∃ message, load files path whereabouts = .error (.config message) := by
  have hmeaning := load_of_document hread (ht.document_iff.mpr rfl) whereabouts
  constructor
  · intro c fields h
    rw [Settings.putAll?_of_holds (by intro f _; cases f <;> rfl) h] at hmeaning
    have hload : load files path whereabouts = .ok (standard.overlay c fields) := by
      rw [← Settings.config_overlay]
      exact hmeaning
    refine ⟨hload, ?_⟩
    intro hall
    rw [hload, overlay_of_forall_mem hall]
  · intro f hf
    rw [Settings.putAll?_eq_none_of_count hf] at hmeaning
    exact hmeaning

/-- A directory and a compiler, with a member between them that is passed over. -/
def sampleMembers : List (Text × Json) :=
  [("scratch_dir".toList, .string "a\\b".toList),
    ("compiler ".toList, .object [("compiler".toList, .array [.null, .nat 7])]),
    ("compiler".toList, .string "é\n".toList)]

/-- The file system in which a file holds these members. -/
def sampleFile (ms : List (Text × Json)) : FileSystem :=
  FileSystem.set {} ["c.json".toList] (.file (Json.object ms).pretty.bytes false)

theorem load_layout_sample :
    load (sampleFile sampleMembers) "c.json".toList =
        .ok { standard with compiler := "é\n".toList, scratchDir := "a\\b".toList } ∧
      ∃ message, load (sampleFile (("compiler".toList, .null) :: sampleMembers)) "c.json".toList =
        .error (.config message) := by
  have hread : ∀ ms, (sampleFile ms).read "c.json".toList = .ok (Json.object ms).pretty.bytes := by
    intro ms
    rfl
  have hholds : Holds { standard with compiler := "é\n".toList, scratchDir := "a\\b".toList }
      [.scratchDir, .compiler] sampleMembers := ⟨by decide, rfl⟩
  constructor
  · exact ((load_layout (hread _) (.inr rfl) .unsaid).1 _ _ hholds).1
  · exact (load_layout (hread _) (.inr rfl) .unsaid).2 .compiler (by decide)

end Config

end WatInlay
