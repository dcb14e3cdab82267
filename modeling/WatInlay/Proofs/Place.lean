/-
Where paths lead.

A path is followed name by name, and the last name that leads somewhere is that
of the place in the end (`FileSystem.getLast?_of_locate`). So paths with
different names never lead to one place, whatever directories there are
(`Path.apart_of_name?_ne`). The scratch files have names that end in `.wat` and
`.wasm`, and a source file the extension of its dialect: no two of the three
are ever the same file.
-/

import WatInlay.Config
import WatInlay.Dialect
import WatInlay.FileSystem
import WatInlay.Proofs.Text

namespace WatInlay

/-! ### Names of paths -/

namespace Path

/-- The name leads somewhere, if only upwards. -/
def leads (s : Text) : Bool :=
  s ≠ [] ∧ s ≠ ['.']

theorem leads_eq_false_iff {s : Text} : leads s = false ↔ s = [] ∨ s = ['.'] := by
  simp only [leads, decide_eq_false_iff_not, ne_eq, ← not_or, Decidable.not_not]

theorem components_eq (p : Path) : p.components = p.split.filter leads := rfl

theorem split_of_not_mem {w : Text} (hw : '/' ∉ w) : split w = [w] := by
  induction w with
  | nil => rfl
  | cons c w ih =>
    have hc : c ≠ '/' := fun h => hw (h ▸ List.mem_cons_self)
    rw [split, if_neg hc, ih fun h => hw (List.mem_cons_of_mem _ h)]

/-- What is written after a path without a slash continues its last piece. -/
theorem exists_split_append (p : Path) :
    ∃ pieces last, ∀ w, '/' ∉ w → split (p ++ w) = pieces ++ [last ++ w] := by
  induction p with
  | nil => exact ⟨[], [], fun w hw => split_of_not_mem hw⟩
  | cons c p ih =>
    obtain ⟨pieces, last, hsplit⟩ := ih
    by_cases hc : c = '/'
    · exact ⟨[] :: pieces, last, fun w hw => by simp [split, hc, hsplit w hw]⟩
    · cases pieces with
      | nil => exact ⟨[], c :: last, fun w hw => by simp [split, hc, hsplit w hw]⟩
      | cons piece pieces =>
        exact ⟨(c :: piece) :: pieces, last, fun w hw => by simp [split, hc, hsplit w hw]⟩

/-- A word at the end of a path does not make it absolute, unless it begins with
a slash. -/
theorem isAbsolute_append {w : Text} (hw : w.head? ≠ some '/') (p : Path) :
    IsAbsolute (p ++ w) = IsAbsolute p := by
  cases p with
  | nil => exact (decide_eq_false hw).trans (decide_eq_false (by simp)).symm
  | cons c p => rfl

/-- A name that ends in a word of three characters or more leads further down. -/
theorem leads_append {w : Text} (hlen : 2 < w.length) (last : Text) :
    leads (last ++ w) = true ∧ last ++ w ≠ ['.', '.'] := by
  have hlong : 2 < (last ++ w).length := by simp; omega
  constructor
  · rw [← Bool.not_eq_false, leads_eq_false_iff]
    rintro (h | h) <;> simp [h] at hlong
  · intro h
    simp [h] at hlong

/-- The name of a path that ends in a word of three characters or more, without
a slash, ends in that word. -/
theorem exists_name?_append {w : Text} (hw : '/' ∉ w) (hlen : 2 < w.length) (p : Path) :
    ∃ v, name? (p ++ w) = some (v ++ w) := by
  obtain ⟨pieces, last, hsplit⟩ := exists_split_append p
  obtain ⟨hleads, hup⟩ := leads_append hlen last
  refine ⟨last, ?_⟩
  rw [name?, components_eq, hsplit w hw, List.filter_append, List.filter_cons_of_pos hleads,
    List.filter_nil, List.getLast?_concat]
  exact if_neg hup

/-- A name that has an extension ends in it. -/
theorem eq_append_of_nameExtension? {name extension : Text}
    (h : nameExtension? name = some extension) : ∃ v, name = v ++ '.' :: extension := by
  unfold nameExtension? at h
  split at h
  · rename_i hdot
    cases h
    have hmem : '.' ∈ name.reverse := List.mem_reverse.mpr (List.mem_of_mem_drop hdot)
    obtain ⟨r, s, hsplit, hr⟩ := List.eq_append_cons_of_mem hmem
    have htake : name.reverse.takeWhile (· ≠ '.') = r := by
      have hall : ∀ c ∈ r, decide (c ≠ '.') = true :=
        fun c hc => decide_eq_true fun h => hr (h ▸ hc)
      rw [hsplit, List.takeWhile_append_of_pos hall]
      simp
    refine ⟨s.reverse, ?_⟩
    rw [htake, ← List.reverse_inj, hsplit]
    simp
  · cases h

/-- Texts that end alike end in the same character. -/
theorem getLast?_eq_of_append_eq {v v' w w' : Text} (hw : w ≠ []) (hw' : w' ≠ [])
    (h : v ++ w = v' ++ w') : w.getLast? = w'.getLast? := by
  have hlast := congrArg List.getLast? h
  rw [List.getLast?_append, List.getLast?_append] at hlast
  rw [List.getLast?_eq_some_getLast hw, List.getLast?_eq_some_getLast hw'] at hlast ⊢
  simpa only [Option.some_or] using hlast

end Path

/-! ### Places -/

namespace FileSystem

variable {fs : FileSystem} {place q : Place} {names : List Text}

/-- A walk over names that lead nowhere stays where it is. -/
theorem eq_of_walk (h : fs.walk place names = .ok q) (hblank : names.filter Path.leads = []) :
    q = place := by
  induction names with
  | nil =>
    cases h
    rfl
  | cons name names ih =>
    have hname : name = [] ∨ name = ['.'] := by
      rw [← Path.leads_eq_false_iff, ← Bool.not_eq_true]
      exact List.filter_eq_nil_iff.mp hblank name List.mem_cons_self
    have hrest : names.filter Path.leads = [] :=
      List.filter_eq_nil_iff.mpr fun s hs =>
        List.filter_eq_nil_iff.mp hblank s (List.mem_cons_of_mem _ hs)
    simp only [walk, hname, ↓reduceIte] at h
    split at h
    · cases h
    · cases h
    · exact ih h hrest

/-- A walk ends at a place that is called by the last name that leads somewhere. -/
theorem getLast?_of_walk {s : Text} (h : fs.walk place names = .ok q)
    (hlast : (names.filter Path.leads).getLast? = some s) (hup : s ≠ ['.', '.']) :
    q.getLast? = some s := by
  induction names generalizing place with
  | nil => cases hlast
  | cons name names ih =>
    rw [walk] at h
    split at h
    · cases h
    · cases h
    · split at h
      · rename_i hblank
        rw [List.filter_cons_of_neg (by simp [Path.leads_eq_false_iff.mpr hblank])] at hlast
        exact ih h hlast
      · rename_i hkept
        have hleads : Path.leads name = true := by
          rwa [← Bool.not_eq_false, Path.leads_eq_false_iff]
        rw [List.filter_cons_of_pos hleads, List.getLast?_cons] at hlast
        cases hrest : (names.filter Path.leads).getLast? with
        | some s' =>
          rw [hrest] at hlast
          cases hlast
          split at h
          · exact ih h hrest
          · split at h
            · cases h
            · exact ih h hrest
        | none =>
          rw [hrest, Option.getD_none] at hlast
          cases hlast
          rw [if_neg hup] at h
          split at h
          · cases h
          · rw [eq_of_walk h (List.getLast?_eq_none_iff.mp hrest), List.getLast?_concat]

/-- The place that a path leads to is called by the path's name. -/
theorem getLast?_of_locate {path : Path} {s : Text} (h : fs.locate path = .ok q)
    (hname : path.name? = some s) : q.getLast? = some s := by
  unfold locate at h
  split at h
  · cases h
  · unfold Path.name? at hname
    split at hname
    · rename_i s' hlast
      split at hname
      · cases hname
      · rename_i hup
        cases hname
        exact getLast?_of_walk h hlast hup
    · cases hname

/-- A walk is made in two parts at any name. -/
theorem walk_append (names names' : List Text) :
    fs.walk place (names ++ names') = (fs.walk place names).bind (fs.walk · names') := by
  induction names generalizing place with
  | nil => rfl
  | cons name names ih =>
    rw [List.cons_append, walk, walk]
    cases fs.node? place with
    | none => rfl
    | some node =>
      cases node with
      | file contents executable => rfl
      | folder =>
        simp only [ih]
        split
        · rfl
        · split
          · rfl
          · split <;> rfl

/-- One name leads into a directory, however the directory is called. -/
theorem walk_singleton_eq_ok_iff {name : Text} (hleads : Path.leads name = true)
    (hup : name ≠ ['.', '.']) :
    fs.walk place [name] = .ok q ↔
      fs.node? place = some .folder ∧ name.size ≤ nameLimit ∧ q = place ++ [name] := by
  have hblank : ¬ (name = [] ∨ name = ['.']) := by
    rw [← Path.leads_eq_false_iff, hleads]
    simp
  rw [walk]
  split
  · simp_all
  · simp_all
  · rename_i hfolder
    simp only [hblank, hup, hfolder, ↓reduceIte, walk, true_and]
    split
    · simp only [reduceCtorEq, false_iff]
      omega
    · rename_i hfits
      rw [Except.ok.injEq, eq_comm]
      simp only [Nat.not_lt.mp hfits, true_and]

theorem pathFault?_eq_none_iff {path : Path} :
    pathFault? path = none ↔ '\x00' ∉ path ∧ path ≠ [] ∧ path.size < pathLimit := by
  unfold pathFault?
  split
  · simp_all
  · split
    · simp_all
    · split <;> simp_all

theorem locate_eq_ok_iff {path : Path} :
    fs.locate path = .ok q ↔ pathFault? path = none ∧ fs.follow path = .ok q := by
  unfold locate
  cases pathFault? path <;> simp

/-- Where a path leads that ends in one word, there is also a place for it with
another word that is no longer. -/
theorem exists_locate_append {p : Path} {w w' : Text} (hw : '/' ∉ w) (hlen : 2 < w.length)
    (hw' : '/' ∉ w') (hlen' : 2 < w'.length) (hnul : '\x00' ∉ w') (hsize : w'.size ≤ w.size)
    (h : fs.locate (p ++ w) = .ok q) : ∃ q', fs.locate (p ++ w') = .ok q' := by
  obtain ⟨hfault, hfollow⟩ := locate_eq_ok_iff.mp h
  have hfault' : pathFault? (p ++ w') = none := by
    obtain ⟨hclean, -, hfits⟩ := pathFault?_eq_none_iff.mp hfault
    refine pathFault?_eq_none_iff.mpr ⟨?_, ?_, ?_⟩
    · intro hmem
      rcases List.mem_append.mp hmem with hp | hw
      · exact hclean (List.mem_append_left _ hp)
      · exact hnul hw
    · intro hnil
      rw [(List.append_eq_nil_iff.mp hnil).2] at hlen'
      cases hlen'
    · rw [Text.size_append] at hfits ⊢
      omega
  obtain ⟨pieces, last, hsplit⟩ := Path.exists_split_append p
  obtain ⟨hleads, hup⟩ := Path.leads_append hlen last
  obtain ⟨hleads', hup'⟩ := Path.leads_append hlen' last
  have hhead : ∀ {v : Text}, '/' ∉ v → v.head? ≠ some '/' := fun hv h => hv (List.mem_of_head? h)
  unfold follow at hfollow
  rw [hsplit w hw, walk_append, Path.isAbsolute_append (hhead hw)] at hfollow
  cases hdir : fs.walk (if Path.IsAbsolute p then [] else fs.here) pieces with
  | error e =>
    rw [hdir] at hfollow
    cases hfollow
  | ok dir =>
    rw [hdir] at hfollow
    obtain ⟨hfolder, hname, -⟩ := (walk_singleton_eq_ok_iff hleads hup).mp hfollow
    refine ⟨dir ++ [last ++ w'], locate_eq_ok_iff.mpr ⟨hfault', ?_⟩⟩
    unfold follow
    rw [hsplit w' hw', walk_append, Path.isAbsolute_append (hhead hw'), hdir]
    refine (walk_singleton_eq_ok_iff hleads' hup').mpr ⟨hfolder, ?_, rfl⟩
    rw [Text.size_append] at hname ⊢
    omega

end FileSystem

/-! ### Paths that never meet -/

namespace Path

/-- The two paths never lead to the same place. -/
def Apart (p q : Path) : Prop :=
  ∀ (fs : FileSystem) (place : Place), fs.locate p = .ok place → fs.locate q ≠ .ok place

theorem apart_of_name?_ne {p q : Path} {s s' : Text} (hp : p.name? = some s)
    (hq : q.name? = some s') (hne : s ≠ s') : p.Apart q := by
  intro fs place hplace hplace'
  have hs := FileSystem.getLast?_of_locate hplace hp
  have hs' := FileSystem.getLast?_of_locate hplace' hq
  rw [hs] at hs'
  exact hne (Option.some.inj hs')

/-- A word at the end of a path makes no difference to what it is joined to,
unless it begins with a slash. -/
theorem join_append {w : Text} (hw : w.head? ≠ some '/') (dir p : Path) :
    join dir (p ++ w) = join dir p ++ w := by
  unfold join
  rw [isAbsolute_append hw]
  split
  · rfl
  · split <;> simp

end Path

/-! ### Scratch files and source files -/

namespace Config

variable (config : Config)

/-- The path of the scratch files without their extensions. -/
def scratch : Path :=
  Path.join config.scratchDir config.scratchStem

theorem unit_eq : config.unit = config.scratch ++ ".wat".toList :=
  Path.join_append (by decide) _ _

theorem binary_eq : config.binary = config.scratch ++ ".wasm".toList :=
  Path.join_append (by decide) _ _

theorem exists_name?_unit : ∃ v, config.unit.name? = some (v ++ ".wat".toList) := by
  rw [unit_eq]
  exact Path.exists_name?_append (by decide) (by decide) _

theorem exists_name?_binary : ∃ v, config.binary.name? = some (v ++ ".wasm".toList) := by
  rw [binary_eq]
  exact Path.exists_name?_append (by decide) (by decide) _

/-- The path is that of one of the two scratch files. -/
def IsScratch (p : Path) : Prop :=
  p = config.unit ∨ p = config.binary

/-- The two scratch files are never the same file. -/
theorem unit_apart_binary : config.unit.Apart config.binary := by
  obtain ⟨v, hv⟩ := config.exists_name?_unit
  obtain ⟨w, hw⟩ := config.exists_name?_binary
  refine Path.apart_of_name?_ne hv hw fun h => ?_
  have hlast := Path.getLast?_eq_of_append_eq (by decide) (by decide) h
  exact absurd hlast (by decide)

/-- Where the scratch binary has a place, so has the scratch unit. -/
theorem exists_locate_unit {fs : FileSystem} {q : Place} (h : fs.locate config.binary = .ok q) :
    ∃ q', fs.locate config.unit = .ok q' := by
  rw [binary_eq] at h
  rw [unit_eq]
  exact FileSystem.exists_locate_append (by decide) (by decide) (by decide) (by decide)
    (by decide) (by decide) h

/-- The path of the scratch unit does not end in a slash. -/
theorem unslashed?_unit : Path.unslashed? config.unit = none := by
  rw [unit_eq]
  simp [Path.unslashed?, Text.dropEndWhile]

end Config

namespace Dialect

variable {path : Path} {d : Dialect}

/-- The name of a source file ends in the extension of its dialect. -/
theorem exists_name?_of_ofPath (hd : ofPath path = .ok d) :
    d ∈ all ∧ ∃ v, path.name? = some (v ++ '.' :: d.extension) := by
  unfold ofPath at hd
  dsimp only at hd
  split at hd
  · rename_i found hfound
    cases hd
    have hmem := List.mem_of_find?_eq_some hfound
    have hextension : d.extension = path.extension?.getD [] := by
      simpa using List.find?_some hfound
    refine ⟨hmem, ?_⟩
    cases hpath : path.extension? with
    | none =>
      rw [hpath] at hextension
      simp only [all, List.mem_cons, List.not_mem_nil, or_false] at hmem
      rcases hmem with rfl | rfl <;> exact absurd hextension (by decide)
    | some extension =>
      rw [hpath] at hextension
      obtain ⟨name, hname, hext⟩ := Option.bind_eq_some_iff.mp hpath
      obtain ⟨v, rfl⟩ := Path.eq_append_of_nameExtension? hext
      exact ⟨v, by rw [hname, hextension]; rfl⟩
  · cases hd

/-- A source file is called otherwise than all files whose names do not end like
the extensions of the dialects. -/
theorem name?_ne_of_ends (hd : ofPath path = .ok d) {p : Path} {v w : Text}
    (hp : p.name? = some (v ++ w)) (hw : w ≠ [])
    (hends : ∀ d ∈ all, ('.' :: d.extension).getLast? ≠ w.getLast?) :
    ∃ s s', path.name? = some s ∧ p.name? = some s' ∧ s ≠ s' := by
  obtain ⟨hmem, u, hname⟩ := exists_name?_of_ofPath hd
  refine ⟨_, _, hname, hp, fun h => ?_⟩
  exact hends d hmem (Path.getLast?_eq_of_append_eq (List.cons_ne_nil _ _) hw h)

theorem name?_ne_of_isScratch (hd : ofPath path = .ok d) {config : Config} {p : Path}
    (hp : config.IsScratch p) :
    ∃ s s', path.name? = some s ∧ p.name? = some s' ∧ s ≠ s' := by
  rcases hp with rfl | rfl
  · obtain ⟨v, hv⟩ := config.exists_name?_unit
    exact name?_ne_of_ends hd hv (by decide) (by decide)
  · obtain ⟨v, hv⟩ := config.exists_name?_binary
    exact name?_ne_of_ends hd hv (by decide) (by decide)

theorem ne_of_isScratch (hd : ofPath path = .ok d) {config : Config} {p : Path}
    (hp : config.IsScratch p) : p ≠ path := by
  rintro rfl
  obtain ⟨s, s', hs, hs', hne⟩ := name?_ne_of_isScratch hd hp
  exact hne (Option.some.inj (hs.symm.trans hs'))

/-- A source file is never a scratch file. -/
theorem apart_of_isScratch (hd : ofPath path = .ok d) {config : Config} {p : Path}
    (hp : config.IsScratch p) : path.Apart p := by
  obtain ⟨s, s', hs, hs', hne⟩ := name?_ne_of_isScratch hd hp
  exact Path.apart_of_name?_ne hs hs' hne

end Dialect

end WatInlay
