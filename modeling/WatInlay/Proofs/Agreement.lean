/-
File systems that agree but for some places.

Whether a path leads somewhere depends only on where there are directories. So
file systems that differ at some places, none of which holds a directory in
either, lead all paths to the same places (`AgreeBut.locate_eq_ok_iff`), and
what a path finds elsewhere is the same (`AgreeBut.find?_eq`). Writing and
removing a file make such a difference, at the one place that the path leads to
(`agreeBut_of_write`, `agreeBut_of_remove`). Done in both, they take a difference
at that place away (`AgreeBut.write`, `AgreeBut.without`).
-/

import WatInlay.Proofs.Place
import WatInlay.Session

namespace WatInlay

namespace FileSystem

/-! ### What stands at places -/

theorem node?_of_ne_nil {fs : FileSystem} {place : Place} (h : place ≠ []) :
    fs.node? place = fs.nodes[place]? :=
  if_neg h

theorem ne_nil_of_node?_ne_folder {fs : FileSystem} {place : Place}
    (h : fs.node? place ≠ some .folder) : place ≠ [] := by
  rintro rfl
  exact h rfl

theorem node?_congr {a b : FileSystem} {place : Place}
    (h : a.nodes[place]? = b.nodes[place]?) : a.node? place = b.node? place := by
  unfold node?
  rw [h]

theorem find?_of_locate {fs : FileSystem} {path : Path} {place : Place}
    (h : fs.locate path = .ok place) : fs.find? path = fs.node? place := by
  unfold find?
  rw [h]

/-- What is found is at the place that the path leads to. -/
theorem find?_eq_some_iff {fs : FileSystem} {path : Path} {node : Node} :
    fs.find? path = some node ↔
      ∃ place, fs.locate path = .ok place ∧ fs.node? place = some node := by
  unfold find?
  cases fs.locate path <;> simp

theorem find?_eq_none_of_locate {fs : FileSystem} {path : Path}
    (h : ∀ place, fs.locate path ≠ .ok place) : fs.find? path = none := by
  unfold find?
  cases hplace : fs.locate path with
  | ok place => exact absurd hplace (h place)
  | error e => rfl

theorem exists?_of_find? {fs : FileSystem} {path : Path} {found : Option Node}
    (h : fs.find? path = found) : fs.exists? path = found.isSome := by
  unfold exists?
  rw [h]

/-- File systems that hold the same everywhere are equal. -/
theorem eq_of_nodes {a b : FileSystem} (here : a.here = b.here)
    (nodes : ∀ place : Place, a.nodes[place]? = b.nodes[place]?) : a = b := by
  obtain ⟨nodesA, hereA⟩ := a
  obtain ⟨nodesB, hereB⟩ := b
  have hnodes : nodesA = nodesB := Std.ExtTreeMap.ext_getElem? nodes
  cases here
  cases hnodes
  rfl

/-! ### Agreement -/

/-- The two file systems hold the same, but perhaps at places in `S`, and there
neither holds a directory. -/
structure AgreeBut (S : Place → Prop) (a b : FileSystem) : Prop where
  here : a.here = b.here
  nodes : ∀ place, a.nodes[place]? = b.nodes[place]? ∨
    S place ∧ a.node? place ≠ some .folder ∧ b.node? place ≠ some .folder

namespace AgreeBut

variable {S T : Place → Prop} {a b c : FileSystem} {place q : Place} {path : Path}

theorem refl (S : Place → Prop) (a : FileSystem) : AgreeBut S a a where
  here := rfl
  nodes _ := .inl rfl

/-- What differs at one place agrees but for that place. -/
theorem of_place (here : a.here = b.here) (hplace : S place) (ha : a.node? place ≠ some .folder)
    (hb : b.node? place ≠ some .folder)
    (hrest : ∀ q, place ≠ q → a.nodes[q]? = b.nodes[q]?) : AgreeBut S a b where
  here := here
  nodes q := by
    by_cases hq : place = q
    · exact .inr (hq ▸ ⟨hplace, ha, hb⟩)
    · exact .inl (hrest q hq)

/-- Agreement but for no place at all is equality. -/
theorem eq (h : AgreeBut S a b) (hS : ∀ place, ¬ S place) : a = b := by
  refine eq_of_nodes h.here fun place => ?_
  rcases h.nodes place with heq | ⟨hplace, -, -⟩
  · exact heq
  · exact absurd hplace (hS place)

/-- Both hold the same at a place outside. -/
theorem node?_eq (h : AgreeBut S a b) (hplace : ¬ S place) : a.node? place = b.node? place := by
  rcases h.nodes place with heq | ⟨hS, -, -⟩
  · exact node?_congr heq
  · exact absurd hS hplace

/-- Both have their directories at the same places. -/
theorem node?_eq_folder_iff (h : AgreeBut S a b) :
    a.node? place = some .folder ↔ b.node? place = some .folder := by
  rcases h.nodes place with heq | ⟨-, ha, hb⟩
  · rw [node?_congr heq]
  · exact iff_of_false ha hb

/-- A walk is possible in both or in neither, and leads to the same place. -/
theorem walk_eq_ok_iff (h : AgreeBut S a b) {names : List Text} :
    a.walk place names = .ok q ↔ b.walk place names = .ok q := by
  induction names generalizing place with
  | nil => rfl
  | cons name names ih =>
    rw [walk, walk]
    by_cases hfolder : a.node? place = some .folder
    · simp only [hfolder, h.node?_eq_folder_iff.mp hfolder]
      split
      · exact ih
      · split
        · exact ih
        · split
          · rfl
          · exact ih
    · have hfolder' : b.node? place ≠ some .folder := mt h.node?_eq_folder_iff.mpr hfolder
      cases ha : a.node? place with
      | none =>
        cases hb : b.node? place with
        | none => rfl
        | some node => cases node <;> simp_all
      | some node =>
        cases hb : b.node? place with
        | none => cases node <;> simp_all
        | some node' => cases node <;> cases node' <;> simp_all

/-- A path leads to the same place in both, or to none in either. -/
theorem locate_eq_ok_iff (h : AgreeBut S a b) : a.locate path = .ok q ↔ b.locate path = .ok q := by
  unfold locate follow
  rw [h.here]
  split
  · rfl
  · exact h.walk_eq_ok_iff

/-- A path that leads to no place of the difference finds the same in both. -/
theorem find?_eq (h : AgreeBut S a b) (hout : ∀ q, a.locate path = .ok q → ¬ S q) :
    a.find? path = b.find? path := by
  refine Option.ext fun node => ?_
  rw [find?_eq_some_iff, find?_eq_some_iff]
  constructor
  · rintro ⟨q, hq, hnode⟩
    exact ⟨q, h.locate_eq_ok_iff.mp hq, h.node?_eq (hout q hq) ▸ hnode⟩
  · rintro ⟨q, hq, hnode⟩
    have hq' := h.locate_eq_ok_iff.mpr hq
    exact ⟨q, hq', (h.node?_eq (hout q hq')).trans hnode⟩

/-- A path leads to a directory in both or in neither. -/
theorem find?_eq_folder_iff (h : AgreeBut S a b) :
    a.find? path = some .folder ↔ b.find? path = some .folder := by
  rw [find?_eq_some_iff, find?_eq_some_iff]
  simp only [h.locate_eq_ok_iff, h.node?_eq_folder_iff]

/-- A file that is there and at no place of the difference reads the same. -/
theorem readText_eq (h : AgreeBut S a b) (hexists : a.exists? path = true)
    (hout : ∀ q, a.locate path = .ok q → ¬ S q) : a.readText path = b.readText path := by
  obtain ⟨node, hfound⟩ := Option.isSome_iff_exists.mp hexists
  obtain ⟨q, hplace, -⟩ := find?_eq_some_iff.mp hfound
  unfold readText read
  rw [hplace, h.locate_eq_ok_iff.mp hplace]
  simp only [h.node?_eq (hout q hplace)]

theorem mono (h : AgreeBut S a b) (hsub : ∀ q, S q → T q) : AgreeBut T a b where
  here := h.here
  nodes q := by
    rcases h.nodes q with heq | ⟨hS, hnodes⟩
    · exact .inl heq
    · exact .inr ⟨hsub q hS, hnodes⟩

/-- A path at which there is a directory makes no difference. -/
theorem of_folder (h : AgreeBut (fun q => a.locate path = .ok q ∨ T q) a b)
    (hfolder : a.find? path = some .folder) : AgreeBut T a b where
  here := h.here
  nodes q := by
    rcases h.nodes q with heq | ⟨hplace | hT, hnodes⟩
    · exact .inl heq
    · rw [find?_of_locate hplace] at hfolder
      exact absurd hfolder hnodes.1
    · exact .inr ⟨hT, hnodes⟩

/-- A path at which there is a directory cannot be the only difference. -/
theorem eq_of_folder (h : AgreeBut (a.locate path = .ok ·) a b)
    (hfolder : a.find? path = some .folder) : a = b :=
  ((h.mono fun _ => Or.inl (b := False)).of_folder hfolder).eq fun _ => id

/-- What is made the same at one place of the difference in both no longer
differs there. -/
theorem level {a' b' : FileSystem} (h : AgreeBut (fun q => q = place ∨ T q) a b)
    (here : a'.here = a.here) (here' : b'.here = b.here)
    (hplace : a'.nodes[place]? = b'.nodes[place]?)
    (hrest : ∀ q, place ≠ q → a'.nodes[q]? = a.nodes[q]?)
    (hrest' : ∀ q, place ≠ q → b'.nodes[q]? = b.nodes[q]?) : AgreeBut T a' b' where
  here := here.trans (h.here.trans here'.symm)
  nodes q := by
    by_cases hq : place = q
    · exact .inl (hq ▸ hplace)
    · rw [hrest q hq, hrest' q hq, node?_congr (hrest q hq), node?_congr (hrest' q hq)]
      rcases h.nodes q with heq | ⟨hwhere | hT, hnodes⟩
      · exact .inl heq
      · exact absurd hwhere.symm hq
      · exact .inr ⟨hT, hnodes⟩

/-- The difference at a path is the one at the place where it leads. -/
theorem at_place (h : AgreeBut (fun q => a.locate path = .ok q ∨ T q) a b)
    (hplace : a.locate path = .ok place) : AgreeBut (fun q => q = place ∨ T q) a b :=
  h.mono fun _ => Or.imp_left fun hq => Except.ok.inj (hq.symm.trans hplace)

end AgreeBut

/-! ### Writing -/

variable {fs fs' : FileSystem} {path : Path} {contents : Bytes}

/-- The file there can be executed; what does not exist cannot. -/
def executable (fs : FileSystem) (place : Place) : Bool :=
  match fs.node? place with
  | some (.file _ executable) => executable
  | _ => false

theorem locate_of_locateForWriting {place : Place} (h : fs.locateForWriting path = .ok place) :
    fs.locate path = .ok place := by
  unfold locateForWriting at h
  unfold locate
  split at h
  · cases h
  · rename_i hfault _
    rw [hfault]
    exact h
  · split at h <;> cases h

theorem locateForWriting_eq_locate (h : Path.unslashed? path = none) :
    fs.locateForWriting path = fs.locate path := by
  unfold locateForWriting locate
  rw [h]
  cases pathFault? path <;> rfl

theorem getElem?_nodes_set (fs : FileSystem) (place q : Place) (node : Node) :
    (fs.set place node).nodes[q]? = if place = q then some node else fs.nodes[q]? := by
  rw [set, Std.ExtTreeMap.getElem?_insert]
  simp only [Std.compare_eq_iff_eq]

theorem node?_set {place : Place} (hplace : place ≠ []) (node : Node) (q : Place) :
    (fs.set place node).node? q = if place = q then some node else fs.node? q := by
  unfold node?
  rw [getElem?_nodes_set]
  split
  · rename_i hq
    rw [if_neg (hq ▸ hplace)]
  · rfl

/-- A file is written where the path leads to, unless that is a directory, and
keeps its permission. -/
theorem write_eq_ok_iff :
    fs.write path contents = .ok fs' ↔
      ∃ place, fs.locateForWriting path = .ok place ∧ fs.node? place ≠ some .folder ∧
        fs' = fs.set place (.file contents (fs.executable place)) := by
  unfold write
  cases hplace : fs.locateForWriting path with
  | error e => simp
  | ok place =>
    by_cases hfolder : fs.node? place = some .folder
    · simp [hfolder]
    · simp only [Except.ok.injEq, exists_eq_left', ne_eq, hfolder, not_false_eq_true, true_and]
      cases hold : fs.node? place with
      | none => simp [executable, hold, eq_comm]
      | some node =>
        cases node with
        | folder => exact absurd hold hfolder
        | file old executable' => simp [executable, hold, eq_comm]

/-- A file that is there can be written. -/
theorem exists_write_eq_ok {old : Bytes} {executable : Bool} (hpath : Path.unslashed? path = none)
    (hfile : fs.find? path = some (.file old executable)) (contents : Bytes) :
    ∃ fs', fs.write path contents = .ok fs' := by
  obtain ⟨place, hplace, hnode⟩ := find?_eq_some_iff.mp hfile
  refine ⟨_, write_eq_ok_iff.mpr ⟨place, ?_, ?_, rfl⟩⟩
  · rw [locateForWriting_eq_locate hpath, hplace]
  · rw [hnode]
    simp

/-- Writing a file changes nothing but that file. -/
theorem agreeBut_of_write (h : fs.write path contents = .ok fs') :
    AgreeBut (fs.locate path = .ok ·) fs fs' := by
  obtain ⟨place, hplace, hfolder, rfl⟩ := write_eq_ok_iff.mp h
  have hroot := ne_nil_of_node?_ne_folder hfolder
  refine .of_place rfl (locate_of_locateForWriting hplace) hfolder ?_ fun q hq => ?_
  · rw [node?_set hroot, if_pos rfl]
    simp
  · rw [getElem?_nodes_set, if_neg hq]

/-- A file reads as it was written. -/
theorem read_of_write (h : fs.write path contents = .ok fs') : fs'.read path = .ok contents := by
  have hagree := agreeBut_of_write h
  obtain ⟨place, hplace, hfolder, rfl⟩ := write_eq_ok_iff.mp h
  have hlocate := hagree.locate_eq_ok_iff.mp (locate_of_locateForWriting hplace)
  unfold read
  rw [hlocate]
  simp only [node?_of_ne_nil (ne_nil_of_node?_ne_folder hfolder), getElem?_nodes_set, ↓reduceIte]

theorem write_of_locate_eq_error {e : IoFault} (hpath : Path.unslashed? path = none)
    (h : fs.locate path = .error e) (contents : Bytes) : fs.write path contents = .error e := by
  unfold write
  rw [locateForWriting_eq_locate hpath, h]

theorem write_of_find?_eq_folder (hpath : Path.unslashed? path = none)
    (hfolder : fs.find? path = some .folder) (contents : Bytes) :
    fs.write path contents = .error (.system .isDirectory) := by
  obtain ⟨place, hplace, hnode⟩ := find?_eq_some_iff.mp hfolder
  unfold write
  rw [locateForWriting_eq_locate hpath, hplace]
  simp only [hnode]

/-- Two file systems in which a path leads somewhere, but to no directory, have
the same there when it was written in both. -/
theorem AgreeBut.write {a b : FileSystem} {T : Place → Prop} {place : Place}
    (h : AgreeBut (fun q => a.locate path = .ok q ∨ T q) a b)
    (hpath : Path.unslashed? path = none) (hplace : a.locate path = .ok place)
    (hfolder : a.find? path ≠ some .folder)
    (hexecutable : a.executable place = b.executable place) (contents : Bytes) :
    ∃ a' b', a.write path contents = .ok a' ∧ b.write path contents = .ok b' ∧
      AgreeBut T a' b' := by
  have hplace' := h.locate_eq_ok_iff.mp hplace
  rw [find?_of_locate hplace] at hfolder
  have hwrite : a.write path contents = .ok (a.set place (.file contents (a.executable place))) :=
    write_eq_ok_iff.mpr ⟨place, (locateForWriting_eq_locate hpath).trans hplace, hfolder, rfl⟩
  have hwrite' : b.write path contents = .ok (b.set place (.file contents (b.executable place))) :=
    write_eq_ok_iff.mpr ⟨place, (locateForWriting_eq_locate hpath).trans hplace',
      mt h.node?_eq_folder_iff.mpr hfolder, rfl⟩
  refine ⟨_, _, hwrite, hwrite', (h.at_place hplace).level rfl rfl ?_ ?_ ?_⟩
  · rw [hexecutable, getElem?_nodes_set, getElem?_nodes_set, if_pos rfl, if_pos rfl]
  · intro q hq
    rw [getElem?_nodes_set, if_neg hq]
  · intro q hq
    rw [getElem?_nodes_set, if_neg hq]

/-! ### Removing -/

/-- A file is removed where the path leads to. -/
theorem remove_eq_ok_iff :
    fs.remove path = .ok fs' ↔
      ∃ place node, fs.locate path = .ok place ∧ fs.node? place = some node ∧ node ≠ .folder ∧
        fs' = { fs with nodes := fs.nodes.erase place } := by
  unfold remove
  cases hplace : fs.locate path with
  | error e => simp
  | ok place =>
    cases hold : fs.node? place with
    | none => simp [hold]
    | some node => cases node <;> simp [hold, eq_comm]

theorem remove_of_find?_eq_folder (h : fs.find? path = some .folder) :
    fs.remove path = .error (.system .isDirectory) := by
  obtain ⟨place, hplace, hnode⟩ := find?_eq_some_iff.mp h
  unfold remove
  rw [hplace]
  simp only [hnode]

theorem here_of_remove (h : fs.remove path = .ok fs') : fs'.here = fs.here := by
  obtain ⟨place, node, -, -, -, rfl⟩ := remove_eq_ok_iff.mp h
  rfl

theorem getElem?_nodes_of_remove {place : Place} (h : fs.remove path = .ok fs')
    (hplace : fs.locate path = .ok place) (q : Place) :
    fs'.nodes[q]? = if place = q then none else fs.nodes[q]? := by
  obtain ⟨place', node, hplace', -, -, rfl⟩ := remove_eq_ok_iff.mp h
  cases hplace.symm.trans hplace'
  rw [Std.ExtTreeMap.getElem?_erase]
  simp only [Std.compare_eq_iff_eq]

/-- Removing a file changes nothing but that file. -/
theorem agreeBut_of_remove (h : fs.remove path = .ok fs') :
    AgreeBut (fs.locate path = .ok ·) fs fs' := by
  obtain ⟨place, node, hplace, hnode, hfile, -⟩ := remove_eq_ok_iff.mp h
  have hfolder : fs.node? place ≠ some .folder := by
    rw [hnode]
    exact fun heq => hfile (Option.some.inj heq)
  refine .of_place (here_of_remove h).symm hplace hfolder ?_ fun q hq => ?_
  · rw [node?_of_ne_nil (ne_nil_of_node?_ne_folder hfolder), getElem?_nodes_of_remove h hplace,
      if_pos rfl]
    simp
  · rw [getElem?_nodes_of_remove h hplace, if_neg hq]

/-- The file system without the file at a path, if it can be removed. -/
def without (fs : FileSystem) (path : Path) : FileSystem :=
  match fs.remove path with
  | .ok fs' => fs'
  | .error _ => fs

theorem without_of_remove_eq_ok (h : fs.remove path = .ok fs') : fs.without path = fs' := by
  unfold without
  rw [h]

theorem without_of_remove_eq_error {e : IoFault} (h : fs.remove path = .error e) :
    fs.without path = fs := by
  unfold without
  rw [h]

theorem without_of_find?_eq_none (h : fs.find? path = none) : fs.without path = fs := by
  cases hremove : fs.remove path with
  | error e => exact without_of_remove_eq_error hremove
  | ok fs' =>
    obtain ⟨place, node, hplace, hnode, -⟩ := remove_eq_ok_iff.mp hremove
    rw [find?_of_locate hplace, hnode] at h
    cases h

theorem here_without (fs : FileSystem) (path : Path) : (fs.without path).here = fs.here := by
  unfold without
  split
  · rename_i hremove
    exact here_of_remove hremove
  · rfl

/-- Without what is no directory there is nothing at its place. -/
theorem getElem?_nodes_without {place : Place} (hplace : fs.locate path = .ok place)
    (hfolder : fs.node? place ≠ some .folder) (q : Place) :
    (fs.without path).nodes[q]? = if place = q then none else fs.nodes[q]? := by
  cases hnode : fs.node? place with
  | none =>
    rw [without_of_find?_eq_none ((find?_of_locate hplace).trans hnode)]
    split
    · rename_i hq
      rw [← hq, ← node?_of_ne_nil (ne_nil_of_node?_ne_folder hfolder), hnode]
    · rfl
  | some node =>
    have hfile : node ≠ .folder := fun heq => hfolder (heq ▸ hnode)
    have hremove := remove_eq_ok_iff.mpr ⟨place, node, hplace, hnode, hfile, rfl⟩
    rw [without_of_remove_eq_ok hremove]
    exact getElem?_nodes_of_remove hremove hplace q

/-- Leaving a file out changes nothing but that file. -/
theorem agreeBut_without (fs : FileSystem) (path : Path) :
    AgreeBut (fs.locate path = .ok ·) fs (fs.without path) := by
  cases hremove : fs.remove path with
  | ok fs' =>
    rw [without_of_remove_eq_ok hremove]
    exact agreeBut_of_remove hremove
  | error e =>
    rw [without_of_remove_eq_error hremove]
    exact .refl _ _

/-- Two file systems without the same file do not differ at its place. -/
theorem AgreeBut.without {a b : FileSystem} {T : Place → Prop}
    (h : AgreeBut (fun q => a.locate path = .ok q ∨ T q) a b) :
    AgreeBut T (a.without path) (b.without path) := by
  by_cases hfolder : a.find? path = some .folder
  · have hfolder' := h.find?_eq_folder_iff.mp hfolder
    rw [without_of_remove_eq_error (remove_of_find?_eq_folder hfolder),
      without_of_remove_eq_error (remove_of_find?_eq_folder hfolder')]
    exact h.of_folder hfolder
  · cases hplace : a.locate path with
    | ok place =>
      have hplace' := h.locate_eq_ok_iff.mp hplace
      rw [find?_of_locate hplace] at hfolder
      have hfolder' := mt h.node?_eq_folder_iff.mpr hfolder
      refine (h.at_place hplace).level (here_without _ _) (here_without _ _) ?_ ?_ ?_
      · rw [getElem?_nodes_without hplace hfolder, getElem?_nodes_without hplace' hfolder',
          if_pos rfl, if_pos rfl]
      · intro q hq
        rw [getElem?_nodes_without hplace hfolder, if_neg hq]
      · intro q hq
        rw [getElem?_nodes_without hplace' hfolder', if_neg hq]
    | error e =>
      have hnowhere : ∀ q, a.locate path ≠ .ok q := by simp [hplace]
      have hnowhere' : ∀ q, b.locate path ≠ .ok q :=
        fun q => mt h.locate_eq_ok_iff.mpr (hnowhere q)
      rw [without_of_find?_eq_none (find?_eq_none_of_locate hnowhere),
        without_of_find?_eq_none (find?_eq_none_of_locate hnowhere')]
      exact h.mono fun q hq => hq.resolve_left (hnowhere q)

theorem AgreeBut.without_eq {a b : FileSystem} (h : AgreeBut (a.locate path = .ok ·) a b) :
    a.without path = b.without path :=
  (h.mono fun _ => Or.inl (b := False)).without.eq fun _ => id

end FileSystem

/-! ### Sessions -/

theorem Refusals.write_never (files : FileSystem) (path : Path) (contents : Bytes) :
    Refusals.never.write files path contents = files.write path contents :=
  rfl

/-- Contents that are written have not been refused. -/
theorem Refusals.write_eq_ok {refusals : Refusals} {files files' : FileSystem} {path : Path}
    {contents : Bytes} (h : refusals.write files path contents = .ok files') :
    files.write path contents = .ok files' := by
  unfold Refusals.write at h
  split at h
  · cases h
  · exact h

namespace Session

variable {s s' : Session} {path : Path}

/-- What is cleared was not there or has been removed. -/
theorem clear_eq_ok_iff :
    s.clear path = .ok s' ↔
      s.files.exists? path = false ∧ s' = s ∨
        s.files.exists? path = true ∧ ∃ files, s.files.remove path = .ok files ∧
          s' = s.after (.removed path) files := by
  unfold clear
  cases s.files.exists? path with
  | false => simp [eq_comm]
  | true => cases s.files.remove path <;> simp [eq_comm]

theorem clear_of_folder (h : s.files.find? path = some .folder) :
    s.clear path = .error (.system .isDirectory) := by
  have hexists : s.files.exists? path = true := FileSystem.exists?_of_find? h
  unfold clear
  rw [if_pos hexists, FileSystem.remove_of_find?_eq_folder h]

/-- What is no directory can be cleared away. -/
theorem exists_clear_eq_ok (h : s.files.find? path ≠ some .folder) :
    ∃ s', s.clear path = .ok s' ∧ s'.files = s.files.without path := by
  cases hfound : s.files.find? path with
  | none =>
    have hmissing : s.files.exists? path = false := FileSystem.exists?_of_find? hfound
    exact ⟨s, clear_eq_ok_iff.mpr (.inl ⟨hmissing, rfl⟩),
      (FileSystem.without_of_find?_eq_none hfound).symm⟩
  | some node =>
    have hexists : s.files.exists? path = true := FileSystem.exists?_of_find? hfound
    have hfile : node ≠ .folder := fun hnode => h (hnode ▸ hfound)
    obtain ⟨place, hplace, hnode⟩ := FileSystem.find?_eq_some_iff.mp hfound
    have hremove := FileSystem.remove_eq_ok_iff.mpr ⟨place, node, hplace, hnode, hfile, rfl⟩
    exact ⟨_, clear_eq_ok_iff.mpr (.inr ⟨hexists, _, hremove, rfl⟩),
      (FileSystem.without_of_remove_eq_ok hremove).symm⟩

/-- Where only the file at the path differs it can be cleared away in both or in
neither, and no difference remains. -/
theorem clear_cases {t : Session}
    (h : FileSystem.AgreeBut (s.files.locate path = .ok ·) s.files t.files) :
    (∃ e, s.clear path = .error e ∧ t.clear path = .error e ∧ s.files = t.files) ∨
      ∃ s' t', s.clear path = .ok s' ∧ t.clear path = .ok t' ∧ s'.files = t'.files := by
  by_cases hfolder : s.files.find? path = some .folder
  · have hfolder' := h.find?_eq_folder_iff.mp hfolder
    exact .inl ⟨_, clear_of_folder hfolder, clear_of_folder hfolder', h.eq_of_folder hfolder⟩
  · obtain ⟨s', hclear, hfiles⟩ := exists_clear_eq_ok hfolder
    obtain ⟨t', hclear', hfiles'⟩ := exists_clear_eq_ok (mt h.find?_eq_folder_iff.mpr hfolder)
    exact .inr ⟨s', t', hclear, hclear', hfiles.trans (h.without_eq.trans hfiles'.symm)⟩

theorem agreeBut_of_clear (h : s.clear path = .ok s') :
    FileSystem.AgreeBut (s.files.locate path = .ok ·) s.files s'.files := by
  rcases clear_eq_ok_iff.mp h with ⟨-, rfl⟩ | ⟨-, files, hfiles, rfl⟩
  · exact .refl _ _
  · exact FileSystem.agreeBut_of_remove hfiles

theorem agreeBut_discard (s : Session) (path : Path) :
    FileSystem.AgreeBut (s.files.locate path = .ok ·) s.files (s.discard path).files := by
  unfold discard
  cases h : s.clear path with
  | error e => exact .refl _ _
  | ok s' => exact agreeBut_of_clear h

theorem files_discard (s : Session) (path : Path) :
    (s.discard path).files = s.files.without path := by
  unfold discard
  by_cases hfolder : s.files.find? path = some .folder
  · rw [clear_of_folder hfolder,
      FileSystem.without_of_remove_eq_error (FileSystem.remove_of_find?_eq_folder hfolder)]
  · obtain ⟨s', hclear, hfiles⟩ := exists_clear_eq_ok hfolder
    rw [hclear]
    exact hfiles

/-- After the file was discarded from both they do not differ there. -/
theorem agreeBut_discard_discard {t : Session} {T : Place → Prop}
    (h : FileSystem.AgreeBut (fun q => s.files.locate path = .ok q ∨ T q) s.files t.files) :
    FileSystem.AgreeBut T (s.discard path).files (t.discard path).files := by
  rw [files_discard, files_discard]
  exact h.without

end Session

end WatInlay
