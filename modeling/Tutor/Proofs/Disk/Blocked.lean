import Mathlib.Data.List.Basic
import Tutor.Proofs.Disk.Files
import Tutor.Proofs.Disk.Lookup

/-!
# What is in the way of a file

To make way for a file, the folders above it are made and what stands in its place is removed. Three
things can be in the way: a folder above that can be neither passed nor made, something in the place
of the file that cannot be removed as a file, or a removal that is refused though nothing stands
there. All three are told by what stood on the disk before.

* `makeFolders_error_iff`, `at?_of_makeFolders` – when folders can be made, and what stands where
  then.
* `FolderBlocked`, `Occupied`, `Withheld` – the three things that can be in the way.
* `createFolders_error_iff`, `removeFile_error_iff` – they are in the way, and nothing else is.
-/

namespace Tutor.Disk

/-- No folder stands at a place and none can be made: a file stands there, or nothing on a file
system that is read-only. -/
def Obstructed (d : Disk) (q : Place) : Prop :=
  (∃ bytes, d.file? q = some bytes) ∨ d.at? q = none ∧ d.isFixed q = true

/-- A folder above a path can be neither passed nor made: one on the way to it may not be searched,
or it is obstructed. -/
def FolderBlocked (d : Disk) (path : Path) : Prop :=
  (∃ q ∈ searched (d.startOf path) path.names.dropLast, d.isClosed q = true) ∨
    ∃ q ∈ d.above path, d.Obstructed q

/-- Something is in the place of a path that cannot be removed as a file: a folder, be it that the
path leads back to it or only has it made on the way, or a file in a folder that may not be searched
or that is on a file system that is read-only. -/
def Occupied (d : Disk) (path : Path) : Prop :=
  path.isEmpty = false ∧
    (LeadsBack path ∨ d.placeOf path ∈ d.above path ∨ d.at? (d.placeOf path) = some .folder ∨
      (∃ bytes, d.file? (d.placeOf path) = some bytes) ∧
        (d.isClosed (d.placeOf path).dropLast = true ∨ d.isFixed (d.placeOf path) = true))

/-- What a path means is not there, and yet cannot be removed: nothing stands in the place, and its
folder may not be searched or is on a file system that is read-only, or the path means a folder, and
a file stands in the place. -/
def Withheld (d : Disk) (path : Path) : Prop :=
  ¬ LeadsBack path ∧
    (d.at? (d.placeOf path) = none ∧
        (d.isClosed (d.placeOf path).dropLast = true ∨ d.isFixed (d.placeOf path) = true) ∨
      path.isFolder = true ∧ ∃ bytes, d.file? (d.placeOf path) = some bytes)

variable {d d' : Disk} {m : Bool} {start p q : Place} {names : List String} {name : String}
  {path : Path}

theorem file?_eq_some {bytes : List UInt8} :
    d.file? q = some bytes ↔ d.at? q = some (.file bytes) := by
  rw [file?]
  split <;> simp_all

theorem not_obstructed_folder (h : d.at? q = some .folder) : ¬ d.Obstructed q := by
  simp [Obstructed, file?, h]

theorem not_obstructed_free (h : d.at? q = none) (hfree : d.isFixed q = false) :
    ¬ d.Obstructed q := by
  simp [Obstructed, file?, h, hfree]

/-- A folder that is made where one can be obstructs nothing, and nothing is obstructed by it. -/
theorem obstructed_put_folder (hp : p ≠ []) (h : d.at? p = none) (hfree : d.isFixed p = false) :
    (d.put p .folder).Obstructed q ↔ d.Obstructed q := by
  by_cases hq : p = q
  · subst hq
    exact iff_of_false (not_obstructed_folder (by rw [at?_put d hp, if_pos rfl]))
      (not_obstructed_free h hfree)
  · have hfile := (sameFiles_put_folder hp h).file? q
    have hfixed := (sameTerms_put d p .folder).isFixed q
    rw [Obstructed, Obstructed, hfile, hfixed, at?_put d hp, if_neg hq]

/-! ### Making folders -/

/-- Folders are made exactly if every folder on the way may be searched and none is obstructed. By
induction on the names; a folder that is made on the way obstructs none. -/
theorem makeFolders_error_iff (hshort : ∀ name ∈ names, name.utf8ByteSize ≤ longestName) :
    (∃ why, d.makeFolders start names = .error why) ↔
      (∃ q ∈ searched start names, d.isClosed q = true) ∨
        ∃ q ∈ way start names, d.Obstructed q := by
  fun_induction makeFolders d start names with
  | case1 d start => simp [searched, way]
  | case2 d start name names hclosed =>
    exact iff_of_true ⟨_, rfl⟩ (.inl ⟨start, List.mem_cons_self, hclosed⟩)
  | case3 d start name names hclosed hback ih =>
    rw [searched, way, if_pos hback, if_pos hback, List.exists_mem_cons_iff, or_iff_right hclosed]
    exact ih fun name hname => hshort name (List.mem_cons_of_mem _ hname)
  | case4 d start name names hclosed hback hlong =>
    exact absurd (hshort name List.mem_cons_self) (Nat.not_le.mpr hlong)
  | case5 d start name names hclosed hback hlong next hnext ih =>
    rw [searched, way, if_neg hback, if_neg hback, List.exists_mem_cons_iff, or_iff_right hclosed,
      List.exists_mem_cons_iff, or_iff_right (not_obstructed_folder hnext)]
    exact ih fun name hname => hshort name (List.mem_cons_of_mem _ hname)
  | case6 d start name names hclosed hback hlong next bytes hnext =>
    refine iff_of_true ⟨_, rfl⟩ (.inr ⟨next, ?_, .inl ⟨bytes, file?_eq_some.mpr hnext⟩⟩)
    rw [way, if_neg hback]
    exact List.mem_cons_self
  | case7 d start name names hclosed hback hlong next hnext hfixed =>
    refine iff_of_true ⟨_, rfl⟩ (.inr ⟨next, ?_, .inr ⟨hnext, hfixed⟩⟩)
    rw [way, if_neg hback]
    exact List.mem_cons_self
  | case8 d start name names hclosed hback hlong next hnext hfree ih =>
    rw [Bool.not_eq_true] at hfree
    have hobstructed := fun q =>
      obstructed_put_folder (q := q) (List.concat_ne_nil name start) hnext hfree
    rw [searched, way, if_neg hback, if_neg hback, List.exists_mem_cons_iff, or_iff_right hclosed,
      List.exists_mem_cons_iff, or_iff_right (not_obstructed_free hnext hfree),
      ih fun name hname => hshort name (List.mem_cons_of_mem _ hname)]
    simp only [(sameTerms_put d next .folder).isClosed, hobstructed, next]

/-- Once folders are made, folders stand on the whole way, and what stood elsewhere stands there
still. -/
theorem at?_of_makeFolders (h : d.makeFolders start names = .ok d') (q : Place) :
    d'.at? q = if q ∈ way start names then some .folder else d.at? q := by
  fun_induction makeFolders d start names with
  | case1 d start =>
    obtain rfl := Except.ok.inj h
    rfl
  | case2 d start name names hclosed => cases h
  | case3 d start name names hclosed hback ih =>
    rw [way, if_pos hback]
    exact ih h
  | case4 d start name names hclosed hback hlong => cases h
  | case5 d start name names hclosed hback hlong next hnext ih =>
    rw [way, if_neg hback, ih h]
    by_cases hq : q = next
    · subst hq
      simp [next, hnext]
    · simp [next, hq]
  | case6 d start name names hclosed hback hlong next bytes hnext => cases h
  | case7 d start name names hclosed hback hlong next hnext hfixed => cases h
  | case8 d start name names hclosed hback hlong next hnext hfree ih =>
    rw [way, if_neg hback, ih h, at?_put d (List.concat_ne_nil name start)]
    by_cases hq : q = next
    · subst hq
      simp [next]
    · simp [next, hq, Ne.symm hq]

/-- The folders above a path, as they are made before it is written. -/
theorem createFolders_above (hpath : flaw? path = none) (hnames : path.names ≠ []) :
    d.createFolders ⟨path.rooted, path.names.dropLast, false, false⟩ =
      d.makeFolders (d.startOf path) path.names.dropLast := by
  rw [createFolders, flaw?_of_dropLast hnames hpath]
  rfl

/-- The folders above a path can be made exactly if none of them is blocked. -/
theorem createFolders_error_iff (hpath : IsNameable path) (hnames : path.names ≠ []) :
    (∃ why, d.createFolders ⟨path.rooted, path.names.dropLast, false, false⟩ = .error why) ↔
      d.FolderBlocked path := by
  rw [createFolders_above hpath.flawless hnames]
  exact makeFolders_error_iff fun name hname => hpath.short name (List.dropLast_subset _ hname)

/-! ### Removing what is in the place -/

/-- What a path leads to cannot be cleared. -/
def Spot.Refused (d : Disk) : Spot → Prop
  | .file p _ | .vacant p => d.isFixed p = true
  | .folder _ => True
  | .nowhere why => why ≠ .missing

theorem removeFile_error_iff_refused :
    (∃ why, d.removeFile path = .error why) ↔ (d.locate path).Refused d := by
  rw [removeFile]
  cases d.locate path with
  | file p bytes => cases hfixed : d.isFixed p <;> simp [Spot.Refused, hfixed]
  | folder p => simp [Spot.Refused]
  | vacant p => cases hfixed : d.isFixed p <;> simp [Spot.Refused, hfixed]
  | nowhere why => cases why <;> simp [Spot.Refused]

/-- What stands at the end of a way cannot be cleared exactly if it is a folder, or a file where a
folder is meant, or on a file system that is read-only. -/
theorem refused_spotAt_iff {e : Option Entry} : (spotAt m p e).Refused d ↔
    e = some .folder ∨ (m = true ∧ ∃ bytes, e = some (.file bytes)) ∨ d.isFixed p = true := by
  cases e with
  | none => simp [spotAt, Spot.Refused]
  | some e => cases e <;> cases m <;> simp [spotAt, Spot.Refused]

/-- Once the folders above it are made, a path leads where its last name does. -/
theorem locate_of_made (hpath : flaw? path = none) (hnames : path.names ≠ [])
    (h : d.makeFolders (d.startOf path) path.names.dropLast = .ok d') :
    d'.locate path = d'.follow path.isFolder (walk (d.startOf path) path.names.dropLast)
      [path.names.getLast hnames] := by
  have hstart : d'.startOf path = d.startOf path := by
    rw [startOf, startOf, (sameFiles_of_makeFolders h).here]
  have hway := (follow_of_makeFolders (m := path.isFolder) h).2
  rw [locate_eq_follow hpath (by simp [Path.isEmpty, hnames]), hstart, ← follow_append hway,
    List.dropLast_concat_getLast hnames]

/-- Once the folders above it are made, a path that names something cannot be cleared exactly if
something was in its place before that cannot be removed as a file, or removing what is not there is
refused. -/
theorem removeFile_error_iff (hpath : IsNameable path) (hnames : path.names ≠ [])
    (h : d.createFolders ⟨path.rooted, path.names.dropLast, false, false⟩ = .ok d') :
    (∃ why, d'.removeFile path = .error why) ↔ d.Occupied path ∨ d.Withheld path := by
  rw [createFolders_above hpath.flawless hnames] at h
  have hempty : path.isEmpty = false := by simp [Path.isEmpty, hnames]
  have hlast : path.names.getLast? = some (path.names.getLast hnames) :=
    List.getLast?_eq_some_getLast hnames
  have hsame := sameFiles_of_makeFolders h
  rw [removeFile_error_iff_refused, locate_of_made hpath.flawless hnames h]
  by_cases hback : path.names.getLast hnames = ".."
  · -- The path leads back to a folder, or it cannot be followed that far.
    have hleads : LeadsBack path := .inr (hlast.trans (congrArg some hback))
    refine iff_of_true ?_ (.inl ⟨hempty, .inl hleads⟩)
    rw [hback, follow]
    split
    · simp [Spot.Refused]
    · exact trivial
  have hforth : ¬ LeadsBack path := by simp [LeadsBack, hnames, hlast, hback]
  have hplace : d.placeOf path =
      walk (d.startOf path) path.names.dropLast ++ [path.names.getLast hnames] := by
    rw [placeOf, startOf, ← walk_concat hback, List.dropLast_concat_getLast hnames]
  have hfolder : walk (d.startOf path) path.names.dropLast = (d.placeOf path).dropLast := by
    rw [hplace, List.dropLast_concat]
  rw [Occupied, Withheld]
  simp only [hempty, hforth, true_and, false_or, not_false_eq_true, file?_eq_some]
  by_cases hclosed : d.isClosed (d.placeOf path).dropLast = true
  · refine iff_of_true ?_ ?_
    · rw [follow, hsame.isClosed, hfolder, if_pos hclosed]
      simp [Spot.Refused]
    · cases hat : d.at? (d.placeOf path) with
      | none => simp [hclosed]
      | some e => cases e <;> simp [hclosed]
  · rw [Bool.not_eq_true] at hclosed
    have hopen : d'.isClosed (walk (d.startOf path) path.names.dropLast) = false := by
      rw [hsame.isClosed, hfolder, hclosed]
    rw [follow_singleton hopen hback (hpath.short _ (List.getLast_mem hnames)), ← hplace,
      refused_spotAt_iff, at?_of_makeFolders h, hsame.isFixed, above, hclosed]
    -- A folder that is made on the way stands there whatever was there before.
    by_cases hmade : d.placeOf path ∈ way (d.startOf path) path.names.dropLast
    · simp [hmade]
    · simp only [hmade, if_false, false_or]
      cases d.at? (d.placeOf path) with
      | none => simp
      | some e => cases e <;> simp [or_comm]

/-- A path without names stays where it starts, unless it is the empty one. -/
theorem removeFile_error_iff_of_nameless (hpath : flaw? path = none) (hnames : path.names = []) :
    (∃ why, d.removeFile path = .error why) ↔ d.Occupied path ∨ d.Withheld path := by
  have hback : LeadsBack path := .inl hnames
  rw [removeFile_error_iff_refused, Occupied, Withheld]
  cases hempty : path.isEmpty with
  | true => simp [locate, hpath, hempty, hback, Spot.Refused]
  | false =>
    rw [locate_eq_follow hpath hempty, hnames]
    simp [follow, hback, Spot.Refused]

theorem not_folderBlocked_of_nameless (hnames : path.names = []) : ¬ d.FolderBlocked path := by
  simp [FolderBlocked, above, hnames, searched, way]

end Tutor.Disk
