import Tutor.Proofs.Disk.Place

/-!
# What a path leads to

Two things make a path lead to an entry. The entry stands where the path says: the names before the
last are those of folders, and the last is its own. And it can be looked up: the path is one that a
disk takes, and every folder that a name is looked up in may be searched. An entry that stands there
and cannot be looked up is, for the one who looks, not there.

* `way`, `above`, `searched` – the places that a path leads through, and the folders that it looks
  into.
* `Stands`, `Reachable` – the two things.
* `exists_locate_folder_iff`, `exists_locate_file_iff`, `exists?_eq_true_iff` – both are needed, and
  nothing else.
-/

namespace Tutor.Disk

/-! ### The places of a path -/

/-- The places that names lead through from a folder, those that two dots leave again among them. -/
def way : Place → List String → List Place
  | _, [] => []
  | start, name :: names =>
    if name == ".." then way start.dropLast names
    else (start ++ [name]) :: way (start ++ [name]) names

/-- The folders in which names are looked up from a folder, one for each name. -/
def searched : Place → List String → List Place
  | _, [] => []
  | start, name :: names =>
    start :: searched (if name == ".." then start.dropLast else start ++ [name]) names

/-- The place where a path starts. -/
def startOf (d : Disk) (path : Path) : Place := if path.rooted then [] else d.here

/-- The places of the folders that a path leads through before its last name. -/
def above (d : Disk) (path : Path) : List Place := way (d.startOf path) path.names.dropLast

/-- The names of a path are ones that a disk can hold. -/
structure IsNameable (path : Path) : Prop where
  flawless : flaw? path = none
  short : ∀ name ∈ path.names, name.utf8ByteSize ≤ longestName

/-- A path leads back to a folder, or stays where it starts. -/
def LeadsBack (path : Path) : Prop := path.names = [] ∨ path.names.getLast? = some ".."

/-- What stands where a path says, whether or not it can be looked up. -/
inductive Stands (d : Disk) (path : Path) : Entry → Prop
  /-- All names of the path are those of folders. -/
  | folder : path.isEmpty = false →
      (∀ q ∈ way (d.startOf path) path.names, d.at? q = some .folder) → Stands d path .folder
  /-- The last name is that of a file, which the path does not take for a folder. -/
  | file {bytes : List UInt8} : path.isFolder = false → ¬ LeadsBack path →
      (∀ q ∈ d.above path, d.at? q = some .folder) →
      d.at? (d.placeOf path) = some (.file bytes) → Stands d path (.file bytes)

/-- What stands where a path says can be looked up: every folder on the way may be searched. -/
structure Reachable (d : Disk) (path : Path) : Prop extends IsNameable path where
  searchable : ∀ q ∈ searched (d.startOf path) path.names, d.isClosed q = false

variable {d : Disk} {m : Bool} {start p : Place} {names : List String} {name : String}
  {bytes : List UInt8} {path : Path}

theorem walk_append (names more : List String) (start : Place) :
    walk start (names ++ more) = walk (walk start names) more := by
  induction names generalizing start with
  | nil => rfl
  | cons name names ih => exact ih _

theorem searched_append (names more : List String) (start : Place) :
    searched start (names ++ more) = searched start names ++ searched (walk start names) more := by
  induction names generalizing start with
  | nil => rfl
  | cons name names ih => exact congrArg (start :: ·) (ih _)

/-! ### Following names -/

/-- Names lead to a folder exactly if each can be looked up and is that of one. -/
theorem follow_eq_folder_iff : d.follow m start names = .folder p ↔
    p = walk start names ∧ (∀ name ∈ names, name.utf8ByteSize ≤ longestName) ∧
      (∀ q ∈ searched start names, d.isClosed q = false) ∧
      ∀ q ∈ way start names, d.at? q = some .folder := by
  have htwo : (".." : String).utf8ByteSize ≤ longestName := by decide
  fun_induction follow d m start names with
  | case1 start =>
    simp only [walk, way, searched, Spot.folder.injEq, List.not_mem_nil, false_imp_iff,
      implies_true, and_true]
    exact eq_comm
  | case2 start name names hclosed => simp [searched, hclosed]
  | case3 start name names hclosed hback ih =>
    obtain rfl := beq_iff_eq.mp hback
    simp [ih, walk, way, searched, hclosed, htwo]
  | case4 start name names hclosed hback hlong => simp [Nat.not_le.mpr hlong]
  | case5 start name names hclosed hback hlong next hnext ih =>
    simp [ih, walk, way, searched, hclosed, hback, next, hnext, Nat.not_lt.mp hlong]
  | case6 start name names hclosed hback hlong next bytes hnext hlast =>
    simp [way, hback, next, hnext]
  | case7 start name names hclosed hback hlong next bytes hnext hlast =>
    simp [way, hback, next, hnext]
  | case8 start name names hclosed hback hlong next hnext hlast => simp [way, hback, next, hnext]
  | case9 start name names hclosed hback hlong next hnext hlast => simp [way, hback, next, hnext]

/-- Behind what is no folder, nothing can be found. -/
theorem folder_of_follow_append {more : List String} (hmore : more ≠ [])
    (h : d.follow m start (names ++ more) = .file p bytes) :
    ∃ q, d.follow m start names = .folder q ∧ d.follow m q more = .file p bytes := by
  fun_induction follow d m start names with
  | case1 start => exact ⟨start, rfl, h⟩
  | case2 start name names hclosed => rw [List.cons_append, follow, if_pos hclosed] at h; cases h
  | case3 start name names hclosed hback ih =>
    rw [List.cons_append, follow, if_neg hclosed, if_pos hback] at h
    exact ih h
  | case4 start name names hclosed hback hlong =>
    rw [List.cons_append, follow, if_neg hclosed, if_neg hback, if_pos hlong] at h
    cases h
  | case5 start name names hclosed hback hlong next hnext ih =>
    rw [List.cons_append, follow, if_neg hclosed, if_neg hback, if_neg hlong] at h
    simp only [next] at hnext
    simp only [hnext] at h
    exact ih h
  | case6 start name names hclosed hback hlong next bytes' hnext
  | case7 start name names hclosed hback hlong next bytes' hnext
  | case8 start name names hclosed hback hlong next hnext
  | case9 start name names hclosed hback hlong next hnext =>
    rw [List.cons_append, follow, if_neg hclosed, if_neg hback, if_neg hlong] at h
    simp only [next] at hnext
    simp [hnext, hmore] at h

/-- A name leads to what stands under it in a folder that may be searched. -/
theorem follow_singleton (hopen : d.isClosed start = false) (hback : name ≠ "..")
    (hshort : name.utf8ByteSize ≤ longestName) :
    d.follow m start [name] = spotAt m (start ++ [name]) (d.at? (start ++ [name])) := by
  rw [follow, if_neg (by simp [hopen]), if_neg (by simpa using hback),
    if_neg (Nat.not_lt.mpr hshort)]
  cases hat : d.at? (start ++ [name]) with
  | none => simp [spotAt, hat]
  | some e => cases e <;> cases m <;> simp [spotAt, hat, follow]

theorem follow_singleton_eq_file_iff : d.follow m start [name] = .file p bytes ↔
    p = start ++ [name] ∧ d.isClosed start = false ∧ name ≠ ".." ∧
      name.utf8ByteSize ≤ longestName ∧ m = false ∧
      d.at? (start ++ [name]) = some (.file bytes) := by
  by_cases hclosed : d.isClosed start = true
  · simp [follow, hclosed]
  rw [Bool.not_eq_true] at hclosed
  by_cases hback : name = ".."
  · simp [follow, hclosed, hback]
  by_cases hshort : name.utf8ByteSize ≤ longestName
  · rw [follow_singleton hclosed hback hshort]
    cases hat : d.at? (start ++ [name]) with
    | none => simp [spotAt]
    | some e => cases e <;> cases m <;> simp [spotAt, hclosed, hback, hshort, eq_comm]
  · simp [follow, hclosed, hback, hshort, Nat.not_le.mp hshort]

/-! ### Locating paths -/

/-- What a path that a disk takes leads to, other than the empty one. -/
theorem locate_eq_follow (hflaw : flaw? path = none) (hempty : path.isEmpty = false) :
    d.locate path = d.follow path.isFolder (d.startOf path) path.names := by
  simp [locate, hflaw, hempty, startOf]

/-- A path leads to a folder exactly if one stands there and can be looked up. -/
theorem exists_locate_folder_iff :
    (∃ p, d.locate path = .folder p) ↔ d.Reachable path ∧ d.Stands path .folder := by
  constructor
  · rintro ⟨p, hlocate⟩
    cases hflaw : flaw? path with
    | some why => simp [locate, hflaw] at hlocate
    | none =>
      cases hempty : path.isEmpty with
      | true => simp [locate, hflaw, hempty] at hlocate
      | false =>
        rw [locate_eq_follow hflaw hempty] at hlocate
        obtain ⟨-, hshort, hopen, hway⟩ := follow_eq_folder_iff.mp hlocate
        exact ⟨⟨⟨hflaw, hshort⟩, hopen⟩, .folder hempty hway⟩
  · rintro ⟨hreach, hstands⟩
    cases hstands with
    | folder hempty hway =>
      refine ⟨walk (d.startOf path) path.names, ?_⟩
      rw [locate_eq_follow hreach.flawless hempty]
      exact follow_eq_folder_iff.mpr ⟨rfl, hreach.short, hreach.searchable, hway⟩

/-- A path leads to a file exactly if it stands there and can be looked up. -/
theorem exists_locate_file_iff :
    (∃ p, d.locate path = .file p bytes) ↔ d.Reachable path ∧ d.Stands path (.file bytes) := by
  by_cases hnames : path.names = []
  · refine iff_of_false ?_ ?_
    · rintro ⟨p, hlocate⟩
      simp only [locate, hnames, follow] at hlocate
      split at hlocate
      · cases hlocate
      · split at hlocate <;> cases hlocate
    · rintro ⟨-, hstands⟩
      cases hstands with
      | file hfile hforth => exact hforth (.inl hnames)
  -- The names before the last lead to a folder, and the last to the file in it.
  obtain ⟨init, last, hsplit⟩ : ∃ init last, path.names = init ++ [last] :=
    ⟨_, _, (List.dropLast_concat_getLast hnames).symm⟩
  have hempty : path.isEmpty = false := by simp [Path.isEmpty, hnames]
  have habove : d.above path = way (d.startOf path) init := by
    rw [above, hsplit, List.dropLast_concat]
  have hplace : d.placeOf path = walk (walk (d.startOf path) init) [last] := by
    rw [placeOf, ← startOf, hsplit, walk_append]
  have hforth : ¬ LeadsBack path ↔ last ≠ ".." := by simp [LeadsBack, hsplit]
  constructor
  · rintro ⟨p, hlocate⟩
    cases hflaw : flaw? path with
    | some why => simp [locate, hflaw] at hlocate
    | none =>
      rw [locate_eq_follow hflaw hempty, hsplit] at hlocate
      obtain ⟨q, hway, hlast⟩ := folder_of_follow_append (List.cons_ne_nil last []) hlocate
      obtain ⟨rfl, hshort, hopen, hfolders⟩ := follow_eq_folder_iff.mp hway
      obtain ⟨-, hopen', hback, hshort', hfile, hat⟩ := follow_singleton_eq_file_iff.mp hlast
      refine ⟨⟨⟨hflaw, ?_⟩, ?_⟩, .file hfile (hforth.mpr hback) (habove ▸ hfolders) ?_⟩
      · rw [hsplit]
        intro name hname
        rcases List.mem_append.mp hname with hname | hname
        · exact hshort name hname
        · exact List.mem_singleton.mp hname ▸ hshort'
      · rw [hsplit, searched_append]
        intro q hq
        rcases List.mem_append.mp hq with hq | hq
        · exact hopen q hq
        · exact List.mem_singleton.mp hq ▸ hopen'
      · rw [hplace]
        simpa [walk, hback] using hat
  · rintro ⟨hreach, hstands⟩
    cases hstands with
    | file hfile hback hfolders hat =>
      have hback := hforth.mp hback
      have hshort := hreach.short
      have hopen := hreach.searchable
      rw [hsplit] at hshort hopen
      rw [searched_append] at hopen
      refine ⟨walk (d.startOf path) init ++ [last], ?_⟩
      rw [locate_eq_follow hreach.flawless hempty, hsplit]
      have hway : d.follow path.isFolder (d.startOf path) init =
          .folder (walk (d.startOf path) init) :=
        follow_eq_folder_iff.mpr ⟨rfl, fun name hname => hshort name (List.mem_append_left _ hname),
          fun q hq => hopen q (List.mem_append_left _ hq), habove ▸ hfolders⟩
      rw [follow_append hway]
      refine follow_singleton_eq_file_iff.mpr ⟨rfl, ?_, hback, ?_, hfile, ?_⟩
      · exact hopen _ (List.mem_append_right _ List.mem_cons_self)
      · exact hshort last (List.mem_append_right _ List.mem_cons_self)
      · rw [hplace] at hat
        simpa [walk, hback] using hat

/-- A path leads to something exactly if something stands there and can be looked up. -/
theorem exists?_eq_true_iff :
    d.exists? path = true ↔ d.Reachable path ∧ ∃ e, d.Stands path e := by
  constructor
  · intro h
    rw [exists?] at h
    split at h
    · next p bytes hlocate =>
      obtain ⟨hreach, hstands⟩ := exists_locate_file_iff.mp ⟨p, hlocate⟩
      exact ⟨hreach, _, hstands⟩
    · next p hlocate =>
      obtain ⟨hreach, hstands⟩ := exists_locate_folder_iff.mp ⟨p, hlocate⟩
      exact ⟨hreach, _, hstands⟩
    · cases h
  · rintro ⟨hreach, e, hstands⟩
    cases e with
    | file bytes =>
      obtain ⟨p, hlocate⟩ := exists_locate_file_iff.mpr ⟨hreach, hstands⟩
      simp [exists?, hlocate]
    | folder =>
      obtain ⟨p, hlocate⟩ := exists_locate_folder_iff.mpr ⟨hreach, hstands⟩
      simp [exists?, hlocate]

end Tutor.Disk
