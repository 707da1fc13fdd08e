import Tutor.Proofs.Disk.Place
import Tutor.Proofs.Text.Cut

/-!
# The files of a disk

Folders come and go without a file being touched, and a file is touched only where a path leads to
it. A path to a name in a folder leads to that name below the place of the folder.

* `placeOf_join` – the place of a name in a folder.
* `SameFiles` – disks with the same files.
* `Reached` – the file at the place of a path is one that the path leads to.
* `mem_filesBelow`, `nodup_filesBelow` – the files below a place.
-/

namespace Tutor

open Tutor.Text

/-! ### Names in a folder -/

/-- A name that leads one step on: it holds no slash, and is neither empty nor made of a dot or
two. -/
structure Path.IsName (name : String) : Prop where
  noSlash : '/' ∉ name.toList
  onward : Path.staysHere name.toList = false
  notBack : name ≠ ".."

/-- The names that a text of a path is made of. -/
def Path.namesIn (cs : List Char) : List String :=
  ((splitWhere (· == '/') cs).filter fun n => !staysHere n).map String.ofList

theorem Path.namesIn_name {name : String} (h : Path.IsName name) :
    namesIn name.toList = [name] := by
  have hsplit : splitWhere (· == '/') name.toList = [name.toList] :=
    splitWhere_of_none fun _ hc => beq_eq_false_iff_ne.mpr fun heq => h.noSlash (heq ▸ hc)
  simp [namesIn, hsplit, h.onward]

theorem Path.namesIn_append (as bs : List Char) :
    namesIn (as ++ '/' :: bs) = namesIn as ++ namesIn bs := by
  rw [namesIn, splitWhere_append rfl, List.filter_append, List.map_append]
  rfl

/-- A path into a folder walks to the folder first, and then on as the text behind it says. -/
theorem Path.ofText_join_of_head {name : String} (hhead : name.toList.head? ≠ some '/')
    (folder : String) :
    (ofText (join folder name)).names = (ofText folder).names ++ (ofText name).names ∧
      (ofText (join folder name)).rooted = (ofText folder).rooted := by
  have hnames : ∀ s, (ofText s).names = namesIn s.toList := fun _ => rfl
  have hrooted : ∀ s, (ofText s).rooted = (s.toList.head? == some '/') := fun _ => rfl
  simp only [hnames, hrooted, join]
  by_cases hempty : folder = ""
  · subst hempty
    rw [if_pos (by simp)]
    exact ⟨rfl, by simpa using hhead⟩
  · have hne : folder.toList ≠ [] := by simpa using hempty
    rw [if_neg (by simp [hhead, hempty])]
    split
    · next hslash =>
      -- The folder ends in a slash, behind which stands an empty name that counts for nothing.
      obtain ⟨as, has⟩ := List.getLast?_eq_some_iff.mp (beq_iff_eq.mp hslash)
      have htext : (folder ++ name).toList = as ++ '/' :: name.toList := by
        simp [has]
      have hfolder : namesIn folder.toList = namesIn as := by
        rw [has, namesIn_append]
        exact List.append_nil _
      rw [htext, namesIn_append, hfolder, has]
      exact ⟨rfl, by simp [List.head?_append]⟩
    · have htext : (folder ++ "/" ++ name).toList = folder.toList ++ '/' :: name.toList := by
        simp
      rw [htext, namesIn_append]
      obtain ⟨c, cs, hcs⟩ := List.exists_cons_of_ne_nil hne
      exact ⟨rfl, by rw [hcs]; rfl⟩

/-- A path to a name in a folder walks to the folder first, and then to the name. -/
theorem Path.ofText_join {name : String} (h : Path.IsName name) (folder : String) :
    (ofText (join folder name)).names = (ofText folder).names ++ [name] ∧
      (ofText (join folder name)).rooted = (ofText folder).rooted := by
  have hhead : name.toList.head? ≠ some '/' := fun hhead =>
    h.noSlash (List.mem_of_mem_head? hhead)
  obtain ⟨hnames, hrooted⟩ := ofText_join_of_head hhead folder
  exact ⟨hnames.trans (congrArg _ (namesIn_name h)), hrooted⟩

/-- A path whose text holds more than dots and slashes names something. -/
theorem Path.names_ne_nil {s : String} {c : Char} (hc : c ∈ s.toList) (hslash : c ≠ '/')
    (hdot : c ≠ '.') : (ofText s).names ≠ [] := by
  obtain ⟨part, hpart, hmem⟩ :=
    exists_mem_splitWhere (p := (· == '/')) (beq_eq_false_iff_ne.mpr hslash) hc
  have honward : staysHere part = false := by
    cases hstays : staysHere part with
    | false => rfl
    | true =>
      rw [staysHere, Bool.or_eq_true, List.isEmpty_iff, beq_iff_eq] at hstays
      rcases hstays with rfl | rfl
      · cases hmem
      · exact absurd (List.mem_singleton.mp hmem) hdot
  have hname : String.ofList part ∈ (ofText s).names :=
    List.mem_map_of_mem (List.mem_filter.mpr ⟨hpart, by rw [honward]; rfl⟩)
  exact List.ne_nil_of_mem hname

/-- What a name holds, the path to it in a folder holds. -/
theorem Path.mem_join {name : String} {c : Char} (hc : c ∈ name.toList) (folder : String) :
    c ∈ (join folder name).toList := by
  rw [join]
  split
  · exact hc
  · split
    · rw [String.toList_append]
      exact List.mem_append_right _ hc
    · rw [String.toList_append]
      exact List.mem_append_right _ hc

namespace Disk

variable {d d' : Disk} {path : Path} {p q : Place}

theorem walk_concat {name : String} (h : name ≠ "..") (names : List String) (start : Place) :
    walk start (names ++ [name]) = walk start names ++ [name] := by
  induction names generalizing start with
  | nil => simp [walk, h]
  | cons first names ih => exact ih _

theorem placeOf_join {name : String} (h : Path.IsName name) (folder : String) :
    d.placeOf (Path.ofText (Path.join folder name)) =
      d.placeOf (Path.ofText folder) ++ [name] := by
  obtain ⟨hnames, hrooted⟩ := Path.ofText_join h folder
  rw [placeOf, hnames, hrooted, walk_concat h.notBack]
  rfl

/-! ### The file that a path leads to -/

/-- No file stands at the place of a path but one that the path leads to. -/
def Reached (path : Path) (d : Disk) : Prop :=
  d.file? (d.placeOf path) = none ∨ ∃ p bytes, d.locate path = .file p bytes

/-- Where a path leads to a file, this stands at the place of the path. -/
theorem file?_of_locate {bytes : List UInt8} (h : d.locate path = .file p bytes) :
    p = d.placeOf path ∧ d.file? p = some bytes := by
  have hleaf : (d.locate path).leaf? = some (p, some bytes) := by rw [h]; rfl
  obtain ⟨hp, -, hat⟩ := locate_leaf hleaf
  exact ⟨hp, by simp [file?, hat]⟩

theorem file?_of_contents {bytes : List UInt8} (h : d.contents path = .ok bytes) :
    d.file? (d.placeOf path) = some bytes := by
  obtain ⟨p, hlocate⟩ := contents_eq_ok.mp h
  obtain ⟨rfl, hfile⟩ := file?_of_locate hlocate
  exact hfile

theorem Reached.file?_of_missing (h : Reached path d)
    (hmissing : d.contents path = .error .missing) :
    d.file? (d.placeOf path) = none := by
  rcases h with h | ⟨p, bytes, hlocate⟩
  · exact h
  · rw [contents, hlocate] at hmissing
    cases hmissing

/-- Removing a file leaves none at the place of the path. -/
theorem Reached.file?_of_removeFile (h : Reached path d) (hremove : d.removeFile path = .ok d') :
    d'.file? (d'.placeOf path) = none := by
  rcases (locate_of_removeFile hremove).1 with ⟨p, hlocate, -⟩ | ⟨hmissing, rfl⟩
  · have hleaf : (d'.locate path).leaf? = some (p, none) := by rw [hlocate]; rfl
    obtain ⟨rfl, -, hat⟩ := locate_leaf hleaf
    simp [file?, hat]
  · exact h.file?_of_missing (by simp [contents, hmissing])

/-- Where no file stands, removing one changes none. -/
theorem sameFiles_of_removeFile (hnone : d.file? (d.placeOf path) = none)
    (h : d.removeFile path = .ok d') : SameFiles d d' := by
  obtain ⟨-, hterms, hother⟩ := locate_of_removeFile h
  have hplace := placeOf_congr hterms.here path
  refine ⟨hterms, fun q => ?_⟩
  by_cases hq : q = d.placeOf path
  · rw [hq, hnone, ← hplace]
    exact Reached.file?_of_removeFile (.inl hnone) h
  · exact hother q hq

/-! ### The files below a place -/

/-- The file that an entry is, if it stands below a place. -/
def below? (p : Place) : Place × Entry → Option (Place × List UInt8)
  | (q, .file bytes) =>
    if p.isPrefixOf q && p.length < q.length then some (q.drop p.length, bytes) else none
  | (_, .folder) => none

theorem filesBelow_eq (d : Disk) (p : Place) :
    d.filesBelow p = d.entries.toList.filterMap (below? p) := by
  refine congrArg (d.entries.toList.filterMap ·) (funext ?_)
  rintro ⟨q, e⟩
  cases e <;> rfl

theorem below?_eq_some {p : Place} {x : Place × Entry} {y : Place × List UInt8} :
    below? p x = some y ↔ y.1 ≠ [] ∧ x = (p ++ y.1, .file y.2) := by
  obtain ⟨q, e⟩ := x
  obtain ⟨rest, bytes⟩ := y
  cases e with
  | folder => simp [below?]
  | file bytes' =>
    rw [below?]
    constructor
    · intro h
      split at h
      · next hbelow =>
        rw [Bool.and_eq_true, List.isPrefixOf_iff_prefix, decide_eq_true_iff] at hbelow
        obtain ⟨⟨more, rfl⟩, hlength⟩ := hbelow
        rw [List.drop_left] at h
        obtain ⟨rfl, rfl⟩ := Prod.mk.inj (Option.some.inj h)
        refine ⟨?_, rfl⟩
        rintro rfl
        simp at hlength
      · cases h
    · rintro ⟨hne, heq⟩
      obtain ⟨rfl, hbytes⟩ := Prod.mk.inj heq
      obtain rfl := Entry.file.inj hbytes
      have hlength := List.length_pos_iff.mpr hne
      rw [if_pos ?_, List.drop_left]
      rw [Bool.and_eq_true, List.isPrefixOf_iff_prefix, decide_eq_true_iff, List.length_append]
      exact ⟨List.prefix_append _ _, by omega⟩

theorem mem_filesBelow {bytes : List UInt8} :
    (q, bytes) ∈ d.filesBelow p ↔ q ≠ [] ∧ d.file? (p ++ q) = some bytes := by
  have hfile : q ≠ [] → (d.file? (p ++ q) = some bytes ↔
      d.entries[p ++ q]? = some (.file bytes)) := by
    intro hq
    rw [file?, at?, if_neg (by simp [hq])]
    cases d.entries[p ++ q]? with
    | none => simp
    | some e => cases e <;> simp
  rw [filesBelow_eq, List.mem_filterMap]
  constructor
  · rintro ⟨x, hx, hbelow⟩
    obtain ⟨hq, rfl⟩ := below?_eq_some.mp hbelow
    exact ⟨hq, (hfile hq).mpr (Std.HashMap.mem_toList_iff_getElem?_eq_some.mp hx)⟩
  · rintro ⟨hq, hbytes⟩
    exact ⟨_, Std.HashMap.mem_toList_iff_getElem?_eq_some.mpr ((hfile hq).mp hbytes),
      below?_eq_some.mpr ⟨hq, rfl⟩⟩

/-- No file is listed twice. -/
theorem nodup_filesBelow (d : Disk) (p : Place) : (d.filesBelow p).Nodup := by
  rw [filesBelow_eq, List.Nodup, List.pairwise_filterMap]
  refine Std.HashMap.distinct_keys_toList.imp ?_
  rintro x x' hne y hy y' hy' rfl
  rw [(below?_eq_some.mp hy).2, (below?_eq_some.mp hy').2] at hne
  simp at hne

end Disk

end Tutor
