import Tutor.Disk.Basic

/-!
# The place of a path

A path leads to one place whatever stands on the disk: its names are walked one after another, two
dots going back. An operation on a path changes the file at that place and no other.

* `follow_leaf`, `follow_agree` – a way that ends in a file or in a vacant place ends where its
  names walk to, and does not depend on what stands there.
* `contents_of_removeFile`, `locate_of_openFile` – what an operation leaves behind.
* `contents_of_unmade`, `retains_of_unremoved` – what cannot be prepared is no file, or one on a
  file system that is read-only.
* `openFile_of_removed` – once the folder of a file is made and the file removed, it can be opened.
-/

namespace Tutor.Disk

/-- The place that names walk to from a folder. -/
def walk : Place → List String → Place
  | start, [] => start
  | start, name :: names =>
    walk (if name == ".." then start.dropLast else start ++ [name]) names

/-- The place that a path walks to. -/
def placeOf (d : Disk) (path : Path) : Place :=
  walk (if path.rooted then [] else d.here) path.names

theorem placeOf_congr {d d' : Disk} (h : d'.here = d.here) (path : Path) :
    d'.placeOf path = d.placeOf path := by
  rw [placeOf, placeOf, h]

/-! ### Following names -/

/-- The place where a way ends that leads to a file or to a vacant place, with the bytes there. -/
def Spot.leaf? : Spot → Option (Place × Option (List UInt8))
  | .file p bytes => some (p, some bytes)
  | .vacant p => some (p, none)
  | _ => none

variable {d d' : Disk} {m : Bool} {start p q : Place} {names : List String}
  {content : Option (List UInt8)} {bytes : List UInt8} {path : Path}

/-- A way ends where its names walk to, and what it leads to stands there. -/
theorem follow_leaf (h : (d.follow m start names).leaf? = some (p, content)) :
    p = walk start names ∧ p ≠ [] ∧ d.at? p = content.map .file := by
  fun_induction follow d m start names with
  | case1 start => cases h
  | case2 start name names hclosed => cases h
  | case3 start name names hclosed hback ih => simpa [walk, hback] using ih h
  | case4 start name names hclosed hback hlong => cases h
  | case5 start name names hclosed hback hlong next hnext ih =>
    simpa [walk, hback, next] using ih h
  | case6 start name names hclosed hback hlong next bytes hnext hlast =>
    obtain ⟨rfl, rfl⟩ := Prod.mk.inj (Option.some.inj h)
    obtain rfl : names = [] := by simp at hlast; exact hlast.1
    exact ⟨by simp [walk, hback, next], by simp [next], hnext⟩
  | case7 start name names hclosed hback hlong next bytes hnext hlast => cases h
  | case8 start name names hclosed hback hlong next hnext hlast =>
    obtain ⟨rfl, rfl⟩ := Prod.mk.inj (Option.some.inj h)
    obtain rfl : names = [] := by simpa using hlast
    exact ⟨by simp [walk, hback, next], by simp [next], hnext⟩
  | case9 start name names hclosed hback hlong next hnext hlast => cases h

/-- What a way leads to when an entry stands at its end. -/
def spotAt (m : Bool) (p : Place) : Option Entry → Spot
  | none => .vacant p
  | some (.file bytes) => if m then .nowhere .notFolder else .file p bytes
  | some .folder => .folder p

/-- Two disks that differ only at the end of a way share the way, if the same folders may be
searched. The folders that it passes stand at other places, since no folder stands at its end. -/
theorem follow_agree (h : (d.follow m start names).leaf? = some (p, content))
    (hd : ∀ q, q ≠ p → d'.at? q = d.at? q) (hclosed' : d'.closed = d.closed) :
    d'.follow m start names = spotAt m p (d'.at? p) := by
  have hsearch : ∀ q, d'.isClosed q = d.isClosed q := fun q => by rw [isClosed, isClosed, hclosed']
  fun_induction follow d m start names with
  | case1 start => cases h
  | case2 start name names hclosed => cases h
  | case3 start name names hclosed hback ih =>
    rw [follow, hsearch, if_neg hclosed, if_pos hback]
    exact ih h
  | case4 start name names hclosed hback hlong => cases h
  | case5 start name names hclosed hback hlong next hnext ih =>
    -- A folder on the way is not its end, for there stands none.
    have hne : next ≠ p := by
      rintro rfl
      rw [(follow_leaf h).2.2] at hnext
      cases content <;> cases hnext
    rw [follow, hsearch, if_neg hclosed, if_neg hback, if_neg hlong]
    simp only [hd next hne, hnext, next]
    exact ih h
  | case6 start name names hclosed hback hlong next bytes hnext hlast =>
    obtain ⟨rfl, -⟩ := Prod.mk.inj (Option.some.inj h)
    obtain ⟨rfl, rfl⟩ : names = [] ∧ m = false := by simpa using hlast
    rw [follow, hsearch, if_neg hclosed, if_neg hback, if_neg hlong]
    cases hp : d'.at? next with
    | none => simp [next, hp, spotAt]
    | some e => cases e <;> simp [next, hp, spotAt, follow]
  | case7 start name names hclosed hback hlong next bytes hnext hlast => cases h
  | case8 start name names hclosed hback hlong next hnext hlast =>
    obtain ⟨rfl, -⟩ := Prod.mk.inj (Option.some.inj h)
    obtain rfl : names = [] := by simpa using hlast
    rw [follow, hsearch, if_neg hclosed, if_neg hback, if_neg hlong]
    cases hp : d'.at? next with
    | none => simp [next, hp, spotAt]
    | some e => cases e <;> cases m <;> simp [next, hp, spotAt, follow]
  | case9 start name names hclosed hback hlong next hnext hlast => cases h

/-- A way through folders can be continued. -/
theorem follow_append {m' : Bool} {more : List String} (h : d.follow m start names = .folder p) :
    d.follow m' start (names ++ more) = d.follow m' p more := by
  fun_induction follow d m start names with
  | case1 start => cases h; rfl
  | case2 start name names hclosed => cases h
  | case3 start name names hclosed hback ih =>
    rw [List.cons_append, follow, if_neg hclosed, if_pos hback]
    exact ih h
  | case4 start name names hclosed hback hlong => cases h
  | case5 start name names hclosed hback hlong next hnext ih =>
    rw [List.cons_append, follow, if_neg hclosed, if_neg hback, if_neg hlong]
    simp only [next] at hnext
    simp only [hnext]
    exact ih h
  | case6 start name names hclosed hback hlong next bytes hnext hlast => cases h
  | case7 start name names hclosed hback hlong next bytes hnext hlast => cases h
  | case8 start name names hclosed hback hlong next hnext hlast => cases h
  | case9 start name names hclosed hback hlong next hnext hlast => cases h

/-! ### Locating paths -/

/-- Where a path leads does not depend on whether it ends in a dot. -/
theorem locate_congr {path' : Path} (hrooted : path'.rooted = path.rooted)
    (hnames : path'.names = path.names) (hfolder : path'.isFolder = path.isFolder) :
    d.locate path' = d.locate path := by
  obtain ⟨rooted, names, isFolder, endsInDot⟩ := path
  obtain ⟨_, _, _, _⟩ := path'
  obtain rfl := hrooted
  obtain rfl := hnames
  obtain rfl := hfolder
  rfl

theorem locate_leaf (h : (d.locate path).leaf? = some (p, content)) :
    p = d.placeOf path ∧ p ≠ [] ∧ d.at? p = content.map .file := by
  simp only [locate] at h
  split at h
  · cases h
  · split at h
    · cases h
    · exact follow_leaf h

theorem locate_agree (h : (d.locate path).leaf? = some (p, content))
    (hd : ∀ q, q ≠ p → d'.at? q = d.at? q) (hhere : d'.here = d.here)
    (hclosed : d'.closed = d.closed) :
    d'.locate path = spotAt path.isFolder p (d'.at? p) := by
  simp only [locate] at h ⊢
  split at h
  · cases h
  · split at h
    · cases h
    · rw [if_neg ‹_›, hhere]
      exact follow_agree h hd hclosed

/-- A plain name leads to what stands under it. -/
theorem locate_name {name : String} (hopen : d.isClosed d.here = false) (hback : name ≠ "..")
    (hlong : name.utf8ByteSize ≤ longestName) (hnul : '\x00' ∉ name.toList) :
    d.locate ⟨false, [name], false, false⟩ =
      spotAt false (d.here ++ [name]) (d.at? (d.here ++ [name])) := by
  have hsize : ¬ longestPath < Path.size ⟨false, [name], false, false⟩ := by
    simp only [Path.size, List.foldl_cons, List.foldl_nil, longestPath, longestName] at hlong ⊢
    simp only [Bool.false_eq_true, if_false]
    omega
  have hflaw : flaw? ⟨false, [name], false, false⟩ = none := by simp [flaw?, hnul, hsize]
  simp only [locate, hflaw, follow, Nat.not_lt.mpr hlong, beq_iff_eq, hback, Path.isEmpty]
  cases hat : d.at? (d.here ++ [name]) with
  | none => simp [spotAt, hat, hopen]
  | some e => cases e <;> simp [spotAt, hat, hopen]

/-- A path that leads to a file does not ask for a folder. -/
theorem isFolder_of_locate (h : d.locate path = .file p bytes) : path.isFolder = false := by
  have hleaf : (d.locate path).leaf? = some (p, some bytes) := by rw [h]; rfl
  have hself := locate_agree hleaf (fun _ _ => rfl) rfl rfl
  rw [h, (locate_leaf hleaf).2.2] at hself
  cases hm : path.isFolder with
  | false => rfl
  | true => rw [hm] at hself; cases hself

/-- The bytes of the file that a path leads to; none if it leads to no file. -/
def bytesAt (d : Disk) (path : Path) : List UInt8 :=
  match d.locate path with
  | .file _ bytes => bytes
  | _ => []

theorem contents_eq_ok : d.contents path = .ok bytes ↔ ∃ p, d.locate path = .file p bytes := by
  simp only [contents]
  split <;> simp_all

theorem bytesAt_of_contents (h : d.contents path = .ok bytes) : d.bytesAt path = bytes := by
  obtain ⟨p, hloc⟩ := contents_eq_ok.mp h
  simp only [bytesAt, hloc]

theorem bytesAt_of_missing (h : d.contents path = .error .missing) : d.bytesAt path = [] := by
  simp only [bytesAt]
  split
  · next hloc => simp [contents, hloc] at h
  · rfl

/-! ### What an operation leaves alone -/

/-- Two disks are used from the same place and under the same terms: the same folders may be
searched and changed. -/
structure SameTerms (d d' : Disk) : Prop where
  here : d'.here = d.here
  closed : d'.closed = d.closed
  fixed : d'.fixed = d.fixed

theorem SameTerms.refl (d : Disk) : SameTerms d d := ⟨rfl, rfl, rfl⟩

theorem SameTerms.trans {d₁ d₂ d₃ : Disk} (h₁ : SameTerms d₁ d₂) (h₂ : SameTerms d₂ d₃) :
    SameTerms d₁ d₃ :=
  ⟨h₂.here.trans h₁.here, h₂.closed.trans h₁.closed, h₂.fixed.trans h₁.fixed⟩

theorem SameTerms.isClosed (h : SameTerms d d') (q : Place) : d'.isClosed q = d.isClosed q := by
  rw [Disk.isClosed, Disk.isClosed, h.closed]

theorem SameTerms.isFixed (h : SameTerms d d') (q : Place) : d'.isFixed q = d.isFixed q := by
  rw [Disk.isFixed, Disk.isFixed, h.fixed]

theorem sameTerms_put (d : Disk) (p : Place) (e : Entry) : SameTerms d (d.put p e) :=
  ⟨rfl, rfl, rfl⟩

theorem sameTerms_erase (d : Disk) (p : Place) : SameTerms d (d.erase p) := ⟨rfl, rfl, rfl⟩

/-- Two disks agree on every file but the one at a path. -/
structure SameElsewhere (path : Path) (d d' : Disk) : Prop extends SameTerms d d' where
  file? : ∀ q, q ≠ d.placeOf path → d'.file? q = d.file? q

namespace SameElsewhere

theorem refl (path : Path) (d : Disk) : SameElsewhere path d d := ⟨.refl d, fun _ _ => rfl⟩

theorem trans {d₁ d₂ d₃ : Disk} (h₁ : SameElsewhere path d₁ d₂) (h₂ : SameElsewhere path d₂ d₃) :
    SameElsewhere path d₁ d₃ := by
  refine ⟨h₁.toSameTerms.trans h₂.toSameTerms, fun q hq => ?_⟩
  rw [h₂.file? q (placeOf_congr h₁.here path ▸ hq), h₁.file? q hq]

/-- A change of the entry at the place of a path is one. -/
theorem of_at? (hterms : SameTerms d d')
    (hd : ∀ q, q ≠ d.placeOf path → d'.at? q = d.at? q) : SameElsewhere path d d' :=
  ⟨hterms, fun q hq => by simp only [Disk.file?, hd q hq]⟩

end SameElsewhere

/-- Two disks with the same files, whatever folders there are. -/
structure SameFiles (d d' : Disk) : Prop extends SameTerms d d' where
  file? : ∀ q, d'.file? q = d.file? q

namespace SameFiles

theorem refl (d : Disk) : SameFiles d d := ⟨.refl d, fun _ => rfl⟩

theorem of_eq (h : d' = d) : SameFiles d d' := h ▸ .refl d

theorem trans {d₁ d₂ d₃ : Disk} (h₁ : SameFiles d₁ d₂) (h₂ : SameFiles d₂ d₃) :
    SameFiles d₁ d₃ :=
  ⟨h₁.toSameTerms.trans h₂.toSameTerms, fun q => (h₂.file? q).trans (h₁.file? q)⟩

theorem elsewhere (h : SameFiles d d') (path : Path) : SameElsewhere path d d' :=
  ⟨h.toSameTerms, fun q _ => h.file? q⟩

end SameFiles

/-- Writing a file where a path leads to a file or to a vacant place. -/
theorem locate_put (h : (d.locate path).leaf? = some (p, content)) (hfile : path.isFolder = false) :
    (d.put p (.file bytes)).locate path = .file p bytes ∧
      SameElsewhere path d (d.put p (.file bytes)) := by
  obtain ⟨hp, hne, -⟩ := locate_leaf h
  have hother : ∀ q, q ≠ p → (d.put p (.file bytes)).at? q = d.at? q := fun q hq => by
    rw [at?_put d hne, if_neg hq.symm]
  refine ⟨?_, .of_at? (sameTerms_put d p _) fun q hq => hother q (hp ▸ hq)⟩
  rw [locate_agree h hother rfl rfl, at?_put d hne, if_pos rfl]
  simp [spotAt, hfile]

/-- After removing a file, nothing stands where its path leads, and something may be made there. -/
theorem locate_of_removeFile (h : d.removeFile path = .ok d') :
    ((∃ p, d'.locate path = .vacant p ∧ d'.isFixed p = false) ∨
        d.locate path = .nowhere .missing ∧ d' = d) ∧
      SameElsewhere path d d' := by
  simp only [removeFile] at h
  split at h
  · next p bytes hloc =>
    split at h
    · cases h
    next hfree =>
      obtain rfl := Except.ok.inj h
      have hleaf : (d.locate path).leaf? = some (p, some bytes) := by rw [hloc]; rfl
      obtain ⟨hp, hne, -⟩ := locate_leaf hleaf
      have hother : ∀ q, q ≠ p → (d.erase p).at? q = d.at? q := fun q hq => by
        rw [at?_erase d hne, if_neg hq.symm]
      refine ⟨.inl ⟨p, ?_, by simpa [isFixed, erase] using hfree⟩,
        .of_at? (sameTerms_erase d p) fun q hq => hother q (hp ▸ hq)⟩
      rw [locate_agree hleaf hother rfl rfl, at?_erase d hne, if_pos rfl]
      rfl
  · cases h
  · next p hloc =>
    split at h
    · cases h
    next hfree =>
      obtain rfl := Except.ok.inj h
      exact ⟨.inl ⟨p, hloc, by simpa using hfree⟩, .refl path _⟩
  · next hloc =>
    obtain rfl := Except.ok.inj h
    exact ⟨.inr ⟨hloc, rfl⟩, .refl path _⟩
  · cases h

theorem contents_of_removeFile (h : d.removeFile path = .ok d') :
    d'.contents path = .error .missing := by
  rcases (locate_of_removeFile h).1 with ⟨p, hloc, -⟩ | ⟨hloc, rfl⟩ <;> simp only [contents, hloc]

/-- A file can be removed unless its file system is read-only. -/
theorem removeFile_of_locate (h : d.locate path = .file p bytes) (hfree : d.isFixed p = false) :
    d.removeFile path = .ok (d.erase p) := by
  simp [removeFile, h, hfree]

/-- What was removed can be removed again. -/
theorem removeFile_of_removed (h : d.removeFile path = .ok d') :
    d'.removeFile path = .ok d' := by
  rcases (locate_of_removeFile h).1 with ⟨p, hloc, hfree⟩ | ⟨hloc, rfl⟩
  · simp [removeFile, hloc, hfree]
  · exact h

/-- An opened file is there, with the bytes that it had, and can be removed. -/
theorem locate_of_openFile (h : d.openFile path = .ok (p, bytes, d')) :
    bytes = d.bytesAt path ∧ d'.locate path = .file p bytes ∧ SameElsewhere path d d' ∧
      d'.isFixed p = false := by
  simp only [openFile] at h
  split at h
  · next hloc =>
    split at h
    · cases h
    next hfree =>
      obtain ⟨rfl, rfl, rfl⟩ := by simpa using h
      exact ⟨by simp only [bytesAt, hloc], hloc, .refl path _, by simpa using hfree⟩
  · cases h
  · next q hloc =>
    split at h
    · cases h
    next hfolder =>
      split at h
      · cases h
      next hfree =>
        obtain ⟨rfl, rfl, rfl⟩ := by simpa using h
        have hleaf : (d.locate path).leaf? = some (q, none) := by rw [hloc]; rfl
        obtain ⟨hmade, hsame⟩ := locate_put hleaf (by simpa using hfolder)
        exact ⟨by simp only [bytesAt, hloc], hmade, hsame, by simpa [isFixed, put] using hfree⟩
  · cases h

theorem openFile_of_locate (h : d.locate path = .file p bytes) (hfree : d.isFixed p = false) :
    d.openFile path = .ok (p, bytes, d) := by
  simp [openFile, h, hfree]

/-- Bytes added to a file are behind those that it had. -/
theorem locate_append (more : List UInt8) (h : d.locate path = .file p bytes) :
    (d.append p more).locate path = .file p (bytes ++ more) ∧
      SameElsewhere path d (d.append p more) := by
  have hleaf : (d.locate path).leaf? = some (p, some bytes) := by rw [h]; rfl
  have hbytes : d.file? p = some bytes := by simp [file?, (locate_leaf hleaf).2.2]
  simp only [append, hbytes, Option.getD_some]
  exact locate_put hleaf (isFolder_of_locate h)

theorem locate_truncate (n : Nat) (h : d.locate path = .file p bytes) :
    (d.truncate p n).locate path = .file p (bytes.take n) ∧
      SameElsewhere path d (d.truncate p n) := by
  have hleaf : (d.locate path).leaf? = some (p, some bytes) := by rw [h]; rfl
  have hbytes : d.file? p = some bytes := by simp [file?, (locate_leaf hleaf).2.2]
  simp only [truncate, hbytes, Option.getD_some]
  exact locate_put hleaf (isFolder_of_locate h)

/-! ### Making folders -/

/-- A folder put where nothing stands changes no file. -/
theorem sameFiles_put_folder (hp : p ≠ []) (h : d.at? p = none) :
    SameFiles d (d.put p .folder) := by
  refine ⟨sameTerms_put d p _, fun q => ?_⟩
  simp only [file?, at?_put d hp]
  by_cases hq : p = q
  · simp [← hq, h]
  · simp [hq]

/-- Making folders changes no file. -/
theorem sameFiles_of_makeFolders (h : d.makeFolders start names = .ok d') : SameFiles d d' := by
  fun_induction makeFolders d start names with
  | case1 d start => cases h; exact .refl _
  | case2 d start name names hclosed => cases h
  | case3 d start name names hclosed hback ih => exact ih h
  | case4 d start name names hclosed hback hlong => cases h
  | case5 d start name names hclosed hback hlong next hnext ih => exact ih h
  | case6 d start name names hclosed hback hlong next bytes hnext => cases h
  | case7 d start name names hclosed hback hlong next hnext hfixed => cases h
  | case8 d start name names hclosed hback hlong next hnext hfree ih =>
    exact (sameFiles_put_folder (List.concat_ne_nil name start) hnext).trans (ih h)

/-- Where all folders are made, the names lead to a folder. -/
theorem follow_of_makeFolders (h : d.makeFolders start names = .ok d') :
    (∀ q, d.at? q = some .folder → d'.at? q = some .folder) ∧
      d'.follow m start names = .folder (walk start names) := by
  fun_induction makeFolders d start names with
  | case1 d start => cases h; exact ⟨fun _ h => h, rfl⟩
  | case2 d start name names hclosed => cases h
  | case3 d start name names hclosed hback ih =>
    obtain ⟨hkeep, hway⟩ := ih h
    have hsearch := (sameFiles_of_makeFolders h).isClosed start
    refine ⟨hkeep, ?_⟩
    rw [follow, hsearch, if_neg hclosed, if_pos hback, hway, walk, if_pos hback]
  | case4 d start name names hclosed hback hlong => cases h
  | case5 d start name names hclosed hback hlong next hnext ih =>
    obtain ⟨hkeep, hway⟩ := ih h
    have hsearch := (sameFiles_of_makeFolders h).isClosed start
    refine ⟨hkeep, ?_⟩
    rw [follow, hsearch, if_neg hclosed, if_neg hback, if_neg hlong, walk, if_neg hback]
    simp only [hkeep next hnext, next] at hway ⊢
    exact hway
  | case6 d start name names hclosed hback hlong next bytes hnext => cases h
  | case7 d start name names hclosed hback hlong next hnext hfixed => cases h
  | case8 d start name names hclosed hback hlong next hnext hfree ih =>
    obtain ⟨hkeep, hway⟩ := ih h
    have hsearch : d'.isClosed start = d.isClosed start :=
      (sameFiles_of_makeFolders h).isClosed start
    have hne : next ≠ [] := by simp [next]
    have hmade : d'.at? next = some .folder := hkeep next (by rw [at?_put d hne, if_pos rfl])
    refine ⟨fun q hq => hkeep q ?_, ?_⟩
    · rw [at?_put d hne]
      split
      · rfl
      · exact hq
    · rw [follow, hsearch, if_neg hclosed, if_neg hback, if_neg hlong, walk, if_neg hback]
      simp only [next] at hmade hway
      simp only [hmade]
      exact hway

theorem sameFiles_of_createFolders {folder : Path} (h : d.createFolders folder = .ok d') :
    SameFiles d d' := by
  simp only [createFolders] at h
  split at h
  · cases h
  · split at h
    · simp only [bind, Except.bind] at h
      split at h
      · cases h
      · next made hmade =>
        split at h <;> cases h
        exact sameFiles_of_makeFolders hmade
    · exact sameFiles_of_makeFolders h

/-- Once the folder above it is made, a path that names something leads somewhere. -/
theorem locate_ne_missing (hnames : path.names ≠ [])
    (h : d.createFolders ⟨path.rooted, path.names.dropLast, false, false⟩ = .ok d') :
    d'.locate path ≠ .nowhere .missing := by
  simp only [createFolders] at h
  split at h
  · cases h
  · rw [if_neg (by simp)] at h
    -- All names but the last lead to a folder, so the last leads somewhere.
    have hway := (follow_of_makeFolders (m := false) h).2
    rw [← (sameFiles_of_makeFolders h).here] at hway
    have hsplit := List.dropLast_concat_getLast hnames
    have hmore : d'.follow path.isFolder _
        (path.names.dropLast ++ [path.names.getLast hnames]) = _ := follow_append hway
    rw [hsplit] at hmore
    simp only [locate]
    split
    · next why hwhy =>
      simp only [flaw?] at hwhy
      split at hwhy
      · cases hwhy; simp
      · split at hwhy
        · cases hwhy; simp
        · cases hwhy
    · rw [if_neg (by simp [Path.isEmpty, hnames]), hmore]
      generalize walk _ path.names.dropLast = above
      simp only [follow, List.isEmpty_nil, if_true]
      split
      · simp
      · split
        · simp
        · split
          · simp
          · split <;> (try split) <;> simp

/-- Where folders cannot be made, no way behind them ends in a file or in a vacant place. -/
theorem leaf?_of_makeFolders_error {why : Problem} {more : List String} (hmore : more ≠ [])
    (h : d.makeFolders start names = .error why) :
    (d.follow m start (names ++ more)).leaf? = none := by
  fun_induction makeFolders d start names with
  | case1 d start => cases h
  | case2 d start name names hclosed =>
    rw [List.cons_append, follow, if_pos hclosed]
    rfl
  | case3 d start name names hclosed hback ih =>
    rw [List.cons_append, follow, if_neg hclosed, if_pos hback]
    exact ih h
  | case4 d start name names hclosed hback hlong =>
    rw [List.cons_append, follow, if_neg hclosed, if_neg hback, if_pos hlong]
    rfl
  | case5 d start name names hclosed hback hlong next hnext ih =>
    rw [List.cons_append, follow, if_neg hclosed, if_neg hback, if_neg hlong]
    simp only [next] at hnext
    simp only [hnext]
    exact ih h
  | case6 d start name names hclosed hback hlong next bytes hnext =>
    rw [List.cons_append, follow, if_neg hclosed, if_neg hback, if_neg hlong]
    simp only [next] at hnext
    simp [hnext, hmore, Spot.leaf?]
  | case7 d start name names hclosed hback hlong next hnext hfixed
  | case8 d start name names hclosed hback hlong next hnext hfree ih =>
    -- Whatever is wrong further on, the way is not there yet.
    rw [List.cons_append, follow, if_neg hclosed, if_neg hback, if_neg hlong]
    simp only [next] at hnext
    simp [hnext, hmore, Spot.leaf?]

theorem foldl_size_le (names : List String) (n : Nat) :
    n ≤ names.foldl (fun n name => n + name.utf8ByteSize + 1) n := by
  induction names generalizing n with
  | nil => exact Nat.le_refl n
  | cons name names ih =>
    have := ih (n + name.utf8ByteSize + 1)
    rw [List.foldl_cons]
    omega

/-- What is wrong with the folder above a path is wrong with the path. -/
theorem flaw?_of_dropLast (hnames : path.names ≠ []) (h : flaw? path = none) :
    flaw? ⟨path.rooted, path.names.dropLast, false, false⟩ = none := by
  have hsplit := List.dropLast_concat_getLast hnames
  simp only [flaw?] at h ⊢
  split at h
  · cases h
  next hnul =>
    split at h
    · cases h
    next hlong =>
      have hclean : ¬ path.names.dropLast.any (·.toList.contains '\x00') = true := by
        intro hdrop
        refine hnul ?_
        rw [← hsplit, List.any_append, hdrop, Bool.true_or]
      have hshort : Path.size ⟨path.rooted, path.names.dropLast, false, false⟩ ≤ path.size := by
        rw [Path.size, Path.size, ← hsplit, List.foldl_append, List.dropLast_concat]
        have := foldl_size_le [path.names.getLast hnames]
          (path.names.dropLast.foldl (fun n name => n + name.utf8ByteSize + 1) 0)
        simp only [Bool.false_eq_true, if_false]
        omega
      rw [if_neg hclean, if_neg (by omega)]

/-- Where the folder above a path cannot be made, the path leads to no file. -/
theorem contents_of_unmade {folder : Path} {why : Problem} (hparent : path.parent? = some folder)
    (h : d.createFolders folder = .error why) (bytes : List UInt8) :
    d.contents path ≠ .ok bytes := by
  obtain rfl : ⟨path.rooted, path.names.dropLast, false, false⟩ = folder := by
    rw [Path.parent?] at hparent
    split at hparent
    · cases hparent
    · exact Option.some.inj hparent
  intro hfile
  obtain ⟨p, hlocate⟩ := contents_eq_ok.mp hfile
  simp only [locate] at hlocate
  split at hlocate
  · cases hlocate
  next hflaw =>
    split at hlocate
    · cases hlocate
    next hempty =>
      cases hnames : path.names with
      | nil =>
        rw [hnames] at hlocate
        cases hlocate
      | cons name names =>
        have hne : path.names ≠ [] := by simp [hnames]
        rw [createFolders, flaw?_of_dropLast hne hflaw] at h
        dsimp only at h
        rw [if_neg Bool.false_ne_true] at h
        have hnone := leaf?_of_makeFolders_error (m := path.isFolder)
          (List.cons_ne_nil (path.names.getLast hne) []) h
        rw [List.dropLast_concat_getLast hne, hlocate] at hnone
        cases hnone

/-- A file stands at the place of a path that cannot be taken away: its file system is read-only. -/
def Retains (d : Disk) (path : Path) (bytes : List UInt8) : Prop :=
  d.file? (d.placeOf path) = some bytes ∧ d.isFixed (d.placeOf path) = true

theorem Retains.of_sameFiles (hsame : SameFiles d d') (h : d'.Retains path bytes) :
    d.Retains path bytes := by
  obtain ⟨hfile, hfixed⟩ := h
  rw [placeOf_congr hsame.here] at hfile hfixed
  exact ⟨(hsame.file? _).symm.trans hfile, (hsame.isFixed _).symm.trans hfixed⟩

/-- What cannot be removed is no file, or one that a read-only file system retains. -/
theorem retains_of_unremoved {why : Problem} (h : d.removeFile path = .error why)
    (hfile : d.contents path = .ok bytes) : d.Retains path bytes := by
  obtain ⟨p, hlocate⟩ := contents_eq_ok.mp hfile
  have hleaf : (d.locate path).leaf? = some (p, some bytes) := by rw [hlocate]; rfl
  obtain ⟨rfl, -, hat⟩ := locate_leaf hleaf
  refine ⟨by simp [file?, hat], ?_⟩
  simp only [removeFile, hlocate] at h
  split at h
  · assumption
  · cases h

/-- A file whose folder is made and that is removed can be opened, unless its path asks for a folder
or is empty. -/
theorem openFile_of_removed {d₀ : Disk} (hfile : path.isFolder = false)
    (hpath : path.isEmpty = false)
    (hfolder : ∀ folder, path.parent? = some folder → d₀.createFolders folder = .ok d)
    (h : d.removeFile path = .ok d') :
    ∃ p, d'.openFile path = .ok (p, [], d'.put p (.file [])) := by
  rcases (locate_of_removeFile h).1 with ⟨p, hloc, hfree⟩ | ⟨hloc, rfl⟩
  · exact ⟨p, by simp [openFile, hloc, hfile, hfree]⟩
  · exfalso
    cases hnames : path.names with
    | nil =>
      have hrooted : path.rooted = true := by simpa [Path.isEmpty, hnames, hfile] using hpath
      simp [locate, flaw?, hpath, hnames, hrooted, follow, Path.size, hfile, longestPath] at hloc
    | cons name names =>
      have hne : path.names ≠ [] := by simp [hnames]
      have hmade := hfolder ⟨path.rooted, path.names.dropLast, false, false⟩ (by
        simp [Path.parent?, hnames])
      exact locate_ne_missing hne hmade hloc

end Tutor.Disk
