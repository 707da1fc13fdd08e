import Tutor.Proofs.Speech.Assembly

/-!
# How an assembly ends

An assembly fails exactly if its destination cannot be prepared, and then nothing was asked for and
no file is there but one that a read-only file system retains. Otherwise a piece is written exactly
if it arrives and the path can be that of a file, so whether there is a file in the end is told by
what lies outside.

* `Preparable`, `run_prepare_ok`, `run_prepare_error` – when a destination can be prepared.
* `Arrived`, `mem_written_iff`, `length_written_add_missing` – which pieces are written, and how
  many.
* `Ended`, `ended_assemble` – how an assembly ends.
-/

namespace Tutor.Speech.Fetching

open Tutor.Http

variable {σ : Type} {destination : Path} {d d' : Disk} {w : World σ}

/-! ### Preparing a destination -/

/-- Makes the folder above a file, and removes the file if it is there. -/
def cleared (destination : Path) (d : Disk) : Except Disk.Problem Disk :=
  match destination.parent? with
  | none => d.removeFile destination
  | some folder =>
    match d.createFolders folder with
    | .error why => .error why
    | .ok made => made.removeFile destination

/-- The folder above a destination can be made, and what stands there then, if anything, can be
removed as a file. -/
def Preparable (destination : Path) (d : Disk) : Prop := ∃ d', cleared destination d = .ok d'

/-- A plain name can be prepared where nothing stands under it. -/
theorem preparable_name {name : String} (hopen : d.isClosed d.here = false)
    (hfree : d.isFixed (d.here ++ [name]) = false) (hback : name ≠ "..")
    (hlong : name.utf8ByteSize ≤ Disk.longestName) (hnul : '\x00' ∉ name.toList)
    (hnone : d.at? (d.here ++ [name]) = none) :
    Preparable ⟨false, [name], false, false⟩ d := by
  have hparent : Path.parent? ⟨false, [name], false, false⟩ = some ⟨false, [], false, false⟩ := by
    simp [Path.parent?]
  have hfolders : d.createFolders ⟨false, [], false, false⟩ = .ok d := by
    simp [Disk.createFolders, Disk.flaw?, Disk.makeFolders, Path.size]
  have hremove : d.removeFile ⟨false, [name], false, false⟩ = .ok d := by
    rw [Disk.removeFile, Disk.locate_name hopen hback hlong hnul, hnone]
    simp [Disk.spotAt, hfree]
  refine ⟨d, ?_⟩
  rw [cleared, hparent]
  simp only [hfolders, hremove]

theorem run_clear_ok (h : w.disk.removeFile destination = .ok d') :
    StateT.run (clear destination) w = (.ok (), { w with disk := d' }) := by
  rw [clear, Run.run_bind, Run.run_onDisk_ok h]
  rfl

theorem run_clear_error {why : Disk.Problem} (h : w.disk.removeFile destination = .error why) :
    StateT.run (clear destination) w = (.error (.system why.message), w) := by
  rw [clear, Run.run_bind, Run.run_onDisk_error h]
  rfl

theorem run_prepare_ok (h : cleared destination w.disk = .ok d') :
    StateT.run (prepare destination) w = (.ok (), { w with disk := d' }) := by
  rw [cleared] at h
  rw [prepare]
  split at h
  next hparent =>
    rw [hparent]
    exact run_clear_ok h
  next folder hparent =>
    rw [hparent]
    split at h
    · cases h
    next made hmade =>
      dsimp only
      rw [Run.run_bind, Run.run_onDisk_ok hmade]
      exact run_clear_ok (w := { w with disk := made }) h

/-- A destination that cannot be prepared is no file, or one that a read-only file system retains,
and no file was touched. -/
theorem run_prepare_error {why : Disk.Problem} (h : cleared destination w.disk = .error why) :
    ∃ d', StateT.run (prepare destination) w =
        (.error (.system why.message), { w with disk := d' }) ∧
      w.disk.SameFiles d' ∧
      ∀ bytes, d'.contents destination = .ok bytes → w.disk.Retains destination bytes := by
  rw [cleared] at h
  rw [prepare]
  split at h
  next hparent =>
    rw [hparent]
    exact ⟨w.disk, run_clear_error h, .refl _, fun _ => Disk.retains_of_unremoved h⟩
  next folder hparent =>
    rw [hparent]
    dsimp only
    rw [Run.run_bind]
    split at h
    next why' hunmade =>
      obtain rfl := Except.error.inj h
      rw [Run.run_onDisk_error hunmade]
      exact ⟨w.disk, rfl, .refl _, fun bytes hfile =>
        absurd hfile (Disk.contents_of_unmade hparent hunmade bytes)⟩
    next made hmade =>
      rw [Run.run_onDisk_ok hmade]
      have hsame := Disk.sameFiles_of_createFolders hmade
      exact ⟨made, run_clear_error (w := { w with disk := made }) h, hsame,
        fun _ hfile => (Disk.retains_of_unremoved h hfile).of_sameFiles hsame⟩

/-! ### Pieces that are written -/

variable [Outside σ] {f : Fetching} {locations : List String} {report : Report} {w₀ : World σ}

/-- The piece at a place arrives, when all before it were asked for. -/
def Arrived (f : Fetching) (s : σ) (locations : List String) (i : Nat) : Prop :=
  ∃ location r, locations[i]? = some location ∧ f.Arrives (f.outsideAt s locations i) location r

theorem Progress.mem_written_iff
    (h : Progress f destination locations w₀ locations.length report w)
    (hopens : ∃ x, w₀.disk.openFile destination = .ok x) (i : Nat) :
    i ∈ report.written ↔ f.Arrived w₀.outside locations i := by
  constructor
  · intro hi
    obtain ⟨answers, hanswers, -⟩ := h.file
    obtain ⟨j, hj, rfl⟩ := List.getElem_of_mem hi
    have hlength := hanswers.length_eq
    obtain ⟨y, hy, hr, hwhole⟩ := hanswers.get hj (hlength ▸ hj)
    rw [getElem?_visits, Option.map_eq_some_iff] at hy
    obtain ⟨location, hlocation, rfl⟩ := hy
    exact ⟨location, _, hlocation, arrives_iff.mpr ⟨hr, hwhole⟩⟩
  · rintro ⟨location, r, hlocation, harrives⟩
    obtain ⟨hvalue, hwhole⟩ := arrives_iff.mp harrives
    have hi : i < locations.length := (List.getElem?_eq_some_iff.mp hlocation).1
    rcases (h.settled i).mp hi with hi | hi
    · exact hi
    · -- A piece passed over would have broken off.
      obtain ⟨m, hm, rfl⟩ := List.mem_map.mp hi
      have hy : (f.visits w₀.outside locations)[m.index]? =
          some ((f.fetch location).run (f.outsideAt w₀.outside locations m.index)) := by
        rw [getElem?_visits, hlocation]
        rfl
      have hbroken := (h.opens hopens).2 m hm _ r hy hvalue
      cases hwhole.symm.trans hbroken

/-- Every piece counts once. -/
theorem Progress.length_written_add_missing
    (h : Progress f destination locations w₀ locations.length report w) :
    report.written.length + report.missing.length = locations.length := by
  have hnodup : (report.written ++ report.missing.map MissingPiece.index).Nodup := by
    refine List.nodup_append.mpr
      ⟨h.written_increasing.imp Nat.ne_of_lt, h.missing_increasing.imp Nat.ne_of_lt, ?_⟩
    rintro i hi j hj rfl
    exact h.disjoint i hi hj
  have hperm : (report.written ++ report.missing.map MissingPiece.index).Perm
      (List.range locations.length) := by
    refine (List.perm_ext_iff_of_nodup hnodup List.nodup_range).mpr fun i => ?_
    rw [List.mem_append, List.mem_range]
    exact (h.settled i).symm
  have hlength := hperm.length_eq
  rwa [List.length_append, List.length_map, List.length_range] at hlength

/-! ### The end -/

/-- A piece arrives that can be written: the path does not ask for a folder. -/
def Heard (f : Fetching) (destination : Path) (s : σ) (locations : List String) : Prop :=
  destination.isFolder = false ∧ ∃ i, f.Arrived s locations i

/-- How an assembly ends: its result and the world afterwards. -/
inductive Ended (f : Fetching) (destination : Path) (locations : List String) (w : World σ) :
    Except Fault Report → World σ → Prop
  /-- The destination could not be prepared. Nothing but the disk was touched, and no file on it. -/
  | unprepared {d' : Disk} (e : Fault) : ¬ Preparable destination w.disk → w.disk.SameFiles d' →
      (∀ bytes, d'.contents destination = .ok bytes → w.disk.Retains destination bytes) →
      Ended f destination locations w (.error e) { w with disk := d' }
  /-- No piece was written, and there is no file. -/
  | empty {report : Report} {w' : World σ} : Preparable destination w.disk →
      ¬ f.Heard destination w.outside locations → report.isEmpty = true →
      w'.disk.contents destination = .error .missing →
      w.disk.SameElsewhere destination w'.disk → Ended f destination locations w (.ok report) w'
  /-- A piece was written, and the file has the length reported. -/
  | filled {report : Report} {w' : World σ} {bytes : List UInt8} :
      Preparable destination w.disk → f.Heard destination w.outside locations →
      report.isEmpty = false →
      report.written.length + report.missing.length = locations.length →
      w'.disk.contents destination = .ok bytes → bytes.length = report.bytes →
      w.disk.SameElsewhere destination w'.disk → Ended f destination locations w (.ok report) w'

/-- The pieces in turn from a prepared disk end with a file exactly if one could be written. -/
theorem Progress.ended (hd : Preparable destination w.disk) {d₀ : Disk} {w₁ : World σ}
    (hpath : destination.isEmpty = false) (hsame : w.disk.SameElsewhere destination d₀)
    (hprepared : Prepared destination d₀)
    (h : Progress f destination locations { w with disk := d₀ } locations.length report w₁)
    (hkept : report.written ≠ [] → d' = w₁.disk)
    (hremoved : report.written = [] → w₁.disk.removeFile destination = .ok d') :
    Ended f destination locations w (.ok report) { w₁ with disk := d' } := by
  have hpieces := hsame.trans h.elsewhere
  cases hempty : report.written with
  | nil =>
    have hremove := hremoved hempty
    refine .empty hd ?_ ?_ (Disk.contents_of_removeFile hremove)
      (hpieces.trans (Disk.locate_of_removeFile hremove).2)
    · rintro ⟨hfile, i, hi⟩
      have hwritten := (h.mem_written_iff (hprepared.opens hfile hpath) i).mpr hi
      rw [hempty] at hwritten
      cases hwritten
    · rw [Report.isEmpty, hempty]
      rfl
  | cons i more =>
    have hne : report.written ≠ [] := by simp [hempty]
    obtain rfl := hkept hne
    obtain ⟨answers, -, -, hlength, hcontents⟩ := h.file
    -- The path leads to a file in the end, so it asks for none but a file.
    obtain ⟨p, hlocate⟩ := Disk.contents_eq_ok.mp (hcontents hne)
    have hfile := Disk.isFolder_of_locate hlocate
    have harrived : f.Arrived w.outside locations i := by
      refine (h.mem_written_iff (hprepared.opens hfile hpath) i).mp ?_
      rw [hempty]
      exact List.mem_cons_self
    refine .filled hd ⟨hfile, i, harrived⟩ ?_ h.length_written_add_missing (hcontents hne)
      hlength.symm hpieces
    rw [Report.isEmpty, hempty]
    rfl

/-- An assembly whose destination cannot be prepared fails, and no file is touched. -/
theorem run_assemble_unprepared {why : Disk.Problem} (f : Fetching) (locations : List String)
    (h : cleared destination w.disk = .error why) :
    ∃ d', StateT.run (f.assemble locations destination) w =
        (.error (.system why.message), { w with disk := d' }) ∧
      w.disk.SameFiles d' ∧
      ∀ bytes, d'.contents destination = .ok bytes → w.disk.Retains destination bytes := by
  obtain ⟨d', hprepare, hsame, hnone⟩ := run_prepare_error h
  refine ⟨d', ?_, hsame, hnone⟩
  rw [assemble, Run.run_bind, hprepare]
  rfl

theorem not_preparable {why : Disk.Problem} (h : cleared destination d = .error why) :
    ¬ Preparable destination d := by
  rintro ⟨d', hd'⟩
  rw [h] at hd'
  cases hd'

/-- However an assembly ends, its destination and what lies outside tell which way it is. -/
theorem ended_assemble (f : Fetching) (locations : List String) (w : World σ)
    (hpath : destination.isEmpty = false) :
    Ended f destination locations w (StateT.run (f.assemble locations destination) w).1
      (StateT.run (f.assemble locations destination) w).2 := by
  cases hcleared : cleared destination w.disk with
  | error why =>
    obtain ⟨d', hrun, hsame, hnone⟩ := run_assemble_unprepared f locations hcleared
    rw [hrun]
    exact .unprepared _ (not_preparable hcleared) hsame hnone
  | ok d₀ =>
    obtain ⟨report, w₁, d', hsame, hprepared, hall, hkept, hremoved, hrun⟩ :=
      run_assemble_prepared (f := f) locations (run_prepare_ok hcleared)
    rw [hrun]
    exact hall.ended ⟨d₀, hcleared⟩ hpath hsame hprepared hkept hremoved

end Tutor.Speech.Fetching
