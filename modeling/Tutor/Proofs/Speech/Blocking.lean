import Tutor.Proofs.Disk.Blocked
import Tutor.Proofs.Speech.Ending
import Tutor.World.Replay

/-!
# When an assembly fails

An assembly fails only over its destination, before anything was asked for: a folder above can be
neither passed nor made, what is in the place cannot be removed as a file, or the removal is refused
though nothing is there. Whatever becomes of the pieces, they do not make it fail; each of them is
in the report.

* `cleared_error_iff` – when a destination cannot be prepared.
* `failure_iff_blocked` – when an assembly fails, and what it leaves behind either way.
* `failure_without_obstacle` – neither the folders above nor what is in the place need be at fault.
-/

namespace Tutor.Speech.Fetching

variable {σ : Type} {destination : Path} {d : Disk}

/-- Something about the disk is in the way of a destination: the folders above, what is in the
place, or the removal of what is not there. -/
def Blocked (destination : Path) (d : Disk) : Prop :=
  d.FolderBlocked destination ∨ d.Occupied destination ∨ d.Withheld destination

/-- A path without names has no folders above it that could be missing. -/
theorem cleared_of_nameless (hnames : destination.names = []) :
    cleared destination d = d.removeFile destination := by
  have hmade : d.createFolders ⟨false, [], false, false⟩ = .ok d := by
    simp [Disk.createFolders, Disk.flaw?, Path.size, Disk.makeFolders]
  rw [cleared, Path.parent?, hnames]
  cases hrooted : destination.rooted with
  | true => rfl
  | false =>
    cases destination.isEmpty with
    | true => rfl
    | false => simp [hmade]

/-- A destination cannot be prepared exactly if something is in its way. -/
theorem cleared_error_iff (hpath : Disk.IsNameable destination) :
    (∃ why, cleared destination d = .error why) ↔ Blocked destination d := by
  by_cases hnames : destination.names = []
  · rw [cleared_of_nameless hnames,
      Disk.removeFile_error_iff_of_nameless hpath.flawless hnames, Blocked,
      or_iff_right (Disk.not_folderBlocked_of_nameless hnames)]
  · have hparent : destination.parent? =
        some ⟨destination.rooted, destination.names.dropLast, false, false⟩ := by
      simp [Path.parent?, hnames]
    have hfolders := Disk.createFolders_error_iff (d := d) hpath hnames
    rw [cleared, hparent]
    dsimp only
    cases hmade :
      d.createFolders ⟨destination.rooted, destination.names.dropLast, false, false⟩ with
    | error why => exact iff_of_true ⟨why, rfl⟩ (.inl (hfolders.mp ⟨why, hmade⟩))
    | ok made =>
      have hfree : ¬ d.FolderBlocked destination := by
        rw [← hfolders, hmade]
        rintro ⟨why, hwhy⟩
        cases hwhy
      rw [Blocked, or_iff_right hfree]
      exact Disk.removeFile_error_iff hpath hnames hmade

/-- A destination with something in its way is not prepared, and no file is touched. -/
theorem exists_error_of_blocked [Outside σ] (f : Fetching) (locations : List String) (w : World σ)
    (hpath : Disk.IsNameable destination) (h : Blocked destination w.disk) :
    ∃ e d', StateT.run (f.assemble locations destination) w = (.error e, { w with disk := d' }) ∧
      w.disk.SameFiles d' := by
  obtain ⟨why, hcleared⟩ := (cleared_error_iff hpath).mpr h
  obtain ⟨d', hrun, hsame, -⟩ := run_assemble_unprepared f locations hcleared
  exact ⟨_, d', hrun, hsame⟩

/-- A destination with nothing in its way is prepared, and each piece is in the report. -/
theorem exists_report_of_not_blocked [Outside σ] (f : Fetching) (locations : List String)
    (w : World σ) (hpath : Disk.IsNameable destination) (h : ¬ Blocked destination w.disk) :
    ∃ report w', StateT.run (f.assemble locations destination) w = (.ok report, w') ∧
      report.written.length + report.missing.length = locations.length := by
  cases hcleared : cleared destination w.disk with
  | error why => exact absurd ((cleared_error_iff hpath).mp ⟨why, hcleared⟩) h
  | ok d₀ =>
    obtain ⟨report, w₁, d', -, -, hall, -, -, hrun⟩ :=
      run_assemble_prepared (f := f) locations (run_prepare_ok hcleared)
    exact ⟨report, _, hrun, hall.length_written_add_missing⟩

/-- An assembly fails exactly if something is in the way of its destination. Then nothing was asked
for and nothing counted, and all files are as they were. Otherwise each piece is in its report. -/
theorem failure_iff_blocked [Outside σ] (f : Fetching) (locations : List String) (w : World σ)
    (hpath : Disk.IsNameable destination) :
    let after := StateT.run (f.assemble locations destination) w
    ((∃ e, after.1 = .error e) ↔ Blocked destination w.disk) ∧
      (∀ e, after.1 = .error e →
        ∃ d', after.2 = { w with disk := d' } ∧ w.disk.SameFiles d') ∧
      ∀ report, after.1 = .ok report →
        report.written.length + report.missing.length = locations.length := by
  by_cases hblocked : Blocked destination w.disk
  · obtain ⟨e, d', hrun, hsame⟩ := exists_error_of_blocked f locations w hpath hblocked
    rw [hrun]
    refine ⟨iff_of_true ⟨e, rfl⟩ hblocked, fun _ _ => ⟨d', rfl, hsame⟩, ?_⟩
    intro report h
    cases h
  · obtain ⟨report, w', hrun, hall⟩ := exists_report_of_not_blocked f locations w hpath hblocked
    rw [hrun]
    refine ⟨iff_of_false (fun ⟨e, h⟩ => by cases h) hblocked, ?_, ?_⟩
    · intro e h
      cases h
    · intro report' h
      obtain rfl := Except.ok.inj h
      exact hall

/-- Where a folder is needed, a file stands. -/
theorem failure_over_file :
    let destination : Path := ⟨false, ["audio", "lesson.mp3"], false, false⟩
    let w : World Replay := { disk := Disk.put {} ["audio"] (.file [9]), outside := ⟨[], none⟩ }
    let after := StateT.run
      (assemble ⟨.ofEntries ["a.b"], 1000, 5⟩ ["http://a.b/1"] destination) w
    Disk.IsNameable destination ∧ Blocked destination w.disk ∧ (∃ e, after.1 = .error e) ∧
      ∃ d', after.2 = { w with disk := d' } ∧ w.disk.SameFiles d' := by
  intro destination w after
  have hpath : Disk.IsNameable destination := ⟨by decide +kernel, by decide +kernel⟩
  have hfile : w.disk.file? ["audio"] = some [9] := by
    simp [w, Disk.file?, Disk.put, Disk.at?]
  have hblocked : Blocked destination w.disk :=
    .inl (.inr ⟨["audio"], List.mem_cons_self, .inl ⟨[9], hfile⟩⟩)
  obtain ⟨hfails, hleft, -⟩ :=
    failure_iff_blocked ⟨.ofEntries ["a.b"], 1000, 5⟩ ["http://a.b/1"] w hpath
  obtain ⟨e, he⟩ := hfails.mpr hblocked
  exact ⟨hpath, hblocked, ⟨e, he⟩, hleft e he⟩

/-- An assembly fails although the folder above is there and nothing is in the place: the folder may
not be searched, or its file system is read-only, or the path means a folder where a file stands. -/
theorem failure_without_obstacle :
    let lesson : Path := ⟨false, ["audio", "lesson.mp3"], false, false⟩
    let slashed : Path := ⟨false, ["a"], true, false⟩
    let closed : Disk := { Disk.put {} ["audio"] .folder with closed := [["audio"]] }
    let fixed : Disk := { Disk.put {} ["audio"] .folder with fixed := [["audio"]] }
    let taken : Disk := Disk.put {} ["a"] (.file [120])
    let after (destination : Path) (d : Disk) := (StateT.run
      (assemble ⟨.ofEntries ["a.b"], 1000, 5⟩ ["http://a.b/1"] destination)
      { disk := d, outside := (⟨[], none⟩ : Replay) }).1
    (¬ closed.FolderBlocked lesson ∧ ¬ closed.Occupied lesson ∧
      ∃ e, after lesson closed = .error e) ∧
    (¬ fixed.FolderBlocked lesson ∧ ¬ fixed.Occupied lesson ∧
      ∃ e, after lesson fixed = .error e) ∧
    ¬ taken.FolderBlocked slashed ∧ ¬ taken.Occupied slashed ∧
      ∃ e, after slashed taken = .error e := by
  intro lesson slashed closed fixed taken after
  have hfails : ∀ {destination d}, Disk.IsNameable destination → d.Withheld destination →
      ∃ e, after destination d = .error e := by
    intro destination d hpath hwithheld
    obtain ⟨e, d', hrun, -⟩ := exists_error_of_blocked
      ⟨.ofEntries ["a.b"], 1000, 5⟩ ["http://a.b/1"]
      { disk := d, outside := (⟨[], none⟩ : Replay) } hpath (.inr (.inr hwithheld))
    exact ⟨e, congrArg Prod.fst hrun⟩
  have hlesson : Disk.IsNameable lesson := ⟨by decide +kernel, by decide +kernel⟩
  have hslashed : Disk.IsNameable slashed := ⟨by decide +kernel, by decide +kernel⟩
  refine ⟨⟨?_, ?_, hfails hlesson ?_⟩, ⟨?_, ?_, hfails hlesson ?_⟩, ?_, ?_, hfails hslashed ?_⟩
  all_goals
    simp [Disk.FolderBlocked, Disk.Occupied, Disk.Withheld, Disk.Obstructed, Disk.LeadsBack,
      Disk.above, Disk.way, Disk.searched, Disk.startOf, Disk.placeOf, Disk.walk, Disk.isClosed,
      Disk.isFixed, Disk.file?, Disk.at?, Disk.put, Path.isEmpty, lesson, slashed, closed, fixed,
      taken]

end Tutor.Speech.Fetching
