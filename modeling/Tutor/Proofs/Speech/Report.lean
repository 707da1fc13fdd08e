import Tutor.Proofs.Speech.Assembly
import Tutor.World.Replay

/-!
# What a report says

An assembly that gives a report has settled every piece, and the file is what the report says: the
bodies of the pieces written, in order, or no file if there were none. Which pieces these are and
what arrived of them is told by what lies outside alone.
-/

namespace Tutor.Speech.Fetching

open Tutor.Http

variable {σ : Type} [Outside σ] {f : Fetching} {locations : List String} {destination : Path}
  {w w' : World σ} {report : Report}

/-- What an assembly that gives a report leaves behind: every piece is settled one way and in order,
the file holds what arrived of the pieces written, and nothing else was touched. -/
structure Assembled (f : Fetching) (locations : List String) (destination : Path) (w : World σ)
    (report : Report) (w' : World σ) : Prop where
  written_increasing : report.written.Pairwise (· < ·)
  missing_increasing : (report.missing.map MissingPiece.index).Pairwise (· < ·)
  settled : ∀ i, i < locations.length ↔
    i ∈ report.written ∨ i ∈ report.missing.map MissingPiece.index
  disjoint : ∀ i ∈ report.written, i ∉ report.missing.map MissingPiece.index
  /-- If a piece was written, the file holds the whole bodies of the pieces written, in order. -/
  file : report.written ≠ [] → ∃ answers : List Response,
    List.Forall₂
      (fun i r => ∃ location, locations[i]? = some location ∧
        f.Arrives (f.outsideAt w.outside locations i) location r)
      report.written answers ∧
    w'.disk.contents destination = .ok (answers.flatMap Response.body) ∧
    report.bytes = (answers.flatMap Response.body).length
  /-- If none was, there is no file. -/
  noFile : report.written = [] → w'.disk.contents destination = .error .missing
  elsewhere : ∀ q, q ≠ w.disk.placeOf destination → w'.disk.file? q = w.disk.file? q
  /-- A piece that arrives is written, unless no file can stand where the path leads. -/
  complete : destination.isFolder = false → destination.isEmpty = false →
    ∀ i location r, locations[i]? = some location →
      f.Arrives (f.outsideAt w.outside locations i) location r → i ∈ report.written

/-- Whenever an assembly gives a report, the report tells what became of the file. -/
theorem assembled_of_assemble
    (h : StateT.run (f.assemble locations destination) w = (.ok report, w')) :
    Assembled f locations destination w report w' := by
  rcases run_assemble f locations destination w with
    ⟨e, d', hrun⟩ | ⟨report', w₁, d₀, d', hsame, hprepared, hall, hkept, hremoved, hrun⟩
  · rw [hrun] at h
    cases h
  · obtain ⟨hreport, rfl⟩ := Prod.mk.inj (hrun.symm.trans h)
    obtain rfl := Except.ok.inj hreport
    have hvisit : ∀ {i y}, (f.visits w.outside locations)[i]? = some y → ∃ location,
        locations[i]? = some location ∧
          y = (f.fetch location).run (f.outsideAt w.outside locations i) := by
      intro i y hy
      rw [getElem?_visits, Option.map_eq_some_iff] at hy
      obtain ⟨location, hlocation, rfl⟩ := hy
      exact ⟨location, hlocation, rfl⟩
    exact
      { written_increasing := hall.written_increasing
        missing_increasing := hall.missing_increasing
        settled := hall.settled
        disjoint := hall.disjoint
        file := fun hne => by
          obtain ⟨answers, hanswers, -, hlength, hfile⟩ := hall.file
          refine ⟨answers, hanswers.imp fun i r => ?_, ?_, hlength⟩
          · rintro ⟨y, hy, hr, hwhole⟩
            obtain ⟨location, hlocation, rfl⟩ := hvisit hy
            exact ⟨location, hlocation, arrives_iff.mpr ⟨hr, hwhole⟩⟩
          · rw [hkept hne]
            exact hfile hne
        noFile := fun hempty => Disk.contents_of_removeFile (hremoved hempty)
        elsewhere := by
          refine ((hsame.trans hall.elsewhere).trans ?_).file?
          by_cases hempty : report'.written = []
          · exact (Disk.locate_of_removeFile (hremoved hempty)).2
          · rw [hkept hempty]
            exact .refl _ _
        complete := fun hfile hpath i location r hlocation harrives => by
          obtain ⟨hvalue, hwhole⟩ := arrives_iff.mp harrives
          have hi : i < locations.length := (List.getElem?_eq_some_iff.mp hlocation).1
          rcases (hall.settled i).mp hi with hi | hi
          · exact hi
          · -- A piece passed over would have broken off.
            obtain ⟨m, hm, rfl⟩ := List.mem_map.mp hi
            have hy : (f.visits w.outside locations)[m.index]? =
                some ((f.fetch location).run (f.outsideAt w.outside locations m.index)) := by
              rw [getElem?_visits, hlocation]
              rfl
            have hbroken := (hall.opens (hprepared.opens hfile hpath)).2 m hm _ r hy hvalue
            cases hwhole.symm.trans hbroken }

/-- Over a stale file, a piece is written and another breaks off. -/
theorem assembled_of_broken_piece :
    let f : Fetching := ⟨.ofEntries ["a.b"], 1000, 5⟩
    let destination : Path := ⟨false, ["lesson.mp3"], false, false⟩
    let w : World Replay :=
      { disk := Disk.put {} ["lesson.mp3"] (.file [9])
        outside :=
          ⟨[.exchanged (.answered ⟨200, [], [1, 2], true⟩),
            .exchanged (.answered ⟨200, [], [3, 4], false⟩)], none⟩ }
    let report : Report :=
      { written := [0]
        missing := [⟨1, "http://a.b/2",
          "Fetch error: Chunk body interrupted: end of file before message length reached", false⟩]
        bytes := 2 }
    ∃ w', StateT.run (f.assemble ["http://a.b/1", "http://a.b/2"] destination) w =
        (.ok report, w') ∧
      Assembled f ["http://a.b/1", "http://a.b/2"] destination w report w' := by
  intro f destination w report
  have hparent : destination.parent? = some ⟨false, [], false, false⟩ := by decide +kernel
  have hfolder : w.disk.createFolders ⟨false, [], false, false⟩ = .ok w.disk := by
    simp [Disk.createFolders, Disk.flaw?, Disk.makeFolders, Path.size]
  have hlocate : w.disk.locate destination = .file ["lesson.mp3"] [9] := by
    rw [Disk.locate_name rfl (by decide) (by decide +kernel) (by decide +kernel)]
    simp [w, Disk.put, Disk.at?, Disk.spotAt]
  obtain ⟨removed, hremove⟩ : ∃ d, w.disk.removeFile destination = .ok d :=
    ⟨_, Disk.removeFile_of_locate hlocate rfl⟩
  obtain ⟨p, hopen⟩ := Disk.openFile_of_removed rfl rfl
    (fun folder h => Option.some.inj (hparent.symm.trans h) ▸ hfolder) hremove
  obtain ⟨-, hmade, -, hfree⟩ := Disk.locate_of_openFile hopen
  have hreopen := Disk.openFile_of_locate (Disk.locate_append [1, 2] hmade).1 hfree
  have hfirst : ((f.fetch "http://a.b/1").run w.outside).value = .ok ⟨200, [], [1, 2], true⟩ := by
    decide +kernel
  obtain ⟨left, hleft, hsecond⟩ : ∃ s, ((f.fetch "http://a.b/1").run w.outside).outside = s ∧
      ((f.fetch "http://a.b/2").run s).value = .ok ⟨200, [], [3, 4], false⟩ :=
    ⟨_, rfl, by decide +kernel⟩
  have hrun : (StateT.run (f.assemble ["http://a.b/1", "http://a.b/2"] destination) w).1 =
      .ok report := by
    -- What the pieces come to is known; from here nothing needs to look into the world.
    clear_value f w destination
    have hmade : StateT.run (Run.onDisk (·.createFolders ⟨false, [], false, false⟩)) w =
        (.ok (), w) := Run.run_onDisk_ok hfolder
    have hgone : StateT.run (Run.onDisk (·.removeFile destination)) w =
        (.ok (), { w with disk := removed }) := Run.run_onDisk_ok hremove
    have hprepare : StateT.run (prepare destination) w = (.ok (), { w with disk := removed }) := by
      rw [prepare, hparent]
      simp only [Run.run_bind, hmade, hgone]
      rfl
    have hwhole : StateT.run (f.appendPiece destination "http://a.b/1")
        { w with disk := removed } = (.ok 2,
          { w with
            disk := (removed.put p (.file [])).append p [1, 2]
            trail := w.trail ++ ((f.fetch "http://a.b/1").run w.outside).sent.map Event.sent
            outside := left }) := by
      rw [appendPiece, Run.run_bind, Run.run_errand, hfirst, hleft]
      exact run_appendBody_opened hopen
    have hbroken : ∀ trail, (StateT.run (f.appendPiece destination "http://a.b/2")
        { w with
          disk := (removed.put p (.file [])).append p [1, 2]
          trail := trail
          outside := left }).1 =
        .error (.fetch "Chunk body interrupted: end of file before message length reached") := by
      intro trail
      rw [appendPiece, Run.run_bind, Run.run_errand, hsecond]
      exact congrArg Prod.fst (run_appendBody_opened hreopen)
    rw [assemble, Run.run_bind, hprepare]
    simp only [Run.run_bind, run_appendAll_cons, run_appendAll_nil, hwhole, hbroken, added,
      Report.isEmpty]
    rfl
  exact ⟨_, Prod.ext hrun rfl, assembled_of_assemble (Prod.ext hrun rfl)⟩

end Tutor.Speech.Fetching
