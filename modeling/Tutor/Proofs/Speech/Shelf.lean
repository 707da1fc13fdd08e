import Tutor.Proofs.Disk.Files
import Tutor.Proofs.Speech.Trail

/-!
# What a recording leaves on the shelf

The shelf is the folder of the artifacts. A recording under a name that is new there puts one file
on it, or none; whatever was there before stays as it was. Which of the two it is can be told from
what the recording returns.

* `Stored`, `stored_assemble` – what an assembly makes of the files.
* `isName_artifactName` – the name of an artifact leads to the shelf.
* `named?` – the name that a recording takes.
* `Shelved`, `shelved_record` – what a recording makes of the files.
-/

namespace Tutor.Speech

open Tutor.Text

variable {σ : Type} [Outside σ]

/-! ### Assemblies -/

namespace Fetching

open Tutor.Http

variable {destination : Path} {d d' : Disk} {w : World σ}

omit [Outside σ] in
/-- Where no file stands at a destination, preparing it changes none. -/
theorem sameFiles_prepare (hnone : w.disk.file? (w.disk.placeOf destination) = none) :
    w.disk.SameFiles (StateT.run (prepare destination) w).2.disk := by
  have hremove : ∀ d d', w.disk.SameFiles d → d.removeFile destination = .ok d' →
      w.disk.SameFiles d' := by
    intro d d' hsame hd
    refine hsame.trans (Disk.sameFiles_of_removeFile ?_ hd)
    rw [Disk.placeOf_congr hsame.here, hsame.file?, hnone]
  have hclear : Run.Maintains w.disk.SameFiles (clear destination : Run σ _) := by
    refine .bind (.onDisk hremove) fun removed => ?_
    cases removed <;> exact .pure _
  have hprepare : Run.Maintains w.disk.SameFiles (prepare destination : Run σ _) := by
    rw [prepare]
    cases destination.parent? with
    | none => exact hclear
    | some folder =>
      refine .bind (.onDisk fun d d' hsame hd =>
        hsame.trans (Disk.sameFiles_of_createFolders hd)) fun folders => ?_
      cases folders with
      | error e => exact .pure _
      | ok _ => exact hclear
  exact hprepare w (.refl _)

theorem Settled.reached {fetched : Except Fault Response} {result : Except Fault Nat}
    (h : Settled destination d fetched result d') (hd : d.Reached destination) :
    d'.Reached destination := by
  cases h with
  | unfetched | unopened => exact hd
  | whole hopen hwhole =>
    obtain ⟨-, hlocate, -, -⟩ := Disk.locate_of_openFile hopen
    exact .inr ⟨_, _, (Disk.locate_append _ hlocate).1⟩
  | broken hopen hwhole =>
    obtain ⟨-, hlocate, -, -⟩ := Disk.locate_of_openFile hopen
    exact .inr ⟨_, _, (Disk.locate_truncate _ (Disk.locate_append _ hlocate).1).1⟩

theorem maintains_appendAll (f : Fetching) (destination : Path) (index : Nat)
    (locations : List String) (report : Report) :
    Run.Maintains (Disk.Reached destination)
      (f.appendAll destination index locations report : Run σ Report) := by
  induction locations generalizing index report with
  | nil => exact .pure _
  | cons location more ih =>
    intro w hw
    obtain ⟨result, d', hpiece, hsettled⟩ := run_appendPiece f destination location w
    rw [run_appendAll_cons, hpiece]
    exact ih _ _ _ (hsettled.reached hw)

theorem reached_assemble (f : Fetching) (locations : List String)
    (hnone : w.disk.file? (w.disk.placeOf destination) = none) :
    (StateT.run (f.assemble locations destination) w).2.disk.Reached destination := by
  have hsame := sameFiles_prepare hnone
  have hstart : (StateT.run (prepare destination) w).2.disk.Reached destination := by
    refine .inl ?_
    rw [Disk.placeOf_congr hsame.here, hsame.file?, hnone]
  rw [assemble, Run.run_bind]
  cases (StateT.run (prepare destination) w).1 with
  | error e => exact hstart
  | ok _ =>
    refine Run.Maintains.bind (f.maintains_appendAll destination 0 locations {}) (fun report => ?_)
      _ hstart
    split
    · exact .bind (.onDisk fun d d' hd hremove => .inl (hd.file?_of_removeFile hremove))
        fun _ => .pure _
    · exact .pure _

/-- An assembly fails only before anything was fetched. -/
theorem sameFiles_of_assemble_error {f : Fetching} {locations : List String} {e : Fault}
    (hnone : w.disk.file? (w.disk.placeOf destination) = none)
    (h : (StateT.run (f.assemble locations destination) w).1 = .error e) :
    w.disk.SameFiles (StateT.run (f.assemble locations destination) w).2.disk := by
  have hsame := sameFiles_prepare hnone
  rw [assemble, Run.run_bind] at h ⊢
  cases hprepare : (StateT.run (prepare destination) w).1 with
  | error e' => exact hsame
  | ok _ =>
    rw [hprepare, Run.run_bind] at h
    split at h <;> cases h

/-- What an assembly makes of the files, where none stands at its destination: the disk before, the
result, and the disk afterwards. -/
inductive Stored (destination : Path) (d : Disk) : Except Fault Report → Disk → Prop
  | failed {d' : Disk} (e : Fault) : d.SameFiles d' → Stored destination d (.error e) d'
  | empty {d' : Disk} {report : Report} : report.isEmpty = true → d.SameFiles d' →
      Stored destination d (.ok report) d'
  | written {d' : Disk} {report : Report} {bytes : List UInt8} : report.isEmpty = false →
      d'.file? (d.placeOf destination) = some bytes → bytes.length = report.bytes →
      d.SameElsewhere destination d' → Stored destination d (.ok report) d'

theorem stored_assemble (f : Fetching) (locations : List String)
    (hnone : w.disk.file? (w.disk.placeOf destination) = none) :
    Stored destination w.disk (StateT.run (f.assemble locations destination) w).1
      (StateT.run (f.assemble locations destination) w).2.disk := by
  have hreached := reached_assemble f locations hnone
  rcases run_assemble f locations destination w with
    ⟨e, d', hrun⟩ | ⟨report, w₁, d₀, d', hsame, hprepared, hall, hkept, hremoved, hrun⟩
  · have hfiles := sameFiles_of_assemble_error hnone (congrArg Prod.fst hrun)
    rw [hrun] at hfiles ⊢
    exact .failed e hfiles
  · rw [hrun] at hreached ⊢
    have hpieces := hsame.trans hall.elsewhere
    cases hempty : report.written with
    | nil =>
      -- Nothing was written: the file is gone again, and none was there before.
      have hremove := hremoved hempty
      have helsewhere := hpieces.trans (Disk.locate_of_removeFile hremove).2
      have hgone := hreached.file?_of_missing (Disk.contents_of_removeFile hremove)
      rw [Disk.placeOf_congr helsewhere.here] at hgone
      refine .empty (by rw [Report.isEmpty, hempty]; rfl) ⟨helsewhere.toSameTerms, fun q => ?_⟩
      by_cases hq : q = w.disk.placeOf destination
      · exact hq ▸ hgone.trans hnone.symm
      · exact helsewhere.file? q hq
    | cons i more =>
      -- What was written is the file, and it is kept.
      have hne : report.written ≠ [] := by simp [hempty]
      obtain ⟨answers, -, -, hlength, hcontents⟩ := hall.file
      have hfile := Disk.file?_of_contents (hcontents hne)
      rw [Disk.placeOf_congr hpieces.here] at hfile
      obtain rfl := hkept hne
      exact .written (by rw [Report.isEmpty, hempty]; rfl) hfile hlength.symm hpieces

end Fetching

/-! ### Names -/

theorem noSlash_repr (n : Int) : '/' ∉ n.repr.toList := by
  have hdigits : ∀ m : Nat, '/' ∉ m.repr.toList := by
    intro m h
    rw [Nat.repr_eq_ofList_toDigits, String.toList_ofList] at h
    have hdigit := Nat.isDigit_of_mem_toDigits (by decide) (by decide) h
    exact absurd hdigit (by decide)
  cases n with
  | ofNat m => exact hdigits m
  | negSucc m =>
    have hsign : (Int.repr (.negSucc m)).toList = '-' :: m.succ.repr.toList := by
      simp [Int.repr]
    rw [hsign, List.mem_cons, not_or]
    exact ⟨by decide, hdigits _⟩

theorem noSlash_suffix (draw : Nat) : '/' ∉ suffix draw := by
  have hdigit : ∀ n < 36, digitChar n ≠ '/' := by decide
  intro h
  rw [suffix, List.mem_append] at h
  rcases h with h | h
  · exact absurd (List.eq_of_mem_replicate h) (by decide)
  · exact of_mem_digitsIn (P := (· ≠ '/')) (by decide) (by decide) hdigit h rfl

/-- The name of an artifact leads to the shelf, unless a slash stands in what the settings make of
it. -/
theorem isName_artifactName {beginning extension : String} (hbeginning : '/' ∉ beginning.toList)
    (hextension : '/' ∉ extension.toList) (made : Timestamp) (draw : Nat) :
    Path.IsName (artifactName beginning extension made draw) := by
  have hrest : '/' ∉ extension.toList.dropWhile (· == '.') := fun h =>
    hextension ((List.dropWhile_sublist _).subset h)
  have hmark : '_' ∈ (artifactName beginning extension made draw).toList := by
    simp [artifactName]
  refine ⟨?_, ?_, ?_⟩
  · simp [artifactName, hbeginning, noSlash_repr, noSlash_suffix, hrest]
  · cases hstays : Path.staysHere (artifactName beginning extension made draw).toList with
    | false => rfl
    | true =>
      rw [Path.staysHere, Bool.or_eq_true, List.isEmpty_iff, beq_iff_eq] at hstays
      rcases hstays with h | h
      · simp [h] at hmark
      · simp [h] at hmark
  · rintro h
    rw [h] at hmark
    exact absurd hmark (by decide)

/-! ### Recordings -/

/-- What becomes of the files when a recording was to be made: whether it took a name, the disk
before, the artifact if there is one, and the disk afterwards. -/
inductive Shelved (shelf : Place) (name? : Option String) (d : Disk) :
    Option Artifact → Disk → Prop
  | nothing {d' : Disk} : d.SameFiles d' → Shelved shelf name? d none d'
  | artifact {d' : Disk} (a : Artifact) {bytes : List UInt8} : name? = some a.name →
      d'.file? (shelf ++ [a.name]) = some bytes → bytes.length = a.bytes → d'.here = d.here →
      (∀ q, q ≠ shelf ++ [a.name] → d'.file? q = d.file? q) → Shelved shelf name? d (some a) d'

namespace Recorder

variable {r : Recorder σ} {text language : String} {w : World σ}

/-- The folder of the artifacts. -/
def shelf (r : Recorder σ) (d : Disk) : Place := d.placeOf (Path.ofText r.folder)

/-- The name that a recording takes, if it comes to that. -/
def named? (r : Recorder σ) (text language : String) (w : World σ) : Option String :=
  if isBlankText text then none
  else
    let y := StateT.run (r.synthesizer.resolve r.spanLength text (languageCode language)) w
    if y.1.locations.isEmpty then none else some (r.freshName.run y.2.outside).value

/-- The names of a recorder lead to its shelf. -/
structure Tidy (r : Recorder σ) : Prop where
  beginning : '/' ∉ r.beginning.toList
  extension : '/' ∉ r.extension.toList

theorem shelved_recordFrom (hr : r.Tidy) (locations : List String) (origin : Origin)
    (hnone : w.disk.file? (r.shelf w.disk ++ [(r.freshName.run w.outside).value]) = none) :
    Shelved (r.shelf w.disk) (some (r.freshName.run w.outside).value) w.disk
      (StateT.run (r.recordFrom locations origin) w).1.value?
      (StateT.run (r.recordFrom locations origin) w).2.disk := by
  have hname : Path.IsName (r.freshName.run w.outside).value :=
    isName_artifactName hr.beginning hr.extension _ _
  rw [r.run_recordFrom locations origin (Run.run_errand r.freshName w)]
  generalize (r.freshName.run w.outside).value = name at hname hnone ⊢
  generalize hw : ({ w with trail := _, outside := _ } : World σ) = w₁
  have hdisk : w₁.disk = w.disk := by rw [← hw]
  have hplace := Disk.placeOf_join (d := w₁.disk) hname r.folder
  rw [← hdisk, shelf] at hnone ⊢
  rw [← hplace] at hnone
  have hstored := Fetching.stored_assemble r.fetching locations hnone
  generalize StateT.run (r.fetching.assemble locations _) w₁ = y at hstored ⊢
  obtain ⟨result, w₂⟩ := y
  rw [Prod.map_apply]
  dsimp only at hstored ⊢
  cases hstored with
  | failed e hsame => exact .nothing hsame
  | empty hempty hsame =>
    rw [r.outcomeOf_empty origin name hempty]
    exact .nothing hsame
  | written hempty hfile hlength helsewhere =>
    have hother := helsewhere.file?
    rw [hplace] at hfile hother
    rw [r.outcomeOf_filled origin name hempty]
    exact .artifact _ rfl hfile hlength helsewhere.here hother

theorem shelved_record (hr : r.Tidy) (origin : Origin)
    (hnone : ∀ name, r.named? text language w = some name →
      w.disk.file? (r.shelf w.disk ++ [name]) = none) :
    Shelved (r.shelf w.disk) (r.named? text language w) w.disk
      (StateT.run (r.record text language origin) w).1.value?
      (StateT.run (r.record text language origin) w).2.disk := by
  have hdisk := r.synthesizer.keeps_resolve World.inner_disk r.spanLength text
    (languageCode language) w
  rw [named?] at hnone ⊢
  rw [record]
  split
  · exact .nothing (.refl _)
  · next hblank =>
    rw [if_neg hblank] at hnone
    rw [Run.run_bind]
    generalize StateT.run (r.synthesizer.resolve r.spanLength text (languageCode language)) w = y
      at hdisk hnone ⊢
    obtain ⟨found, w₁⟩ := y
    dsimp only at hdisk hnone ⊢
    rw [← hdisk] at hnone ⊢
    split
    · exact .nothing (.refl _)
    · next hfound =>
      rw [if_neg hfound] at hnone
      exact shelved_recordFrom hr _ origin (hnone _ rfl)

end Recorder

end Tutor.Speech
