import Mathlib.Data.List.Forall2
import Tutor.Proofs.Disk.Place
import Tutor.Proofs.Speech.Fetch
import Tutor.Proofs.World.Trail

/-!
# What an assembly leaves behind

Pieces are fetched and appended in turn, and each may fail on its way or in the middle of its body.
What one piece does to the file is `Settled`; what is known after some pieces is `Progress`, which
every piece continues. An assembly prepares its destination, and then it is the pieces in turn.

* `Settled`, `run_appendPiece` – one piece.
* `Progress`, `Progress.step`, `Progress.run` – pieces in turn.
* `Prepared`, `run_assemble_prepared`, `run_assemble` – how the file stands before the first piece,
  and after the last.
-/

namespace Tutor.Speech.Fetching

open Tutor.Http

variable {σ : Type}

/-! ### One piece -/

/-- What becomes of the file at a destination when a piece was fetched: the disk before, what
fetching it gave, what appending it gives, and the disk afterwards. -/
inductive Settled (destination : Path) (d : Disk) :
    Except Fault Response → Except Fault Nat → Disk → Prop
  | unfetched (e : Fault) : Settled destination d (.error e) (.error e) d
  | unopened {r : Response} {why : Disk.Problem} : d.openFile destination = .error why →
      Settled destination d (.ok r) (.error (.system why.message)) d
  | whole {r : Response} {p : Place} {before : List UInt8} {opened : Disk} :
      d.openFile destination = .ok (p, before, opened) → r.isWhole = true →
      Settled destination d (.ok r) (.ok r.body.length) (opened.append p r.body)
  | broken {r : Response} {p : Place} {before : List UInt8} {opened : Disk} :
      d.openFile destination = .ok (p, before, opened) → r.isWhole = false →
      Settled destination d (.ok r)
        (.error (.fetch "Chunk body interrupted: end of file before message length reached"))
        ((opened.append p r.body).truncate p before.length)

variable {destination : Path} {d d' : Disk} {fetched : Except Fault Response}
  {result : Except Fault Nat} {r : Response} {n : Nat} {e : Fault}

/-- An answer's body is appended to the opened file; what broke off is cut away again. -/
theorem run_appendBody_opened {p : Place} {before : List UInt8} {opened : Disk} {w : World σ}
    (h : w.disk.openFile destination = .ok (p, before, opened)) :
    StateT.run (appendBody destination r) w =
      if r.isWhole then (.ok r.body.length, { w with disk := opened.append p r.body })
      else (.error (.fetch "Chunk body interrupted: end of file before message length reached"),
        { w with disk := (opened.append p r.body).truncate p before.length }) := by
  simp only [appendBody, StateT.run_bind, StateT.run_get, pure_bind, h]
  cases r.isWhole <;> rfl

theorem run_appendBody (destination : Path) (r : Response) (w : World σ) :
    ∃ result d', StateT.run (appendBody destination r) w = (result, { w with disk := d' }) ∧
      Settled destination w.disk (.ok r) result d' := by
  cases hopen : w.disk.openFile destination with
  | error why =>
    refine ⟨_, _, ?_, .unopened hopen⟩
    simp only [appendBody, StateT.run_bind, StateT.run_get, pure_bind, hopen]
    rfl
  | ok opened =>
    rw [run_appendBody_opened hopen]
    cases hwhole : r.isWhole with
    | true => exact ⟨_, _, rfl, .whole hopen hwhole⟩
    | false => exact ⟨_, _, rfl, .broken hopen hwhole⟩

variable [Outside σ] {f : Fetching} {w : World σ} {location : String}

theorem run_appendPiece (f : Fetching) (destination : Path) (location : String) (w : World σ) :
    ∃ result d', StateT.run (f.appendPiece destination location) w =
        (result,
          { w with
            disk := d'
            trail := w.trail ++ ((f.fetch location).run w.outside).sent.map Event.sent
            outside := ((f.fetch location).run w.outside).outside }) ∧
      Settled destination w.disk ((f.fetch location).run w.outside).value result d' := by
  rw [appendPiece, Run.run_bind, Run.run_errand]
  cases ((f.fetch location).run w.outside).value with
  | error e => exact ⟨_, _, rfl, .unfetched e⟩
  | ok r => exact run_appendBody destination r _

/-! ### What one piece does to the file -/

/-- An opened file that is written keeps its place, and no other file changes. -/
theorem Settled.sameElsewhere (h : Settled destination d fetched result d') :
    d.SameElsewhere destination d' := by
  cases h with
  | unfetched | unopened => exact .refl _ _
  | whole hopen hwhole =>
    obtain ⟨-, hloc, hsame, -⟩ := Disk.locate_of_openFile hopen
    exact hsame.trans (Disk.locate_append _ hloc).2
  | @broken r p before opened hopen hwhole =>
    obtain ⟨-, hloc, hsame, -⟩ := Disk.locate_of_openFile hopen
    obtain ⟨hgrown, hsame'⟩ := Disk.locate_append r.body hloc
    exact (hsame.trans hsame').trans (Disk.locate_truncate _ hgrown).2

/-- A piece that counts as written arrived whole, and its body stands at the end of the file. -/
theorem Settled.of_ok (h : Settled destination d fetched (.ok n) d') :
    ∃ r, fetched = .ok r ∧ r.isWhole = true ∧ n = r.body.length ∧
      d'.contents destination = .ok (d.bytesAt destination ++ r.body) := by
  cases h with
  | @whole r p before opened hopen hwhole =>
    obtain ⟨rfl, hloc, -⟩ := Disk.locate_of_openFile hopen
    exact ⟨r, rfl, hwhole, rfl, Disk.contents_eq_ok.mpr ⟨p, (Disk.locate_append _ hloc).1⟩⟩

/-- A piece that is passed over leaves the bytes of the file as they were, whatever arrived of it.
-/
theorem Settled.of_error (h : Settled destination d fetched (.error e) d') :
    d'.bytesAt destination = d.bytesAt destination ∧
      ∀ bytes, d.contents destination = .ok bytes → d'.contents destination = .ok bytes := by
  cases h with
  | unfetched | unopened => exact ⟨rfl, fun _ h => h⟩
  | @broken r p before opened hopen hwhole =>
    -- What was appended is cut off again, which leaves just what was there before.
    obtain ⟨hbefore, hloc, -⟩ := Disk.locate_of_openFile hopen
    have hgrown := (Disk.locate_append r.body hloc).1
    have hback := (Disk.locate_truncate before.length hgrown).1
    rw [List.take_left] at hback
    have hfile := Disk.contents_eq_ok.mpr ⟨p, hback⟩
    refine ⟨(Disk.bytesAt_of_contents hfile).trans hbefore, fun bytes h => ?_⟩
    rw [hfile, hbefore, Disk.bytesAt_of_contents h]

/-- The fault of a piece is that of fetching it, or else no rejection. -/
theorem Settled.fault (h : Settled destination d fetched (.error e) d') :
    fetched = .error e ∨ (∃ r, fetched = .ok r) ∧ isRejection e = false := by
  cases h with
  | unfetched => exact .inl rfl
  | unopened | broken => exact .inr ⟨⟨_, rfl⟩, rfl⟩

/-- A file that was opened is there afterwards, where files can be changed; else nothing changed. -/
theorem Settled.eq_or_locate (h : Settled destination d fetched result d') :
    d' = d ∨ ∃ p bytes, d'.locate destination = .file p bytes ∧ d'.isFixed p = false := by
  cases h with
  | unfetched | unopened => exact .inl rfl
  | @whole r p before opened hopen hwhole =>
    obtain ⟨-, hloc, -, hfree⟩ := Disk.locate_of_openFile hopen
    obtain ⟨hgrown, hsame⟩ := Disk.locate_append r.body hloc
    exact .inr ⟨p, _, hgrown, (hsame.isFixed p).trans hfree⟩
  | @broken r p before opened hopen hwhole =>
    obtain ⟨-, hloc, -, hfree⟩ := Disk.locate_of_openFile hopen
    obtain ⟨hgrown, hsame⟩ := Disk.locate_append r.body hloc
    obtain ⟨hcut, hsame'⟩ := Disk.locate_truncate before.length hgrown
    exact .inr ⟨p, _, hcut, ((hsame.trans hsame').isFixed p).trans hfree⟩

/-- A file that can be opened can still be opened afterwards, and a piece that arrives is written.
-/
theorem Settled.opens (h : Settled destination d fetched result d')
    (hopens : ∃ x, d.openFile destination = .ok x) :
    (∃ x, d'.openFile destination = .ok x) ∧
      ∀ r, fetched = .ok r → r.isWhole = true → ∃ n, result = .ok n := by
  constructor
  · rcases h.eq_or_locate with rfl | ⟨p, bytes, hloc, hfree⟩
    · exact hopens
    · exact ⟨_, Disk.openFile_of_locate hloc hfree⟩
  · intro r hr hwhole
    cases h with
    | unfetched => cases hr
    | unopened hwhy =>
      obtain ⟨x, hx⟩ := hopens
      cases hwhy.symm.trans hx
    | whole hopen hwhole' => exact ⟨_, rfl⟩
    | broken hopen hbroken =>
      obtain rfl := Except.ok.inj hr
      cases hbroken.symm.trans hwhole

/-- What stands at the destination can be removed before and after. -/
theorem Settled.removable (h : Settled destination d fetched result d')
    (hd : ∃ x, d.removeFile destination = .ok x) : ∃ x, d'.removeFile destination = .ok x := by
  rcases h.eq_or_locate with rfl | ⟨p, bytes, hloc, hfree⟩
  · exact hd
  · exact ⟨_, Disk.removeFile_of_locate hloc hfree⟩

/-! ### Pieces in turn -/

/-- A report with one piece more. -/
def added (report : Report) (index : Nat) (location : String) : Except Fault Nat → Report
  | .ok n => { report with written := report.written ++ [index], bytes := report.bytes + n }
  | .error e =>
    { report with missing := report.missing ++ [⟨index, location, e.message, isRejection e⟩] }

/-- What is counted of a piece. -/
def counted : Except Fault Nat → PieceResult
  | .ok _ => .written
  | .error e => if isRejection e then .rejected else .failed

theorem run_appendAll_nil (f : Fetching) (destination : Path) (index : Nat) (report : Report)
    (w : World σ) : StateT.run (f.appendAll destination index [] report) w = (report, w) := by
  rw [appendAll]
  rfl

theorem run_appendAll_cons (f : Fetching) (destination : Path) (index : Nat) (location : String)
    (more : List String) (report : Report) (w : World σ) :
    StateT.run (f.appendAll destination index (location :: more) report) w =
      StateT.run (f.appendAll destination (index + 1) more
          (added report index location (StateT.run (f.appendPiece destination location) w).1))
        { (StateT.run (f.appendPiece destination location) w).2 with
          trail := (StateT.run (f.appendPiece destination location) w).2.trail ++
            [.counted (.piece
              (counted (StateT.run (f.appendPiece destination location) w).1))] } := by
  rw [appendAll, Run.run_bind]
  cases (StateT.run (f.appendPiece destination location) w).1 <;> rfl

/-- What is known after the first `n` pieces. -/
structure Progress (f : Fetching) (destination : Path) (locations : List String) (w₀ : World σ)
    (n : Nat) (report : Report) (w : World σ) : Prop where
  /-- The pieces to come are fetched as they would be apart from any file. -/
  rest : (f.visits w₀.outside locations).drop n = f.visits w.outside (locations.drop n)
  /-- The requests are those of the pieces. -/
  requests : w.requests =
    w₀.requests ++ ((f.visits w₀.outside locations).take n).flatMap Errand.Yield.sent
  sessions : w.sessions = w₀.sessions
  elsewhere : w₀.disk.SameElsewhere destination w.disk
  written_increasing : report.written.Pairwise (· < ·)
  missing_increasing : (report.missing.map MissingPiece.index).Pairwise (· < ·)
  settled : ∀ i, i < n ↔ i ∈ report.written ∨ i ∈ report.missing.map MissingPiece.index
  disjoint : ∀ i ∈ report.written, i ∉ report.missing.map MissingPiece.index
  /-- The file holds the bodies of the pieces written, in order. -/
  file : ∃ answers : List Response,
    List.Forall₂
      (fun i r => ∃ y, (f.visits w₀.outside locations)[i]? = some y ∧ y.value = .ok r ∧
        r.isWhole = true)
      report.written answers ∧
    w.disk.bytesAt destination = answers.flatMap Response.body ∧
    report.bytes = (answers.flatMap Response.body).length ∧
    (report.written ≠ [] → w.disk.contents destination = .ok (answers.flatMap Response.body))
  /-- Every piece passed over has a fault, of which its reason and its rejection tell. -/
  missing : ∀ m ∈ report.missing, ∃ y e, (f.visits w₀.outside locations)[m.index]? = some y ∧
    locations[m.index]? = some m.location ∧ m.reason = e.message ∧ m.rejected = isRejection e ∧
    (y.value = .error e ∨ (∃ r, y.value = .ok r) ∧ isRejection e = false)
  removable : ∃ x, w.disk.removeFile destination = .ok x
  /-- If the file can be opened, no piece that arrives is passed over. -/
  opens : (∃ x, w₀.disk.openFile destination = .ok x) →
    (∃ x, w.disk.openFile destination = .ok x) ∧
      ∀ m ∈ report.missing, ∀ y r, (f.visits w₀.outside locations)[m.index]? = some y →
        y.value = .ok r → r.isWhole = false

variable {locations more : List String} {w₀ : World σ} {report : Report}

/-- Nothing was fetched yet. -/
theorem Progress.start (hfile : w₀.disk.contents destination = .error .missing)
    (hremovable : ∃ x, w₀.disk.removeFile destination = .ok x) :
    Progress f destination locations w₀ 0 {} w₀ where
  rest := rfl
  requests := by simp
  sessions := rfl
  elsewhere := .refl _ _
  written_increasing := .nil
  missing_increasing := .nil
  settled := by simp
  disjoint := by simp
  file := ⟨[], .nil, Disk.bytesAt_of_missing hfile, rfl, fun h => absurd rfl h⟩
  missing := by simp
  removable := hremovable
  opens := fun h => ⟨h, by simp⟩

/-- An increasing list goes on with a number that is larger than all in it. -/
theorem pairwise_lt_concat {l : List Nat} (hl : l.Pairwise (· < ·)) (hn : ∀ i ∈ l, i < n) :
    (l ++ [n]).Pairwise (· < ·) := by
  refine List.pairwise_append.mpr ⟨hl, List.pairwise_singleton _ _, fun i hi j hj => ?_⟩
  rw [List.mem_singleton.mp hj]
  exact hn i hi

/-- The piece to come is visited next, and the others after it. -/
theorem Progress.visit (h : Progress f destination locations w₀ n report w)
    (hmore : locations.drop n = location :: more) :
    locations[n]? = some location ∧
      (f.visits w₀.outside locations)[n]? = some ((f.fetch location).run w.outside) ∧
      (f.visits w₀.outside locations).drop (n + 1) =
        f.visits ((f.fetch location).run w.outside).outside (locations.drop (n + 1)) := by
  have hvisits : (f.visits w₀.outside locations).drop n = (f.fetch location).run w.outside ::
      f.visits ((f.fetch location).run w.outside).outside more := by
    rw [h.rest, hmore, visits]
  refine ⟨?_, ?_, ?_⟩
  · rw [← Nat.add_zero n, ← List.getElem?_drop, hmore]
    rfl
  · rw [← Nat.add_zero n, ← List.getElem?_drop, hvisits]
    rfl
  · rw [← List.drop_drop, ← List.drop_drop, hvisits, hmore]
    rfl

/-- The requests of the piece to come are the next ones. -/
theorem Progress.requests_add (h : Progress f destination locations w₀ n report w)
    (hmore : locations.drop n = location :: more) {trail : List Event}
    (htrail : trail.filterMap Event.request? =
      w.requests ++ ((f.fetch location).run w.outside).sent) :
    trail.filterMap Event.request? = w₀.requests ++
      ((f.visits w₀.outside locations).take (n + 1)).flatMap Errand.Yield.sent := by
  obtain ⟨-, hvisit, -⟩ := h.visit hmore
  rw [htrail, h.requests, List.take_add_one, hvisit]
  simp

/-- The file when a piece was written: its body is the last one. -/
theorem Progress.file_of_ok {m : Nat} (h : Progress f destination locations w₀ n report w)
    (hmore : locations.drop n = location :: more)
    (hsettled : Settled destination w.disk ((f.fetch location).run w.outside).value (.ok m) d') :
    ∃ answers : List Response,
      List.Forall₂
        (fun i r => ∃ y, (f.visits w₀.outside locations)[i]? = some y ∧ y.value = .ok r ∧
          r.isWhole = true)
        (report.written ++ [n]) answers ∧
      d'.bytesAt destination = answers.flatMap Response.body ∧
      report.bytes + m = (answers.flatMap Response.body).length ∧
      d'.contents destination = .ok (answers.flatMap Response.body) := by
  obtain ⟨-, hvisit, -⟩ := h.visit hmore
  obtain ⟨answers, hanswers, hbytes, hlength, -⟩ := h.file
  obtain ⟨r, hr, hwhole, rfl, hfile⟩ := hsettled.of_ok
  have hbody : (answers ++ [r]).flatMap Response.body =
      w.disk.bytesAt destination ++ r.body := by simp [hbytes]
  refine ⟨answers ++ [r], List.rel_append hanswers (.cons ⟨_, hvisit, hr, hwhole⟩ .nil), ?_, ?_, ?_⟩
  · rw [hbody, Disk.bytesAt_of_contents hfile]
  · simp [hlength]
  · rw [hbody, hfile]

/-- One piece more, which was written. The trail may hold other events than the requests. -/
theorem Progress.step_of_ok {m : Nat} (h : Progress f destination locations w₀ n report w)
    (hmore : locations.drop n = location :: more) {trail : List Event}
    (hsettled : Settled destination w.disk ((f.fetch location).run w.outside).value (.ok m) d')
    (htrail : trail.filterMap Event.request? =
      w.requests ++ ((f.fetch location).run w.outside).sent) :
    Progress f destination locations w₀ (n + 1) (added report n location (.ok m))
      { w with
        disk := d'
        trail := trail
        outside := ((f.fetch location).run w.outside).outside } where
  rest := (h.visit hmore).2.2
  requests := h.requests_add hmore htrail
  sessions := h.sessions
  elsewhere := h.elsewhere.trans hsettled.sameElsewhere
  written_increasing :=
    pairwise_lt_concat h.written_increasing fun i hi => (h.settled i).mpr (.inl hi)
  missing_increasing := h.missing_increasing
  settled := fun i => by
    have := h.settled i
    grind [added]
  disjoint := fun i hi hmissing => by
    rcases List.mem_append.mp hi with hi | hi
    · exact h.disjoint i hi hmissing
    · obtain rfl := List.mem_singleton.mp hi
      exact Nat.lt_irrefl i ((h.settled i).mpr (.inr hmissing))
  file := by
    obtain ⟨answers, hanswers, hbytes, hlength, hcontents⟩ := h.file_of_ok hmore hsettled
    exact ⟨answers, hanswers, hbytes, hlength, fun _ => hcontents⟩
  missing := h.missing
  removable := hsettled.removable h.removable
  opens := fun hopens => ⟨(hsettled.opens (h.opens hopens).1).1, (h.opens hopens).2⟩

/-- One piece more, which was passed over. -/
theorem Progress.step_of_error {e : Fault} (h : Progress f destination locations w₀ n report w)
    (hmore : locations.drop n = location :: more) {trail : List Event}
    (hsettled : Settled destination w.disk ((f.fetch location).run w.outside).value (.error e) d')
    (htrail : trail.filterMap Event.request? =
      w.requests ++ ((f.fetch location).run w.outside).sent) :
    Progress f destination locations w₀ (n + 1) (added report n location (.error e))
      { w with
        disk := d'
        trail := trail
        outside := ((f.fetch location).run w.outside).outside } where
  rest := (h.visit hmore).2.2
  requests := h.requests_add hmore htrail
  sessions := h.sessions
  elsewhere := h.elsewhere.trans hsettled.sameElsewhere
  written_increasing := h.written_increasing
  missing_increasing := by
    simp only [added, List.map_append, List.map_singleton]
    exact pairwise_lt_concat h.missing_increasing fun i hi => (h.settled i).mpr (.inr hi)
  settled := fun i => by
    have := h.settled i
    grind [added]
  disjoint := fun i hi hmissing => by
    simp only [added, List.map_append, List.map_singleton] at hmissing
    rcases List.mem_append.mp hmissing with hmissing | hmissing
    · exact h.disjoint i hi hmissing
    · obtain rfl := List.mem_singleton.mp hmissing
      exact Nat.lt_irrefl _ ((h.settled _).mpr (.inl hi))
  file := by
    obtain ⟨hsame, hkept⟩ := hsettled.of_error
    obtain ⟨answers, hanswers, hbytes, hlength, hcontents⟩ := h.file
    exact ⟨answers, hanswers, hsame.trans hbytes, hlength, fun hne => hkept _ (hcontents hne)⟩
  missing := fun m hm => by
    obtain ⟨hlocation, hvisit, -⟩ := h.visit hmore
    rcases List.mem_append.mp hm with hm | hm
    · exact h.missing m hm
    · obtain rfl := List.mem_singleton.mp hm
      exact ⟨_, e, hvisit, hlocation, rfl, rfl, hsettled.fault⟩
  removable := hsettled.removable h.removable
  opens := fun hopens => by
    obtain ⟨hstill, harrived⟩ := hsettled.opens (h.opens hopens).1
    refine ⟨hstill, fun m hm y r hy hr => ?_⟩
    rcases List.mem_append.mp hm with hm | hm
    · exact (h.opens hopens).2 m hm y r hy hr
    · obtain rfl := List.mem_singleton.mp hm
      obtain rfl := Option.some.inj ((h.visit hmore).2.1.symm.trans hy)
      cases hwhole : r.isWhole with
      | false => rfl
      | true =>
        -- The piece would have been written.
        obtain ⟨_, hwritten⟩ := harrived r hr hwhole
        cases hwritten

/-- One piece more, whatever becomes of it. -/
theorem Progress.step (h : Progress f destination locations w₀ n report w)
    (hmore : locations.drop n = location :: more) {trail : List Event}
    (hsettled : Settled destination w.disk ((f.fetch location).run w.outside).value result d')
    (htrail : trail.filterMap Event.request? =
      w.requests ++ ((f.fetch location).run w.outside).sent) :
    Progress f destination locations w₀ (n + 1) (added report n location result)
      { w with
        disk := d'
        trail := trail
        outside := ((f.fetch location).run w.outside).outside } := by
  cases result with
  | ok m => exact h.step_of_ok hmore hsettled htrail
  | error e => exact h.step_of_error hmore hsettled htrail

/-- All pieces. By induction on those to come, each of which is one step. -/
theorem Progress.run (h : Progress f destination locations w₀ n report w)
    (hmore : locations.drop n = more) (hn : n ≤ locations.length) :
    Progress f destination locations w₀ locations.length
      (StateT.run (f.appendAll destination n more report) w).1
      (StateT.run (f.appendAll destination n more report) w).2 := by
  induction more generalizing n report w with
  | nil =>
    obtain rfl : n = locations.length := Nat.le_antisymm hn (List.drop_eq_nil_iff.mp hmore)
    rw [run_appendAll_nil]
    exact h
  | cons location more ih =>
    obtain ⟨result, d', hpiece, hsettled⟩ := run_appendPiece f destination location w
    have hleft : n < locations.length := by
      have := congrArg List.length hmore
      simp only [List.length_drop, List.length_cons] at this
      omega
    rw [run_appendAll_cons, hpiece]
    -- The counter that the piece adds to the trail is no request.
    refine ih (h.step hmore hsettled ?_) ?_ hleft
    · rw [List.filterMap_append, List.filterMap_append, filterMap_request?_sent]
      exact List.append_nil _
    · rw [← List.drop_drop, hmore]
      rfl

/-! ### Before the first piece and after the last -/

/-- Removes the file at a destination, the last step of preparing it. -/
def clear (destination : Path) : Run σ (Except Fault Unit) := do
  match ← Run.onDisk (·.removeFile destination) with
  | .error e => return .error (.system e.message)
  | .ok () => return .ok ()

/-- A disk on which a destination is prepared: no file is there, one can be removed again, and one
can be opened unless the path asks for a folder. -/
structure Prepared (destination : Path) (d : Disk) : Prop where
  noFile : d.contents destination = .error .missing
  removable : ∃ x, d.removeFile destination = .ok x
  opens : destination.isFolder = false → destination.isEmpty = false →
    ∃ x, d.openFile destination = .ok x

omit [Outside σ] in
/-- Clearing a destination prepares it, if the folder above it was made. -/
theorem run_clear (d₀ : Disk) {w : World σ}
    (hfolder : ∀ folder, destination.parent? = some folder → d₀.createFolders folder = .ok w.disk) :
    ∃ result d', StateT.run (clear destination) w = (result, { w with disk := d' }) ∧
      w.disk.SameElsewhere destination d' ∧ (result = .ok () → Prepared destination d') := by
  rw [clear, Run.run_bind]
  cases hd : w.disk.removeFile destination with
  | error e =>
    rw [Run.run_onDisk_error hd]
    exact ⟨_, w.disk, rfl, .refl _ _, fun h => by cases h⟩
  | ok d' =>
    rw [Run.run_onDisk_ok hd]
    refine ⟨_, d', rfl, (Disk.locate_of_removeFile hd).2, fun _ => ?_⟩
    refine ⟨Disk.contents_of_removeFile hd, ⟨d', Disk.removeFile_of_removed hd⟩,
      fun hfile hpath => ?_⟩
    obtain ⟨p, hopen⟩ := Disk.openFile_of_removed hfile hpath hfolder hd
    exact ⟨_, hopen⟩

omit [Outside σ] in
/-- Preparing a destination concerns the disk only. -/
theorem run_prepare (destination : Path) (w : World σ) :
    ∃ result d', StateT.run (prepare destination) w = (result, { w with disk := d' }) ∧
      w.disk.SameElsewhere destination d' ∧ (result = .ok () → Prepared destination d') := by
  rw [prepare]
  cases hparent : destination.parent? with
  | none => exact run_clear w.disk fun folder h => by rw [hparent] at h; cases h
  | some folder =>
    simp only [Run.run_bind]
    cases hd : w.disk.createFolders folder with
    | error e =>
      rw [Run.run_onDisk_error hd]
      exact ⟨_, w.disk, rfl, .refl _ _, fun h => by cases h⟩
    | ok d =>
      rw [Run.run_onDisk_ok hd]
      have hfolder : ∀ folder', destination.parent? = some folder' →
          w.disk.createFolders folder' = .ok d := by
        intro folder' h
        obtain rfl := Option.some.inj (hparent.symm.trans h)
        exact hd
      obtain ⟨result, d', hrun, hsame, hready⟩ :=
        run_clear w.disk (w := { w with disk := d }) hfolder
      have hmade := (Disk.sameFiles_of_createFolders hd).elsewhere destination
      exact ⟨result, d', hrun, hmade.trans hsame, hready⟩

/-- From a prepared disk, an assembly is the pieces in turn, with the file removed in the end if no
piece was written. -/
theorem run_assemble_prepared {d₀ : Disk} (locations : List String)
    (hprepare : StateT.run (prepare destination) w = (.ok (), { w with disk := d₀ })) :
    ∃ report w₁ d', w.disk.SameElsewhere destination d₀ ∧ Prepared destination d₀ ∧
      Progress f destination locations { w with disk := d₀ } locations.length report w₁ ∧
      (report.written ≠ [] → d' = w₁.disk) ∧
      (report.written = [] → w₁.disk.removeFile destination = .ok d') ∧
      StateT.run (f.assemble locations destination) w = (.ok report, { w₁ with disk := d' }) := by
  obtain ⟨result, d₁, hrun, hsame, hready⟩ := run_prepare destination w
  obtain ⟨rfl, hworld⟩ := Prod.mk.inj (hrun.symm.trans hprepare)
  obtain rfl : d₁ = d₀ := congrArg World.disk hworld
  have hprepared := hready rfl
  obtain ⟨report, w₁, hpieces⟩ : ∃ report w₁,
      StateT.run (f.appendAll destination 0 locations {}) { w with disk := d₁ } = (report, w₁) :=
    ⟨_, _, rfl⟩
  have hstart : Progress f destination locations { w with disk := d₁ } 0 {}
      { w with disk := d₁ } := .start hprepared.noFile hprepared.removable
  have hall := hstart.run List.drop_zero (Nat.zero_le _)
  rw [hpieces] at hall
  rw [assemble, Run.run_bind, hprepare]
  dsimp only
  rw [Run.run_bind, hpieces]
  cases hempty : report.written with
  | nil =>
    obtain ⟨d', hd⟩ := hall.removable
    refine ⟨report, w₁, d', hsame, hprepared, hall, fun h => absurd hempty h, fun _ => hd, ?_⟩
    simp only [Report.isEmpty, hempty, List.isEmpty_nil, if_true]
    rw [Run.run_bind, Run.run_onDisk_ok hd]
    rfl
  | cons i written =>
    refine ⟨report, w₁, w₁.disk, hsame, hprepared, hall, fun _ => rfl, fun h => ?_, ?_⟩
    · rw [hempty] at h
      cases h
    · simp only [Report.isEmpty, hempty, List.isEmpty_cons]
      rfl

/-- An assembly fails before the first piece, or it is the pieces in turn from a prepared disk. -/
theorem run_assemble (f : Fetching) (locations : List String) (destination : Path) (w : World σ) :
    (∃ e d', StateT.run (f.assemble locations destination) w = (.error e, { w with disk := d' })) ∨
      ∃ report w₁ d₀ d', w.disk.SameElsewhere destination d₀ ∧ Prepared destination d₀ ∧
        Progress f destination locations { w with disk := d₀ } locations.length report w₁ ∧
        (report.written ≠ [] → d' = w₁.disk) ∧
        (report.written = [] → w₁.disk.removeFile destination = .ok d') ∧
        StateT.run (f.assemble locations destination) w = (.ok report, { w₁ with disk := d' }) := by
  obtain ⟨result, d₀, hprepare, -, -⟩ := run_prepare destination w
  cases result with
  | error e =>
    left
    refine ⟨e, d₀, ?_⟩
    rw [assemble, Run.run_bind, hprepare]
    rfl
  | ok _ =>
    right
    obtain ⟨report, w₁, d', hrest⟩ := run_assemble_prepared locations hprepare
    exact ⟨report, w₁, d₀, d', hrest⟩

end Tutor.Speech.Fetching
