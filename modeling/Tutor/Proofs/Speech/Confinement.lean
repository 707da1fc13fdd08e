import Tutor.Proofs.Speech.Assembly

/-!
# Where an assembly asks

Locations of pieces come from outside, and so do redirects. Whatever they are, an assembly sends
requests to the hosts on its list only, and a piece that it passes over for a host off the list says
so.

* `Listed`, `admits_ofEntries` – which hosts a list of entries stands for.
* `Confined` – what an assembly asks for and what it rejects.
-/

namespace Tutor.Speech

open Tutor.Http Tutor.Text

/-! ### The hosts that entries stand for -/

/-- A URL's host is one of the entries, apart from blanks around the entry and from the case of
letters. An entry of blanks stands for no host. -/
def Listed (entries : List String) (u : Url) : Prop :=
  ∃ host, u.hostText? = some host ∧ ∃ entry ∈ entries, trimmed entry ≠ "" ∧
    sameLetters (trimmed entry).toList host.toList = true

theorem toLower_toLower (c : Char) : c.toLower.toLower = c.toLower := by
  by_cases h : 'A'.val ≤ c.val ∧ c.val ≤ 'Z'.val
  · have hlower : c.toLower.val = c.val + ('a'.val - 'A'.val) := congrArg Char.val (dif_pos h)
    refine dif_neg fun hagain => ?_
    rw [hlower] at hagain
    grind
  · have hsame : c.toLower = c := dif_neg h
    rw [hsame, hsame]

/-- Putting a text in lower case does not change which texts it is the same as. -/
theorem sameLetters_lowered (s : String) (cs : List Char) :
    sameLetters (lowered s).toList cs = sameLetters s.toList cs := by
  have hlower : Char.toLower ∘ Char.toLower = Char.toLower := funext toLower_toLower
  simp [sameLetters, lowered, hlower]

theorem lowered_eq_empty_iff {s : String} : lowered s = "" ↔ s = "" := by
  rw [lowered, ← String.toList_inj, ← String.toList_inj]
  simp

theorem admits_ofEntries {entries : List String} {u : Url} :
    (Allowlist.ofEntries entries).admits u = true ↔ Listed entries u := by
  simp only [Allowlist.admits, Listed]
  cases u.hostText? with
  | none => simp
  | some host =>
    simp only [Allowlist.admitsHost, Allowlist.ofEntries, List.any_filter, List.any_map,
      List.any_eq_true, Function.comp_apply, Bool.and_eq_true, sameLetters_lowered]
    simp [lowered_eq_empty_iff]

namespace Fetching

variable {σ : Type} [Outside σ] {f : Fetching} {w w' : World σ} {locations : List String}

/-! ### What is asked for -/

/-- How far an assembly reaches, with a list of some entries: to listed hosts only, to none for the
sake of a location that the check refuses; and what its report says of hosts off the list. -/
structure Confined (entries : List String) (f : Fetching) (locations : List String) (w : World σ)
    (result : Except Fault Report) (w' : World σ) : Prop where
  /-- The list admits the listed hosts and no others. -/
  admitted : ∀ u, f.allowed.admits u = true ↔ Listed entries u
  /-- Every request can be sent and goes to a listed host. -/
  hosts : ∃ sent, w'.requests = w.requests ++ sent ∧
    ∀ r ∈ sent, isWeb r.url = true ∧ Listed entries r.url
  /-- The requests are those that the pieces take one after another; none, if there is no report. -/
  pieces : w'.requests = w.requests ++
    match result with
    | .ok _ => (f.visits w.outside locations).flatMap Errand.Yield.sent
    | .error _ => []
  /-- A refused location takes none. -/
  refused : ∀ (i : Nat) location e, locations[i]? = some location →
    f.allowed.check location = .error e →
    (f.visits w.outside locations)[i]?.map Errand.Yield.sent = some []
  /-- A piece passed over counts as rejected exactly if it was for a host off the list, and then the
  host is named. -/
  rejected : ∀ report, result = .ok report → ∀ m ∈ report.missing,
    locations[m.index]? = some m.location ∧
      (m.rejected = true ↔
        ∃ host, f.Rejected (f.outsideAt w.outside locations m.index) m.location host) ∧
      ∀ host, f.Rejected (f.outsideAt w.outside locations m.index) m.location host →
        m.reason = "Upstream host not allowed: " ++ host

/-- Every request of a piece goes to a listed host. -/
theorem listed_of_visits {entries : List String} (hf : f.allowed = .ofEntries entries) {s : σ}
    {r : Request} (hr : r ∈ (f.visits s locations).flatMap Errand.Yield.sent) :
    isWeb r.url = true ∧ Listed entries r.url := by
  induction locations generalizing s with
  | nil => cases hr
  | cons location more ih =>
    rw [visits, List.flatMap_cons, List.mem_append] at hr
    rcases hr with hr | hr
    · obtain ⟨hweb, hadmits⟩ := admits_of_sent hr
      rw [hf] at hadmits
      exact ⟨hweb, admits_ofEntries.mp hadmits⟩
    · exact ih hr

/-- A refused location takes no request. -/
theorem sent_of_refused {s : σ} {i : Nat} {location : String} {e : Fault}
    (hlocation : locations[i]? = some location) (hcheck : f.allowed.check location = .error e) :
    (f.visits s locations)[i]?.map Errand.Yield.sent = some [] := by
  rw [getElem?_visits, hlocation, Option.map_some, Option.map_some, run_fetch_refused hcheck]

/-- What a piece passed over says of hosts off the list. -/
theorem Progress.rejected {destination : Path} {n : Nat} {report : Report}
    (h : Progress f destination locations w n report w') {m : MissingPiece}
    (hm : m ∈ report.missing) :
    locations[m.index]? = some m.location ∧
      (m.rejected = true ↔
        ∃ host, f.Rejected (f.outsideAt w.outside locations m.index) m.location host) ∧
      ∀ host, f.Rejected (f.outsideAt w.outside locations m.index) m.location host →
        m.reason = "Upstream host not allowed: " ++ host := by
  obtain ⟨y, e, hy, hlocation, hreason, hrejected, hfault⟩ := h.missing m hm
  refine ⟨hlocation, ?_⟩
  rw [getElem?_visits, hlocation] at hy
  obtain rfl := Option.some.inj hy
  rw [hreason, hrejected]
  rcases hfault with he | ⟨⟨r, hr⟩, he⟩
  · obtain ⟨hiff, hnames⟩ := isRejection_of_fetch he
    refine ⟨hiff, fun host hhost => ?_⟩
    rw [hnames host hhost]
    rfl
  · -- The piece was fetched, so no host was refused on the way.
    have hnone : ∀ host,
        ¬ f.Rejected (f.outsideAt w.outside locations m.index) m.location host := by
      intro host hhost
      cases hr.symm.trans (rejected_iff.mp hhost)
    simp [he, hnone]

/-- Whatever the locations are and whatever lies outside, an assembly is confined to its list. -/
theorem confined_assemble (entries : List String) (timeout redirects : Nat)
    (locations : List String) (destination : Path) (w : World σ) :
    let f : Fetching := ⟨.ofEntries entries, timeout, redirects⟩
    Confined entries f locations w (StateT.run (f.assemble locations destination) w).1
      (StateT.run (f.assemble locations destination) w).2 := by
  intro f
  rcases run_assemble f locations destination w with
    ⟨e, d', hrun⟩ | ⟨report, w₁, d₀, d', -, -, hall, -, -, hrun⟩
  · rw [hrun]
    have hnone : World.requests { w with disk := d' } = w.requests ++ [] := (List.append_nil _).symm
    exact
      { admitted := fun u => admits_ofEntries
        hosts := ⟨[], hnone, fun r hr => by cases hr⟩
        pieces := hnone
        refused := fun i location e => sent_of_refused
        rejected := fun report h => by cases h }
  · rw [hrun]
    have hrequests := hall.requests
    rw [List.take_of_length_le (Nat.le_of_eq (length_visits locations))] at hrequests
    exact
      { admitted := fun u => admits_ofEntries
        hosts := ⟨_, hrequests, fun r => listed_of_visits rfl⟩
        pieces := hrequests
        refused := fun i location e => sent_of_refused
        rejected := fun report' h m hm => by
          obtain rfl := Except.ok.inj h
          exact hall.rejected hm }

end Fetching

end Tutor.Speech
