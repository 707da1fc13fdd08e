import Tutor.Ask.Service
import Tutor.Proofs.Speech.Confinement
import Tutor.Proofs.Speech.Silence
import Tutor.Proofs.Text.Trim
import Tutor.Settings.Validity

/-!
# The hosts of usable settings

Settings without hosts are of no use, since no audio could be fetched. What is looked at there are
the entries as they are written, but an entry of blanks stands for no host. So settings that pass
for usable can still leave the list of allowed hosts empty, and then no answer is ever spoken.

* `validate_eq_ok_iff`, `validate_withHosts_iff` – what is asked of the entries.
* `hosts_eq_nil_iff` – when no entry is left.
* `Hosted`, `hosted_of_validate` – the list of usable settings.
* `hostless_of_blank_entry` – usable settings with an empty list.
-/

namespace Tutor

open Tutor.Text

/-! ### The list of allowed hosts -/

namespace Speech.Allowlist

variable {entries : List String} {entry location : String} {u : Url}

theorem mem_ofEntries_iff {host : String} :
    host ∈ (ofEntries entries).hosts ↔
      ∃ entry ∈ entries, isBlankText entry = false ∧ lowered (trimmed entry) = host := by
  have hne : ∀ e, (!(lowered (trimmed e)).isEmpty) = true ↔ isBlankText e = false := fun e => by
    rw [Bool.not_eq_true', ← Bool.not_eq_true, String.isEmpty_iff, lowered_eq_empty_iff,
      trimmed_eq_empty_iff, Bool.not_eq_true]
  rw [ofEntries, List.mem_filter, List.mem_map]
  constructor
  · rintro ⟨⟨entry, hentry, rfl⟩, hfull⟩
    exact ⟨entry, hentry, (hne entry).mp hfull, rfl⟩
  · rintro ⟨entry, hentry, hfull, rfl⟩
    exact ⟨⟨entry, hentry, rfl⟩, (hne entry).mpr hfull⟩

/-- The list is empty exactly if all entries are blank. -/
theorem hosts_eq_nil_iff :
    (ofEntries entries).hosts = [] ↔ ∀ entry ∈ entries, isBlankText entry = true := by
  constructor
  · intro h entry hentry
    by_contra hfull
    have hhost : lowered (trimmed entry) ∈ (ofEntries entries).hosts :=
      mem_ofEntries_iff.mpr ⟨entry, hentry, Bool.eq_false_iff.mpr hfull, rfl⟩
    rw [h] at hhost
    cases hhost
  · intro h
    refine List.eq_nil_iff_forall_not_mem.mpr fun host hhost => ?_
    obtain ⟨entry, hentry, hfull, -⟩ := mem_ofEntries_iff.mp hhost
    rw [h entry hentry] at hfull
    cases hfull

/-- An entry that is not blank is a host that is admitted. -/
theorem admitsHost_of_mem (hentry : entry ∈ entries) (hfull : isBlankText entry = false) :
    (ofEntries entries).admitsHost (trimmed entry) = true := by
  refine List.any_eq_true.mpr ⟨_, mem_ofEntries_iff.mpr ⟨entry, hentry, hfull, rfl⟩, ?_⟩
  rw [sameLetters_lowered]
  exact beq_self_eq_true _

/-- An empty list refuses every place. -/
theorem check_ne_ok_of_nil {l : Allowlist} (h : l.hosts = []) : l.check location ≠ .ok u := by
  intro hcheck
  have hadmits := (Fetching.check_eq_ok_iff.mp hcheck).2.2
  rw [admits] at hadmits
  split at hadmits
  · rw [admitsHost, h] at hadmits
    cases hadmits
  · cases hadmits

end Speech.Allowlist

/-- Where every place is refused, nothing is recorded. -/
theorem Speech.Recorder.not_completed_of_nil {σ : Type} [Outside σ] {r : Recorder σ}
    (h : r.fetching.allowed.hosts = []) (text language : String) (origin : Origin) (w : World σ)
    (a : Artifact) : (StateT.run (r.record text language origin) w).1 ≠ .completed a := by
  intro hcompleted
  obtain ⟨answer, i, location, -, u, -, -, -, -, hcheck, -⟩ := exists_hears hcompleted
  exact Allowlist.check_ne_ok_of_nil h hcheck

/-! ### Usable settings -/

namespace Settings

variable {s : Settings}

theorem validate_eq_ok_iff : s.validate = .ok () ↔ ∀ x ∈ s.flaws, x.2 = false := by
  rw [validate, flaw?]
  cases hfound : s.flaws.find? (·.2) with
  | none =>
    refine iff_of_true rfl fun x hx => ?_
    simpa using List.find?_eq_none.mp hfound x hx
  | some x =>
    refine iff_of_false (fun h => by cases h) fun h => ?_
    have hx := h x (List.mem_of_find?_eq_some hfound)
    rw [List.find?_some hfound] at hx
    cases hx

/-- Settings with other entries in place of their hosts. -/
def withHosts (s : Settings) (entries : List String) : Settings :=
  { s with speech := { s.speech with allowedHosts := entries } }

/-- Of the entries nothing is asked but that there is one. -/
theorem validate_withHosts_iff (h : s.validate = .ok ()) (entries : List String) :
    (s.withHosts entries).validate = .ok () ↔ entries ≠ [] := by
  rw [validate_eq_ok_iff] at h ⊢
  simp only [flaws, withHosts, List.forall_mem_cons] at h ⊢
  obtain ⟨hbase, hmodel, htemperature, hsummary, htimeout, hspan, -, hrest⟩ := h
  rw [← List.isEmpty_eq_false_iff]
  constructor
  · rintro ⟨-, -, -, -, -, -, hentries, -⟩
    exact hentries
  · intro hentries
    exact ⟨hbase, hmodel, htemperature, hsummary, htimeout, hspan, hentries, hrest⟩

/-- What the list of allowed hosts of some settings is. -/
structure Hosted {σ : Type} [Outside σ] (s : Settings) (r : Speech.Recorder σ) : Prop where
  /-- It is empty exactly if all entries are blank. -/
  empty_iff : r.fetching.allowed.hosts = [] ↔
    ∀ entry ∈ s.speech.allowedHosts, isBlankText entry = true
  /-- If it is empty, every place is refused, and no text is recorded. -/
  refuses : r.fetching.allowed.hosts = [] →
    (∀ location u, r.fetching.allowed.check location ≠ .ok u) ∧
      ∀ text language origin w a, (StateT.run (r.record text language origin) w).1 ≠ .completed a
  /-- Any other entry is a host that is admitted. -/
  admits : ∀ entry ∈ s.speech.allowedHosts, isBlankText entry = false →
    r.fetching.allowed.admitsHost (trimmed entry) = true

/-- Usable settings have entries. Their list of allowed hosts is empty if all of them are blank,
which they may be: nothing is asked of the entries but that there is one. -/
theorem hosted_of_validate {σ : Type} [Outside σ] (h : s.validate = .ok ())
    (provider : Tutor.Provider σ) (synthesizer : Speech.Synthesizer σ) :
    s.speech.allowedHosts ≠ [] ∧
      Hosted s (Ask.Service.around s provider synthesizer).recorder ∧
      ∀ entries, (s.withHosts entries).validate = .ok () ↔ entries ≠ [] := by
  refine ⟨?_, ?_, validate_withHosts_iff h⟩
  · exact (validate_withHosts_iff h s.speech.allowedHosts).mp h
  · exact
      { empty_iff := Speech.Allowlist.hosts_eq_nil_iff
        refuses := fun hnil =>
          ⟨fun _ _ => Speech.Allowlist.check_ne_ok_of_nil hnil,
            Speech.Recorder.not_completed_of_nil hnil⟩
        admits := fun _ => Speech.Allowlist.admitsHost_of_mem }

/-- A blank entry beside one that is not. -/
theorem hosted_of_two_entries :
    (withHosts {} [" ", "A.b"]).validate = .ok () ∧
      Hosted (withHosts {} [" ", "A.b"])
        (Ask.Service.ofSettings (withHosts {} [" ", "A.b"]) : Ask.Service Replay).recorder := by
  have hvalid : (withHosts {} [" ", "A.b"]).validate = .ok () := by decide +kernel
  exact ⟨hvalid, (hosted_of_validate hvalid _ _).2.1⟩

/-- A blank entry alone. The settings pass for usable, and no host is allowed. -/
theorem hostless_of_blank_entry :
    (withHosts {} [" "]).validate = .ok () ∧
      (Ask.Service.ofSettings (withHosts {} [" "]) : Ask.Service Replay).recorder.fetching.allowed =
        ⟨[]⟩ := by
  decide +kernel

end Settings

end Tutor
