import Tutor.Proofs.Speech.Pieces
import Tutor.Proofs.Speech.Spans
import Tutor.Proofs.Url.Query
import Tutor.Speech.Resolution

/-!
# What is spoken of a text

A voice whose base is a URL speaks every text that is not blank and fits an address. So the places
of a text speak all of it, blanks aside, unless the text has a run that is too long for a piece.
Then they speak its spans, except those that are too long for an address; and such a span is a word.

* `spoken?`, `spoken?_of_location` – what is spoken at an address.
* `exists_locations` – the places of a whole text.
* `run_resolveSpans`, `run_resolve` – asking span by span, and all of it.
* `Resolved` – what is spoken of a text in the end.
-/

namespace Tutor.Speech

open Tutor.Text

/-! ### Addresses -/

/-- What is spoken at an address: the last text that goes by the name for it. Those before come from
the base of the voice. -/
def spoken? (address : String) : Option String :=
  (((Url.pairsOf address).filter (·.1 == "q")).getLast?).map (·.2)

/-- What is spoken at the places of a text, in order. -/
def Resolution.spoken (r : Resolution) : List String := r.locations.filterMap spoken?

namespace Voice

variable {v : Voice} {base : Url} {text code address : String}

/-- What a voice asks for is what whoever gets the address finds, whatever the base brings. -/
theorem spoken?_of_location (h : v.location text code = .ok address) :
    spoken? address = some text := by
  rw [location, urlOf] at h
  split at h
  · cases h
  split at h
  · cases h
  split at h
  next u hu =>
    obtain rfl : (u.appendPairs (v.query text code)).render = address := Except.ok.inj h
    have htidy : u.Tidy := Url.tidy_ofChars (fun b hb => by cases hb) hu
    have hquery : (v.query text code).filter (·.1 == "q") = [("q", text)] := rfl
    rw [spoken?, Url.pairsOf_render htidy, List.filter_append, hquery, List.getLast?_concat]
    rfl
  next => cases h

/-- Every text that is not blank and fits an address has one. -/
theorem exists_location (hbase : Url.ofChars none v.base = .ok base)
    (hblank : isBlankText text = false) (hfits : text.length ≤ mostChars) (code : String) :
    ∃ address, v.location text code = .ok address := by
  rw [location, urlOf, hblank, if_neg Bool.false_ne_true, if_neg (by omega), hbase]
  exact ⟨_, rfl⟩

theorem location_of_long (hblank : isBlankText text = false) (hlong : mostChars < text.length) :
    v.location text code = .error (.tooLong text.length) := by
  rw [location, urlOf, hblank, if_neg Bool.false_ne_true, if_pos hlong]
  rfl

/-- A text that is not blank has an address exactly if it fits. -/
theorem location_eq_error_iff (hbase : Url.ofChars none v.base = .ok base)
    (hblank : isBlankText text = false) :
    (∃ why, v.location text code = .error why) ↔ mostChars < text.length := by
  constructor
  · rintro ⟨why, herror⟩
    by_contra hfits
    obtain ⟨address, hok⟩ := exists_location hbase hblank (Nat.not_lt.mp hfits) code
    rw [hok] at herror
    cases herror
  · intro hlong
    exact ⟨_, location_of_long hblank hlong⟩

/-- The pieces of a text have addresses, and these speak the pieces. -/
theorem exists_locations_of_pieces (hbase : Url.ofChars none v.base = .ok base)
    {pieces : List (List Char)} (hfits : ∀ p ∈ pieces, p.length ≤ mostChars)
    (hblank : ∀ p ∈ pieces, isBlankText (String.ofList p) = false) (code : String) :
    ∃ addresses, pieces.mapM (fun p => v.location (String.ofList p) code) = .ok addresses ∧
      addresses.map spoken? = pieces.map fun p => some (String.ofList p) := by
  induction pieces with
  | nil => exact ⟨[], rfl, rfl⟩
  | cons p pieces ih =>
    obtain ⟨hp, hfits⟩ := List.forall_mem_cons.mp hfits
    obtain ⟨hpblank, hblank⟩ := List.forall_mem_cons.mp hblank
    obtain ⟨address, haddress⟩ := exists_location hbase hpblank
      (by rwa [String.length_ofList]) code
    obtain ⟨addresses, hmore, hspoken⟩ := ih hfits hblank
    refine ⟨address :: addresses, ?_, ?_⟩
    · rw [List.mapM_cons, haddress, hmore]
      rfl
    · rw [List.map_cons, hspoken, spoken?_of_location haddress, List.map_cons]

/-- A text without a long run has places for its pieces. -/
theorem exists_locations (hbase : Url.ofChars none v.base = .ok base)
    (hrun : ¬ HasLongRun mostChars text.toList) (code : String) :
    ∃ addresses pieces, v.locations text code = .ok addresses ∧
      IsCutInto mostChars text.toList pieces ∧
      addresses.map spoken? = pieces.map fun p => some (String.ofList p) := by
  cases hpieces : pieces? mostChars text.toList with
  | none => exact absurd ((pieces?_eq_none_iff (by decide)).mp hpieces) hrun
  | some pieces =>
    have hcut := isCutInto_of_pieces? hpieces
    obtain ⟨addresses, haddresses, hspoken⟩ := exists_locations_of_pieces hbase hcut.fits
      (fun p hp => isBlankText_of_isTrimmed (hcut.trimmed p hp) (hcut.filled p hp)) code
    refine ⟨addresses, pieces, ?_, hcut, hspoken⟩
    rw [locations, hpieces]
    exact haddresses

theorem locations_of_longRun (hrun : HasLongRun mostChars text.toList) :
    v.locations text code = .error (.uncuttable mostChars) := by
  rw [locations, (pieces?_eq_none_iff (by decide)).mpr hrun]

/-! ### Asking a voice -/

variable {σ : Type}

theorem value_askWhole (v : Voice) (text code : String) (w : World σ) :
    (StateT.run (v.synthesizer.askWhole text code) w).1 =
      (v.locations text code).mapError Refusal.fault := rfl

theorem value_askSpan (v : Voice) (text code : String) (w : World σ) :
    (StateT.run (v.synthesizer.askSpan text code) w).1 =
      (v.location text code).mapError Refusal.fault := rfl

/-- Asked span by span, a voice finds the places that there are, in order, and drops the rest. -/
theorem run_resolveSpans (v : Voice) (code : String) (spans : List String) (w : World σ) :
    (StateT.run (v.synthesizer.resolveSpans code spans) w).1 =
      ⟨spans.filterMap fun s => (v.location s code).toOption, .perSpan,
        (spans.filter fun s => !(v.location s code).isOk).length⟩ := by
  induction spans generalizing w with
  | nil => rfl
  | cons s spans ih =>
    rw [Synthesizer.resolveSpans, Run.run_bind, Run.run_bind, ih, value_askSpan,
      List.filterMap_cons, List.filter_cons]
    cases v.location s code with
    | error why => rfl
    | ok address => rfl

/-- A text is spoken as a whole if it has places, and span by span otherwise. -/
theorem run_resolve (v : Voice) (n : Nat) (text code : String) (w : World σ) :
    (StateT.run (v.synthesizer.resolve n text code) w).1 =
      match v.locations text code with
      | .ok (place :: places) => ⟨place :: places, .bulk, 0⟩
      | _ => (StateT.run (v.synthesizer.resolveSpans code (segment text n))
          (StateT.run (v.synthesizer.askWhole text code) w).2).1 := by
  rw [Synthesizer.resolve, Run.run_bind, value_askWhole]
  cases v.locations text code with
  | error why => rfl
  | ok places =>
    cases places with
    | nil => rfl
    | cons place places => rfl

end Voice

/-! ### What is spoken in the end -/

/-- How the places of a text speak it, where `n` is the limit on its spans. -/
structure Resolved (v : Voice) (n : Nat) (text code : String) (r : Resolution) : Prop where
  /-- Without a long run, the whole text is spoken, blanks aside. -/
  whole : ¬ HasLongRun mostChars text.toList →
    r.tier = .bulk ∧ r.dropped = 0 ∧
      r.spoken.flatMap (fun q => solid q.toList) = solid text.toList
  /-- With one, the spans that fit an address are spoken, and as many as do not are dropped. -/
  bySpan : HasLongRun mostChars text.toList →
    r.tier = .perSpan ∧
      r.spoken = (segment text n).filter (·.length ≤ mostChars) ∧
      r.dropped = ((segment text n).filter (mostChars < ·.length)).length
  /-- A span has no address exactly if it does not fit one, and then it is a word. -/
  lost : ∀ s ∈ segment text n,
    ((∃ why, v.location s code = .error why) ↔ mostChars < s.length) ∧
      (mostChars < s.length → IsWord s.toList)
  /-- At every place something is spoken, and no more than fits an address. -/
  sized : ∀ address ∈ r.locations, ∃ q, spoken? address = some q ∧
    1 ≤ q.length ∧ q.length ≤ mostChars

variable {v : Voice} {base : Url} {n : Nat} {text code : String}

theorem isBlankText_of_isSpan {s : String} (h : IsSpan n s.toList) : isBlankText s = false := by
  have hblank := isBlankText_of_isTrimmed h.trimmed h.ne_nil
  rwa [String.ofList_toList] at hblank

/-- A span that is longer than its limit allows is a word. -/
theorem isWord_of_long {s : String} (hn : n ≤ mostChars) (h : IsSpan (max n 1) s.toList)
    (hlong : mostChars < s.length) : IsWord s.toList := by
  rcases h.fits with hfits | hword
  · rw [String.length_toList] at hfits
    have hmost : max n 1 ≤ mostChars := max_le hn (by decide)
    omega
  · exact hword

/-- Of spans, those that fit have addresses, which speak them. -/
theorem filterMap_spoken_of_spans (hbase : Url.ofChars none v.base = .ok base)
    {spans : List String} (hspans : ∀ s ∈ spans, isBlankText s = false) :
    (spans.filterMap fun s => (v.location s code).toOption).filterMap spoken? =
      spans.filter (·.length ≤ mostChars) := by
  induction spans with
  | nil => rfl
  | cons s spans ih =>
    obtain ⟨hblank, hspans⟩ := List.forall_mem_cons.mp hspans
    rw [List.filterMap_cons, List.filter_cons]
    by_cases hfits : s.length ≤ mostChars
    · obtain ⟨address, haddress⟩ := v.exists_location hbase hblank hfits code
      rw [haddress, if_pos (decide_eq_true hfits)]
      show (address :: _).filterMap spoken? = _
      rw [List.filterMap_cons, v.spoken?_of_location haddress, ih hspans]
    · rw [v.location_of_long hblank (Nat.lt_of_not_le hfits), if_neg (by simpa using hfits)]
      exact ih hspans

/-- Of spans, those that do not fit are dropped. -/
theorem filter_dropped_of_spans (hbase : Url.ofChars none v.base = .ok base)
    {spans : List String} (hspans : ∀ s ∈ spans, isBlankText s = false) :
    (spans.filter fun s => !(v.location s code).isOk) = spans.filter (mostChars < ·.length) := by
  apply List.filter_congr
  intro s hs
  by_cases hfits : s.length ≤ mostChars
  · obtain ⟨address, haddress⟩ := v.exists_location hbase (hspans s hs) hfits code
    rw [haddress, decide_eq_false (Nat.not_lt.mpr hfits)]
    rfl
  · rw [v.location_of_long (hspans s hs) (Nat.lt_of_not_le hfits),
      decide_eq_true (Nat.lt_of_not_le hfits)]
    rfl

theorem length_pos_of_isSpan {s : String} (h : IsSpan n s.toList) : 1 ≤ s.length := by
  rw [← String.length_toList]
  exact List.length_pos_iff.mpr h.ne_nil

/-- The places of a text that was spoken as a whole. -/
theorem resolved_of_pieces {addresses : List String} {pieces : List (List Char)}
    (hcut : IsCutInto mostChars text.toList pieces)
    (hspoken : addresses.map spoken? = pieces.map fun p => some (String.ofList p)) :
    (addresses.filterMap spoken?).flatMap (fun q => solid q.toList) = solid text.toList ∧
      ∀ address ∈ addresses, ∃ q, spoken? address = some q ∧
        1 ≤ q.length ∧ q.length ≤ mostChars := by
  constructor
  · have htexts : addresses.filterMap spoken? = pieces.map String.ofList := by
      have hid := congrArg (List.filterMap id) hspoken
      rw [List.filterMap_map, List.filterMap_map, Function.id_comp] at hid
      rw [hid, ← List.filterMap_eq_map]
      rfl
    rw [htexts, List.flatMap_map, ← hcut.whole]
    simp only [String.toList_ofList]
  · intro address haddress
    have hmem := List.mem_map_of_mem (f := spoken?) haddress
    rw [hspoken] at hmem
    obtain ⟨p, hp, heq⟩ := List.mem_map.mp hmem
    refine ⟨String.ofList p, heq.symm, ?_, ?_⟩
    · rw [String.length_ofList]
      exact List.length_pos_iff.mpr (hcut.filled p hp)
    · rw [String.length_ofList]
      exact hcut.fits p hp

/-- Whatever the text, if it is not blank, all of it is spoken that fits. -/
theorem resolved_resolve {σ : Type} (hbase : Url.ofChars none v.base = .ok base)
    (hn : n ≤ mostChars) (hblank : isBlankText text = false) (code : String) (w : World σ) :
    Resolved v n text code (StateT.run (v.synthesizer.resolve n text code) w).1 := by
  have hspan : ∀ s ∈ segment text n, IsSpan (max n 1) s.toList :=
    fun s hs => isSpan_of_mem_segment hs
  have hspanBlank : ∀ s ∈ segment text n, isBlankText s = false :=
    fun s hs => isBlankText_of_isSpan (hspan s hs)
  have hlost : ∀ s ∈ segment text n,
      ((∃ why, v.location s code = .error why) ↔ mostChars < s.length) ∧
        (mostChars < s.length → IsWord s.toList) :=
    fun s hs => ⟨v.location_eq_error_iff hbase (hspanBlank s hs), isWord_of_long hn (hspan s hs)⟩
  -- All pieces fit an address, so a whole text has places if it can be cut at all.
  by_cases hrun : HasLongRun mostChars text.toList
  · rw [v.run_resolve, v.locations_of_longRun hrun]
    dsimp only
    rw [v.run_resolveSpans]
    refine ⟨fun hnone => absurd hrun hnone, fun _ => ⟨rfl, ?_, ?_⟩, hlost, ?_⟩
    · exact filterMap_spoken_of_spans hbase hspanBlank
    · rw [filter_dropped_of_spans hbase hspanBlank]
    · intro address haddress
      obtain ⟨s, hs, hplace⟩ := List.mem_filterMap.mp haddress
      cases hok : v.location s code with
      | error why =>
        rw [hok] at hplace
        cases hplace
      | ok address' =>
        rw [hok] at hplace
        obtain rfl : address' = address := Option.some.inj hplace
        have hfits : ¬ mostChars < s.length := by
          intro hlong
          obtain ⟨why, herror⟩ := (hlost s hs).1.mpr hlong
          rw [hok] at herror
          cases herror
        exact ⟨s, v.spoken?_of_location hok, length_pos_of_isSpan (hspan s hs),
          Nat.not_lt.mp hfits⟩
  · obtain ⟨addresses, pieces, hlocations, hcut, hspoken⟩ :=
      v.exists_locations hbase hrun code
    obtain ⟨hwhole, hsized⟩ := resolved_of_pieces hcut hspoken
    rw [v.run_resolve, hlocations]
    cases addresses with
    | nil =>
      -- A text that is not blank has a piece, and with it an address.
      have hnone : pieces = [] := List.map_eq_nil_iff.mp hspoken.symm
      refine absurd hnone (hcut.ne_nil fun hsolid => ?_)
      rw [solid_eq_nil_iff.mp hsolid] at hblank
      cases hblank
    | cons address addresses =>
      exact ⟨fun _ => ⟨rfl, rfl, hwhole⟩, fun hsome => absurd hsome hrun, hlost, hsized⟩

/-- A text with a word that is too long to be spoken. -/
theorem resolved_of_long_word :
    let v : Voice := ⟨"https://translate.google.com", false⟩
    let text := String.ofList (List.replicate 201 'a' ++ " Hi.".toList)
    let w : World Unit := { outside := () }
    Url.ofChars none v.base = .ok
        { scheme := "https", host := some (.name "translate.google.com"),
          path := .segments ["translate_tts"] } ∧
      180 ≤ mostChars ∧ isBlankText text = false ∧ HasLongRun mostChars text.toList ∧
      Resolved v 180 text "en" (StateT.run (v.synthesizer.resolve 180 text "en") w).1 := by
  intro v text w
  have hbase : Url.ofChars none v.base = .ok
      { scheme := "https", host := some (.name "translate.google.com"),
        path := .segments ["translate_tts"] } := by
    decide +kernel
  have hblank : isBlankText text = false := by
    rw [isBlankText, String.toList_ofList]
    rfl
  have hrun : HasLongRun mostChars text.toList := by
    rw [String.toList_ofList]
    refine ⟨List.replicate 201 'a', (List.prefix_append _ _).isInfix, ?_, fun c hc => ?_⟩
    · rw [List.length_replicate]
      decide
    · rw [List.eq_of_mem_replicate hc]
      decide
  exact ⟨hbase, by decide, hblank, hrun, resolved_resolve hbase (by decide) hblank "en" w⟩

end Tutor.Speech
