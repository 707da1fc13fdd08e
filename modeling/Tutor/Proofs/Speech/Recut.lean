import Mathlib.Data.List.Chain
import Tutor.Proofs.Speech.Contents
import Tutor.Proofs.Speech.Packing

/-!
# Spans cut again

A span that is cut again stays as it is. It is made of units, or of words of a unit that was too
long, and where it is cut again it gives back what it was made of: units end in a sentence mark, so
that there is a cut behind each, and of the words of a unit only the last has marks, so that there
is none between them. Joined again, they are the span, and they all fit into it.

* `sentences_append`, `sentences_of_uncut` – cutting a text that was put together.
* `exists_lastWord` – the words of a unit and its marks.
* `Packing.rejoining_unit`, `Packing.rejoining_foldl_unit` – while units are packed.
* `segment_of_mem_segment` – the spans of every text.
-/

namespace Tutor.Speech

open Tutor.Text

variable {limit : Nat} {b c : Char} {as bs cs s u v w part current : List Char}
  {us ws : List (List Char)}

/-! ### Cutting what was put together -/

/-- A text that is not cut: nothing but sentence marks follows a sentence mark. -/
def Uncut (cs : List Char) : Prop :=
  cs.IsChain fun c d => isSentenceMark c = true → isSentenceMark d = true

/-- A text without sentence marks. -/
def Unmarked (cs : List Char) : Prop := ∀ c ∈ cs, isSentenceMark c = false

/-- A text that ends in a sentence mark. -/
def EndsInMark (cs : List Char) : Prop := ∃ m ∈ cs.getLast?, isSentenceMark m = true

/-- A text that its sentences give back. -/
def Rejoins (cs : List Char) : Prop := joinWith [' '] (sentences cs) = cs

/-- Behind a sentence mark, a text is cut unless another mark follows. -/
theorem units_append (has : EndsInMark as) (hbs : ∀ b ∈ bs.head?, isSentenceMark b = false) :
    units (as ++ bs) = units as ++ units bs := by
  cases bs with
  | nil => rw [List.append_nil, units_nil, List.append_nil]
  | cons b bs =>
    have hb : isSentenceMark b = false := hbs b rfl
    induction as with
    | nil =>
      obtain ⟨m, hm, -⟩ := has
      cases hm
    | cons a as ih =>
      obtain ⟨m, hm, hmark⟩ := has
      cases as with
      | nil =>
        have ha : isSentenceMark a = true := by
          obtain rfl : a = m := Option.some.inj hm
          exact hmark
        rw [List.singleton_append, units_cons_cons, units_singleton, ha, hb]
        rfl
      | cons a' as =>
        have hrest := ih ⟨m, by simpa using hm, hmark⟩
        obtain ⟨first, more, hunits⟩ := exists_units_cons a' as
        rw [List.cons_append, List.cons_append, units_cons_cons, units_cons_cons,
          ← List.cons_append, hrest]
        split
        · rfl
        · exact attach_append a (by simp [hunits]) _

theorem sentences_append (has : EndsInMark as) (hbs : ∀ b ∈ bs.head?, isSentenceMark b = false) :
    sentences (as ++ bs) = sentences as ++ sentences bs := by
  rw [sentences, units_append has hbs, List.map_append, List.filter_append]
  rfl

theorem not_isSentenceMark_of_isBlank (hc : isBlank c = true) : isSentenceMark c = false := by
  by_contra hmark
  rw [isBlank_of_isSentenceMark (by simpa using hmark)] at hc
  cases hc

/-- A blank in front of a text is trimmed off its first sentence. -/
theorem sentences_cons_of_isBlank (hc : isBlank c = true) (cs : List Char) :
    sentences (c :: cs) = sentences cs := by
  have htrim : ∀ u : List Char, trim (c :: u) = trim u := by
    intro u
    rw [← List.singleton_append, trim_append_left]
    intro d hd
    rwa [List.mem_singleton.mp hd]
  cases cs with
  | nil =>
    rw [sentences, sentences, units_singleton, units_nil, List.map_singleton, htrim]
    rfl
  | cons d cs =>
    obtain ⟨u, us, hu⟩ := exists_units_cons d cs
    rw [sentences, units_cons_cons, not_isSentenceMark_of_isBlank hc, sentences, hu]
    simp only [Bool.false_and, Bool.false_eq_true, if_false, attach, List.map_cons, htrim]

/-- A trimmed text that is not cut is one sentence. -/
theorem sentences_of_uncut (hne : cs ≠ []) (htrimmed : IsTrimmed cs) (huncut : Uncut cs) :
    sentences cs = [cs] := by
  have hunits : units cs = [cs] := by
    refine (isCutBehindMarks_iff.mp ⟨?_, ?_, ?_, .singleton _⟩).symm
    · simp
    · simpa using hne.symm
    · intro part hpart
      rwa [List.mem_singleton.mp hpart]
  rw [sentences, hunits, List.map_singleton, trim_eq_self htrimmed, List.filter_cons,
    if_pos (by simpa using hne)]
  rfl

/-! ### Texts that rejoin -/

theorem rejoins_nil : Rejoins [] := by
  rw [Rejoins, sentences, units_nil]
  rfl

theorem rejoins_of_uncut (hne : cs ≠ []) (htrimmed : IsTrimmed cs) (huncut : Uncut cs) :
    Rejoins cs := by
  rw [Rejoins, sentences_of_uncut hne htrimmed huncut, joinWith_singleton]

theorem Rejoins.sentences_ne_nil (h : Rejoins cs) (hne : cs ≠ []) : sentences cs ≠ [] := by
  intro hnil
  rw [Rejoins, hnil] at h
  exact hne h.symm

/-- Behind a sentence mark, a text and a space another text may follow. -/
theorem Rejoins.append (has : Rejoins as) (hmark : EndsInMark as) (hbs : Rejoins bs)
    (hne : bs ≠ []) : Rejoins (as ++ ' ' :: bs) := by
  have hasne : as ≠ [] := by
    rintro rfl
    obtain ⟨m, hm, -⟩ := hmark
    cases hm
  have hspace : ∀ c ∈ (' ' :: bs).head?, isSentenceMark c = false := by
    intro c hc
    obtain rfl := Option.some.inj hc
    decide
  unfold Rejoins at has hbs ⊢
  rw [sentences_append hmark hspace, sentences_cons_of_isBlank (by decide),
    joinWith_append _ (Rejoins.sentences_ne_nil has hasne) (Rejoins.sentences_ne_nil hbs hne),
    has, hbs]
  rfl

/-! ### The words of a unit -/

/-- In a text that is not cut, no mark stands before something that is none. -/
theorem Uncut.unmarked_left (h : Uncut (as ++ b :: bs)) (hb : isSentenceMark b = false) :
    Unmarked as := by
  induction as with
  | nil => exact fun c hc => absurd hc List.not_mem_nil
  | cons a as ih =>
    obtain ⟨hnext, hrest⟩ := List.isChain_cons.mp h
    have hunmarked : Unmarked as := ih hrest
    refine List.forall_mem_cons.mpr ⟨?_, hunmarked⟩
    by_contra ha
    rw [Bool.not_eq_false] at ha
    cases as with
    | nil =>
      rw [hnext b rfl ha] at hb
      cases hb
    | cons a' as =>
      have hmarked := hnext a' rfl ha
      rw [hunmarked a' List.mem_cons_self] at hmarked
      cases hmarked

theorem Unmarked.uncut_append (has : Unmarked as) (hbs : Uncut bs) : Uncut (as ++ bs) := by
  induction as with
  | nil => exact hbs
  | cons a as ih =>
    obtain ⟨ha, has⟩ := List.forall_mem_cons.mp has
    refine List.isChain_cons.mpr ⟨fun d _ hmark => ?_, ih has⟩
    rw [ha] at hmark
    cases hmark

theorem mem_of_mem_words (hw : w ∈ words cs) (hc : c ∈ w) : c ∈ cs := by
  have hsolid : c ∈ (words cs).flatten := List.mem_flatten.mpr ⟨w, hw, hc⟩
  rw [flatten_words] at hsolid
  exact (List.mem_filter.mp hsolid).1

/-- A sentence: a trimmed text that is not cut. -/
structure IsSentence (u : List Char) : Prop where
  ne_nil : u ≠ []
  trimmed : IsTrimmed u
  uncut : Uncut u

/-- Only the last word of a sentence has sentence marks, and it ends as the sentence does. -/
theorem IsSentence.exists_lastWord (h : IsSentence u) :
    ∃ ws w, words u = ws ++ [w] ∧ (∀ v ∈ ws, IsWord v ∧ Unmarked v) ∧ IsWord w ∧ Uncut w ∧
      w.getLast? = u.getLast? := by
  obtain ⟨front, w, hsplit, hword, hfront⟩ := exists_append_isWord h.ne_nil h.trimmed.last
  have huncut : Uncut w := h.uncut.suffix (hsplit ▸ List.suffix_append front w)
  have hlast : w.getLast? = u.getLast? := by
    rw [hsplit, List.getLast?_append_of_ne_nil _ hword.ne_nil]
  rcases List.eq_nil_or_concat' front with rfl | ⟨more, b, rfl⟩
  · rw [List.nil_append] at hsplit
    exact ⟨[], w, by rw [hsplit, words_of_isWord hword]; rfl, by simp, hword, huncut, hlast⟩
  · have hb : isBlank b = true := hfront b List.getLast?_concat
    rw [List.append_assoc, List.singleton_append] at hsplit
    have hunmarked : Unmarked more :=
      Uncut.unmarked_left (hsplit ▸ h.uncut) (not_isSentenceMark_of_isBlank hb)
    refine ⟨words more, w, ?_, ?_, hword, huncut, hlast⟩
    · rw [hsplit, words_append_blank hb, words_of_isWord hword]
    · intro v hv
      exact ⟨isWord_of_mem_words hv, fun c hc => hunmarked c (mem_of_mem_words hv hc)⟩

/-! ### Packing -/

theorem getLast?_extend (current : List Char) (hne : part ≠ []) :
    (extend current part).getLast? = part.getLast? := by
  by_cases hopen : current = []
  · simp [extend, hopen]
  · rw [extend_of_ne_nil hopen, List.getLast?_append_of_ne_nil _ (List.cons_ne_nil _ _),
      List.getLast?_cons_of_ne_nil hne]

/-- Words put together, none of which has a mark: the beginning of a unit. -/
structure IsBeginning (cs : List Char) : Prop where
  trimmed : IsTrimmed cs
  unmarked : Unmarked cs

theorem IsBeginning.extend (h : IsBeginning current) (hw : IsWord w) (hunmarked : Unmarked w) :
    IsBeginning (extend current w) := by
  refine ⟨isTrimmed_extend h.trimmed (isTrimmed_of_isWord hw) hw.ne_nil, ?_⟩
  by_cases hopen : current = []
  · rwa [Speech.extend, hopen]
  · rw [extend_of_ne_nil hopen]
    intro c hc
    rcases List.mem_append.mp hc with hc | hc
    · exact h.unmarked c hc
    · rcases List.mem_cons.mp hc with rfl | hc
      · decide
      · exact hunmarked c hc

theorem Unmarked.uncut_extend (h : Unmarked current) (hw : Uncut w) : Uncut (extend current w) := by
  by_cases hopen : current = []
  · rwa [extend, hopen]
  · rw [extend_of_ne_nil hopen]
    refine h.uncut_append (List.isChain_cons.mpr ⟨fun d _ hmark => ?_, hw⟩)
    cases hmark

namespace Packing

variable {p : Packing}

/-- All spans rejoin, also the open one. -/
def Rejoining (p : Packing) : Prop := ∀ s ∈ p.spans, Rejoins s

theorem rejoins_current (h : Rejoining p) : Rejoins p.current := by
  by_cases hopen : p.current = []
  · rw [hopen]
    exact rejoins_nil
  · refine h p.current (List.mem_append_right _ ?_)
    rw [close_of_ne_nil hopen]
    exact List.mem_singleton_self _

theorem current_word (limit : Nat) (p : Packing) (w : List Char) :
    (p.word limit w).current = extend p.current w ∨ (p.word limit w).current = w := by
  unfold word
  split
  · exact .inl rfl
  · exact .inr rfl

/-! ### Units -/

/-- A packing in the middle of a long unit: the last of its words is still to come. -/
structure InWords (p : Packing) : Prop where
  rejoining : Rejoining p
  current : IsBeginning p.current

/-- One more word keeps the spans so: nothing before it in the unit has a mark. -/
theorem InWords.rejoining_word (h : InWords p) (hw : IsWord w) (huncut : Uncut w) :
    Rejoining (p.word limit w) := by
  have hgrown : IsTrimmed (extend p.current w) :=
    isTrimmed_extend h.current.trimmed (isTrimmed_of_isWord hw) hw.ne_nil
  unfold Packing.word
  split
  · refine forall_spans_join h.rejoining (rejoins_of_uncut ?_ hgrown ?_)
    · exact fun hnil => hw.ne_nil (extend_eq_nil_iff.mp hnil).2
    · exact h.current.unmarked.uncut_extend huncut
  · exact forall_spans_restart h.rejoining fun _ =>
      rejoins_of_uncut hw.ne_nil (isTrimmed_of_isWord hw) huncut

theorem InWords.word (h : InWords p) (hw : IsWord w) (hunmarked : Unmarked w) :
    InWords (p.word limit w) := by
  have huncut : Uncut w := by
    rw [← List.append_nil w]
    exact hunmarked.uncut_append .nil
  refine ⟨h.rejoining_word hw huncut, ?_⟩
  rcases current_word limit p w with hcurrent | hcurrent
  · rw [hcurrent]
    exact h.current.extend hw hunmarked
  · rw [hcurrent]
    exact ⟨isTrimmed_of_isWord hw, hunmarked⟩

theorem InWords.foldl_word (h : InWords p) (hws : ∀ v ∈ ws, IsWord v ∧ Unmarked v) :
    InWords (ws.foldl (Packing.word limit) p) := by
  induction ws generalizing p with
  | nil => exact h
  | cons v ws ih =>
    obtain ⟨⟨hv, hunmarked⟩, hws⟩ := List.forall_mem_cons.mp hws
    exact ih (h.word hv hunmarked) hws

/-- Where the open span ends in a mark, one more sentence may be packed. -/
theorem rejoining_unit (h : Rejoining p) (hopen : p.current ≠ [] → EndsInMark p.current)
    (hu : IsSentence u) : Rejoining (p.unit limit u) := by
  have hself : Rejoins u := rejoins_of_uncut hu.ne_nil hu.trimmed hu.uncut
  unfold unit
  split
  · refine forall_spans_join h ?_
    by_cases hnil : p.current = []
    · rwa [extend, hnil]
    · rw [extend_of_ne_nil hnil]
      exact (rejoins_current h).append (hopen hnil) hself hu.ne_nil
  · split
    · exact forall_spans_restart h fun _ => hself
    · obtain ⟨ws, w, hwords, hws, hw, huncut, -⟩ := hu.exists_lastWord
      have hstart : InWords (p.restart []) :=
        ⟨forall_spans_restart h fun _ => rejoins_nil, ⟨⟨by simp [restart], by simp [restart]⟩,
          by simp [restart, Unmarked]⟩⟩
      rw [hwords, List.foldl_append, List.foldl_cons, List.foldl_nil]
      exact (hstart.foldl_word hws).rejoining_word hw huncut

/-- However a sentence is packed, the open span ends as the sentence does. -/
theorem getLast?_current_unit (p : Packing) (hu : IsSentence u) :
    (p.unit limit u).current.getLast? = u.getLast? := by
  unfold unit
  split
  · exact getLast?_extend p.current hu.ne_nil
  · split
    · rfl
    · obtain ⟨ws, w, hwords, -, hw, -, hlast⟩ := hu.exists_lastWord
      rw [hwords, List.foldl_append, List.foldl_cons, List.foldl_nil, ← hlast]
      rcases current_word limit (ws.foldl (word limit) (p.restart [])) w with hcurrent | hcurrent
      · rw [hcurrent, getLast?_extend _ hw.ne_nil]
      · rw [hcurrent]

/-- Sentences that end in marks, except for the last, are packed into spans that rejoin. -/
theorem rejoining_foldl_unit (h : Rejoining p)
    (hopen : us ≠ [] → p.current ≠ [] → EndsInMark p.current) (hus : ∀ u ∈ us, IsSentence u)
    (hmarks : us.Pairwise fun u _ => EndsInMark u) : Rejoining (us.foldl (unit limit) p) := by
  induction us generalizing p with
  | nil => exact h
  | cons u us ih =>
    obtain ⟨hu, hus⟩ := List.forall_mem_cons.mp hus
    obtain ⟨hmark, hmarks⟩ := List.pairwise_cons.mp hmarks
    refine ih (rejoining_unit h (hopen (List.cons_ne_nil _ _)) hu) ?_ hus hmarks
    intro hne _
    obtain ⟨next, more, rfl⟩ := List.exists_cons_of_ne_nil hne
    rw [EndsInMark, getLast?_current_unit p hu]
    exact hmark next List.mem_cons_self

end Packing

/-! ### The sentences of a text -/

theorem isSentence_of_mem_sentences (h : u ∈ sentences cs) : IsSentence u := by
  obtain ⟨hne, htrimmed⟩ := isTrimmed_of_mem_sentences h
  obtain ⟨raw, hraw, rfl⟩ := List.mem_map.mp (List.mem_filter.mp h).1
  obtain ⟨front, back, hsplit, -, -⟩ := exists_trim raw
  have huncut : Uncut raw := (isCutBehindMarks_units cs).uncut raw hraw
  refine ⟨hne, htrimmed, huncut.infix ⟨front, back, ?_⟩⟩
  rw [List.append_assoc]
  exact hsplit.symm

theorem EndsInMark.trim (h : EndsInMark cs) : EndsInMark (trim cs) := by
  obtain ⟨m, hm, hmark⟩ := h
  refine ⟨m, ?_, hmark⟩
  rw [getLast?_trim]
  · exact hm
  · intro c hc
    obtain rfl := Option.mem_unique hm hc
    exact isBlank_of_isSentenceMark hmark

/-- Every sentence that another follows ends in a mark. -/
theorem pairwise_sentences (cs : List Char) :
    (sentences cs).Pairwise fun u _ => EndsInMark u := by
  have hunits : (units cs).IsChain fun u _ => EndsInMark u := by
    refine (isCutBehindMarks_units cs).cut.imp fun u v => ?_
    rintro ⟨hu, -, hmark, -⟩
    exact ⟨u.getLast hu, List.getLast?_eq_some_getLast hu, hmark⟩
  have : IsTrans (List Char) fun u _ => EndsInMark u := ⟨fun _ _ _ h _ => h⟩
  have hmarks : (units cs).Pairwise fun u _ => EndsInMark u := List.isChain_iff_pairwise.mp hunits
  exact (hmarks.map trim fun u _ h => h.trim).filter _

theorem rejoins_of_mem_spansOf (h : s ∈ spansOf limit cs) : Rejoins s := by
  have hstart : Packing.Rejoining {} := fun s hs => by cases hs
  exact Packing.rejoining_foldl_unit hstart (fun _ hne => absurd rfl hne)
    (fun u hu => isSentence_of_mem_sentences hu) (pairwise_sentences cs) s h

/-! ### Spans cut again -/

/-- A text that rejoins and fits is its only span. -/
theorem spansOf_of_fits (hne : s ≠ []) (hjoin : Rejoins s) (hfits : s.length ≤ max limit 1) :
    spansOf limit s = [s] := by
  obtain ⟨u, us, hsentences⟩ := List.exists_cons_of_ne_nil (hjoin.sentences_ne_nil hne)
  have hu : u ≠ [] := (isSentence_of_mem_sentences (hsentences ▸ List.mem_cons_self)).ne_nil
  rw [Rejoins, hsentences] at hjoin
  have hfirst : Packing.fits (max limit 1) {} u = true := by
    have hhead := length_head_le_joinWith u us
    rw [hjoin] at hhead
    exact decide_eq_true (Nat.le_trans hhead hfits)
  have hall : (joinWith [' '] (u :: us)).length ≤ max limit 1 := by rwa [hjoin]
  have hpacked := Packing.foldl_unit_of_fits (p := Packing.join {} u) hu hall
  rw [spansOf, hsentences, List.foldl_cons, Packing.unit_of_fits hfirst, hpacked]
  show close (joinWith [' '] (u :: us)) = [s]
  rw [hjoin, close_of_ne_nil hne]

/-- Joined parts are without a blank only if there is one part. -/
theorem sentences_of_isWord (hw : IsWord w) (hjoin : Rejoins w) : sentences w = [w] := by
  obtain ⟨u, us, hsentences⟩ := List.exists_cons_of_ne_nil (hjoin.sentences_ne_nil hw.ne_nil)
  rw [Rejoins, hsentences] at hjoin
  cases us with
  | nil => rw [hsentences, ← hjoin, joinWith_singleton]
  | cons next us =>
    have hspace := hw.noBlank ' ' (by rw [← hjoin, joinWith_cons_cons]; simp)
    cases hspace

/-- A word that rejoins is its only span, however long it is. -/
theorem spansOf_of_isWord (hw : IsWord w) (hjoin : Rejoins w) : spansOf limit w = [w] := by
  by_cases hfits : w.length ≤ max limit 1
  · exact spansOf_of_fits hw.ne_nil hjoin hfits
  · have hlong : Packing.fits (max limit 1) ⟨[], []⟩ w = false := decide_eq_false hfits
    rw [spansOf, sentences_of_isWord hw hjoin, List.foldl_cons, List.foldl_nil, Packing.unit,
      hlong, if_neg Bool.false_ne_true, if_neg hfits, words_of_isWord hw, List.foldl_cons,
      List.foldl_nil, Packing.word]
    show (if Packing.fits (max limit 1) ⟨[], []⟩ w then _ else Packing.restart _ w).spans = _
    rw [hlong]
    exact close_of_ne_nil hw.ne_nil

/-- A span of a text is its own only span. -/
theorem segment_of_mem_segment (text : String) (limit : Nat) :
    ∀ s ∈ segment text limit, segment s limit = [s] := by
  intro s hs
  obtain ⟨cs, hcs, rfl⟩ := List.mem_map.mp hs
  have hspan : IsSpan (max limit 1) cs := isSpan_of_mem_spansOf hcs
  have hjoin : Rejoins cs := rejoins_of_mem_spansOf hcs
  have hself : spansOf limit cs = [cs] := by
    rcases hspan.fits with hfits | hword
    · exact spansOf_of_fits hspan.ne_nil hjoin hfits
    · exact spansOf_of_isWord hword hjoin
  rw [segment, String.toList_ofList, hself, List.map_singleton]

/-- The end of a long unit with a unit of two words behind it, which keeps its line break. -/
theorem segment_of_joined_tail :
    "gamma?! Hi\n you." ∈ segment "alpha beta gamma?! Hi\n you. Supercalifragilistic!" 17 ∧
      segment "gamma?! Hi\n you." 17 = ["gamma?! Hi\n you."] := by
  have hmem : "gamma?! Hi\n you." ∈
      segment "alpha beta gamma?! Hi\n you. Supercalifragilistic!" 17 := by decide +kernel
  exact ⟨hmem, segment_of_mem_segment _ 17 _ hmem⟩

end Tutor.Speech
