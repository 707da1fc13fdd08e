import Tutor.Completion.OpenRouter
import Tutor.Proofs.Json.Given
import Tutor.Proofs.Json.Written
import Tutor.Proofs.Text.Trim

/-!
# Reading completions

A body that is a completion offers choices, each with a message that may have a text, and may tell
how many tokens were counted. The reply has the text of the first choice, whatever was counted; and
it has both counts as they stand in the body. But their sum is a word of 64 bits, so it is the sum
of the counts only as long as that fits.

* `IsMessage`, `IsChoice`, `IsUsage`, `IsAnswer` – the trees that are completions, and what they
  say.
* `partsOf_eq_ok_iff` – these are the trees that are read.
* `Tells`, `counted_replyOf` – which answers give a reply, and what the reply tells.
-/

namespace Tutor.Completion

open Tutor.Http Tutor.Json Tutor.Number Tutor.Text

/-! ### Trees that are completions -/

/-- The content of a message. -/
def messageLayout : Layout (Option String) Unit fun _ => Option String :=
  .only "content" fun t => t.optional Tree.string

/-- A tree is a message: its content is a text, null or not given. -/
def IsMessage (t : Tree) (content : Option String) : Prop :=
  ∃ given, messageLayout.Gives [()] t given ∧
    Given given () (MayBe (fun t s => t = .text (some s)) · content) (content = none)

/-- The message of a choice. -/
def choiceLayout : Layout (Option (Option String)) Unit fun _ => Option (Option String) :=
  .only "message" fun t => do return some (← contentOf t)

/-- A tree is a choice: its message is given. -/
def IsChoice (t : Tree) (content : Option String) : Prop :=
  ∃ given, choiceLayout.Gives [()] t given ∧ ∃ t, ((), t) ∈ given ∧ IsMessage t content

/-- The fields of the usage. -/
inductive Count where
  | prompt
  | completion
deriving DecidableEq, Repr

/-- The key of a count. -/
def Count.name : Count → String
  | prompt => "prompt_tokens"
  | completion => "completion_tokens"

/-- A count of two. -/
def Count.get : Count → UInt64 × UInt64 → UInt64
  | prompt => Prod.fst
  | completion => Prod.snd

/-- Two counts with one of them set. -/
def Count.put : Count → UInt64 → UInt64 × UInt64 → UInt64 × UInt64
  | prompt => fun n u => (n, u.2)
  | completion => fun n u => (u.1, n)

/-- The counts, set apart from each other. -/
def countLayout : Layout (UInt64 × UInt64) Count fun _ => UInt64 where
  name := Count.name
  decode _ := countOf
  get := Count.get
  put := Count.put
  name_injective := by
    intro k k'
    cases k <;> cases k' <;> simp [Count.name]
  get_put := by
    intro k v r
    cases k <;> rfl
  get_put_of_ne := by
    intro k k' v r hne
    cases k <;> cases k' <;> first | exact absurd rfl hne | rfl
  ext h := Prod.ext (h .prompt) (h .completion)

/-- A tree is a natural number of 64 bits. -/
def IsCount (t : Tree) (n : Nat) : Prop := ∃ x : Numeral, t = .number x ∧ x.IsNatural n

/-- A tree is a usage: its counts, of the prompt and of the completion, are numbers, and zero where
they are not given. -/
def IsUsage (t : Tree) (counted : Nat × Nat) : Prop :=
  ∃ given, countLayout.Gives [.prompt, .completion] t given ∧
    Given given .prompt (IsCount · counted.1) (counted.1 = 0) ∧
    Given given .completion (IsCount · counted.2) (counted.2 = 0)

/-- The fields of an answer. -/
inductive Part where
  | choices
  | usage
deriving DecidableEq, Repr

namespace Part

/-- The key of a part. -/
def name : Part → String
  | choices => "choices"
  | usage => "usage"

/-- What a part holds. -/
abbrev Content : Part → Type
  | choices => List (Option String)
  | usage => Option Usage

/-- Decodes a part. -/
def decode : (k : Part) → Tree → Decoded k.Content
  | choices => fun t => t.list choiceOf
  | usage => fun t => t.optional usageOf

/-- A part of an answer. -/
def get : (k : Part) → Parts → k.Content
  | choices => Parts.choices
  | usage => Parts.usage

/-- The parts with one of them set. -/
def put : (k : Part) → k.Content → Parts → Parts
  | choices => fun v p => { p with choices := v }
  | usage => fun v p => { p with usage := v }

end Part

/-- The parts of an answer, set apart from each other. -/
def partLayout : Layout Parts Part Part.Content where
  name := Part.name
  decode := Part.decode
  get := Part.get
  put := Part.put
  name_injective := by
    intro k k'
    cases k <;> cases k' <;> simp [Part.name]
  get_put := by
    intro k v r
    cases k <;> rfl
  get_put_of_ne := by
    intro k k' v r hne
    cases k <;> cases k' <;> first | exact absurd rfl hne | rfl
  ext := by
    intro r r' h
    have hchoices := h .choices
    have husage := h .usage
    cases r
    cases r'
    simp only [Part.get] at *
    subst_vars
    rfl

/-- A tree is an answer: it offers choices, none if they are not given, and has a usage unless that
is null or not given. -/
def IsAnswer (t : Tree) (choices : List (Option String)) (usage : Option (Nat × Nat)) : Prop :=
  ∃ given, partLayout.Gives [.choices, .usage] t given ∧
    Given given .choices
      (fun t => ∃ items, t = .array items true ∧ List.Forall₂ IsChoice items choices)
      (choices = []) ∧
    Given given .usage (MayBe IsUsage · usage) (usage = none)

/-! ### These are the trees that are read -/

variable {t : Tree} {content : Option String}

theorem contentOf_eq_ok_iff : contentOf t = .ok content ↔ IsMessage t content := by
  have hnull : ∀ s, Tree.string .null ≠ .ok s := fun s h => by cases h
  rw [contentOf, Layout.record_only_eq_ok_iff]
  refine exists_congr fun given => and_congr_right fun _ => ?_
  simp only [Tree.optional_eq_ok_iff hnull, Tree.string_eq_ok_iff]

theorem choiceOf_eq_ok_iff : choiceOf t = .ok content ↔ IsChoice t content := by
  have hrequired : ∀ value : Option (Option String),
      required value = .ok content ↔ value = some content := by
    intro value
    cases value <;> simp [required]
  have hvalue : ∀ t : Tree, (do return some (← contentOf t) : Decoded (Option (Option String))) =
      .ok (some content) ↔ IsMessage t content := by
    intro t
    rw [bind_eq_ok_iff]
    simp [pure_eq_ok_iff, contentOf_eq_ok_iff]
  rw [choiceOf, bind_eq_ok_iff]
  simp only [hrequired, exists_eq_right, Layout.record_only_eq_ok_iff]
  refine exists_congr fun given => and_congr_right fun _ => ?_
  simp only [Given, hvalue, reduceCtorEq, and_false, or_false]

/-- Counts fit their words, since only numbers of 64 bits are read. -/
theorem countOf_eq_ok_iff {c : UInt64} : countOf t = .ok c ↔ IsCount t c.toNat := by
  rw [countOf, bind_eq_ok_iff]
  constructor
  · rintro ⟨n, hn, hc⟩
    obtain rfl := pure_eq_ok_iff.mp hc
    obtain ⟨x, hx, hnatural⟩ := Tree.natural_eq_ok_iff.mp hn
    have hfits : (UInt64.ofNat n).toNat = n := UInt64.toNat_ofNat_of_lt' hnatural.fits
    rw [IsCount, hfits]
    exact ⟨x, hx, hnatural⟩
  · rintro ⟨x, hx, hnatural⟩
    exact ⟨c.toNat, Tree.natural_eq_ok_iff.mpr ⟨x, hx, hnatural⟩,
      pure_eq_ok_iff.mpr UInt64.ofNat_toNat.symm⟩

/-- The two numbers that were counted. -/
def counts (u : Usage) : Nat × Nat := (u.prompt.toNat, u.completion.toNat)

theorem usageOf_eq_ok_iff {u : Usage} :
    usageOf t = .ok u ↔ IsUsage t (counts u) ∧ u = .ofCounts u.prompt u.completion := by
  have hzero : ∀ n : UInt64, n = 0 ↔ n.toNat = 0 := fun n => UInt64.toNat_inj.symm
  have hcount : ∀ (t : Tree) (n : UInt64), countOf t = .ok n ↔ IsCount t n.toNat :=
    fun _ _ => countOf_eq_ok_iff
  have hrecord : ∀ p c : UInt64,
      t.record ([Count.prompt, .completion].map countLayout.member) (0, 0) = .ok (p, c) ↔
        IsUsage t (p.toNat, c.toNat) := by
    intro p c
    rw [Layout.record_eq_ok_iff_given (by decide)]
    refine exists_congr fun given => and_congr_right fun _ => ?_
    constructor
    · intro h
      have hprompt := h .prompt
      have hcompletion := h .completion
      simp only [countLayout, Count.get, hcount, hzero] at hprompt hcompletion
      exact ⟨hprompt, hcompletion⟩
    · rintro ⟨hprompt, hcompletion⟩ k
      cases k <;> simpa only [countLayout, Count.get, hcount, hzero]
  rw [usageOf, bind_eq_ok_iff]
  constructor
  · rintro ⟨⟨p, c⟩, hcounts, hu⟩
    obtain rfl := pure_eq_ok_iff.mp hu
    exact ⟨(hrecord p c).mp hcounts, rfl⟩
  · rintro ⟨h, hu⟩
    exact ⟨(u.prompt, u.completion), (hrecord _ _).mpr h, pure_eq_ok_iff.mpr hu⟩

theorem optional_usageOf_eq_ok_iff {usage : Option Usage} :
    t.optional usageOf = .ok usage ↔ MayBe IsUsage t (usage.map counts) ∧
      ∀ u ∈ usage, u = .ofCounts u.prompt u.completion := by
  have hnull : ∀ u, usageOf .null ≠ .ok u := fun u h => by cases h
  rw [Tree.optional_eq_ok_iff hnull]
  cases usage with
  | none => exact ⟨fun h => ⟨h, fun u hu => by cases hu⟩, And.left⟩
  | some u =>
    show usageOf t = .ok u ↔ IsUsage t (counts u) ∧ _
    rw [usageOf_eq_ok_iff]
    simp

theorem partsOf_eq_ok_iff {p : Parts} :
    partsOf t = .ok p ↔ IsAnswer t p.choices (p.usage.map counts) ∧
      ∀ u ∈ p.usage, u = .ofCounts u.prompt u.completion := by
  have hlist : ∀ t : Tree, t.list choiceOf = .ok p.choices ↔
      ∃ items, t = .array items true ∧ List.Forall₂ IsChoice items p.choices := by
    intro t
    simp only [Tree.list_eq_ok_iff, choiceOf_eq_ok_iff]
  have hrecord : partsOf t = t.record ([Part.choices, .usage].map partLayout.member) {} := rfl
  rw [hrecord, Layout.record_eq_ok_iff_given (by decide)]
  constructor
  · rintro ⟨given, hgives, h⟩
    have hchoices := h .choices
    have husage := h .usage
    simp only [partLayout, Part.get, Part.decode, hlist] at hchoices
    simp only [partLayout, Part.get, Part.decode, optional_usageOf_eq_ok_iff] at husage
    rcases husage with ⟨t', hmem, husage, hsums⟩ | ⟨hnone, husage⟩
    · exact ⟨⟨given, hgives, hchoices, .inl ⟨t', hmem, husage⟩⟩, hsums⟩
    · refine ⟨⟨given, hgives, hchoices, .inr ⟨hnone, ?_⟩⟩, ?_⟩
      · rw [husage]
        rfl
      · rw [husage]
        exact fun u hu => by cases hu
  · rintro ⟨⟨given, hgives, hchoices, husage⟩, hsums⟩
    refine ⟨given, hgives, fun k => ?_⟩
    cases k with
    | choices => simpa only [partLayout, Part.get, Part.decode, hlist]
    | usage =>
      simp only [partLayout, Part.get, Part.decode, optional_usageOf_eq_ok_iff]
      rcases husage with ⟨t', hmem, husage⟩ | ⟨hnone, husage⟩
      · exact .inl ⟨t', hmem, husage, hsums⟩
      · exact .inr ⟨hnone, Option.map_eq_none_iff.mp husage⟩

/-! ### What a reply tells -/

/-- A usage tells the two numbers that were counted, and their sum as a word of 64 bits. -/
structure Counts (counted : Nat × Nat) (u : Usage) : Prop where
  prompt : u.prompt.toNat = counted.1
  completion : u.completion.toNat = counted.2
  total : u.total.toNat = (counted.1 + counted.2) % twoTo 64

variable {counted : Nat × Nat} {u : Usage}

/-- The sum is told as long as it fits. -/
theorem Counts.total_eq_iff (h : Counts counted u) :
    u.total.toNat = counted.1 + counted.2 ↔ counted.1 + counted.2 < twoTo 64 := by
  rw [h.total]
  exact Nat.mod_eq_iff_lt (by decide)

theorem counts_iff : Counts counted u ↔
    counts u = counted ∧ u = .ofCounts u.prompt u.completion := by
  constructor
  · intro h
    refine ⟨Prod.ext h.prompt h.completion, ?_⟩
    have htotal : u.total = u.prompt + u.completion := by
      rw [← UInt64.toNat_inj, h.total, UInt64.toNat_add, h.prompt, h.completion]
      rfl
    rw [Usage.ofCounts, ← htotal]
  · rintro ⟨rfl, hsum⟩
    refine ⟨rfl, rfl, ?_⟩
    rw [hsum]
    exact UInt64.toNat_add _ _

/-- What a reply tells of an answer: of the text of the first choice, what stands between the
blanks, and of the usage, what was counted. -/
structure Tells (choices : List (Option String)) (usage : Option (Nat × Nat)) (reply : Reply) :
    Prop where
  speaker : reply.message.speaker = .assistant
  trimmed : IsTrimmed reply.message.content.toList
  content : ∃ front back,
    (choices.head?.join.getD "").toList = front ++ (reply.message.content.toList ++ back) ∧
      (∀ c ∈ front, isBlank c = true) ∧ ∀ c ∈ back, isBlank c = true
  uncounted : usage = none → reply.usage = none
  counted : ∀ n, usage = some n → ∃ u, reply.usage = some u ∧ Counts n u

theorem tells_iff {choices : List (Option String)} {usage : Option (Nat × Nat)} {reply : Reply} :
    Tells choices usage reply ↔
      reply.message = ⟨.assistant, Text.trimmed (choices.head?.join.getD "")⟩ ∧
        reply.usage.map counts = usage ∧
        ∀ u ∈ reply.usage, u = .ofCounts u.prompt u.completion := by
  have htext : ∀ text s : String, Text.trimmed text = s ↔ trim text.toList = s.toList := by
    intro text s
    rw [Text.trimmed, ← String.toList_inj, String.toList_ofList]
  constructor
  · intro h
    have hcontent := (htext _ _).mpr (trim_eq_iff.mpr ⟨h.trimmed, h.content⟩)
    refine ⟨?_, ?_⟩
    · rw [hcontent, ← h.speaker]
    · cases usage with
      | none => simp [h.uncounted rfl]
      | some n =>
        obtain ⟨u, hu, hcounts⟩ := h.counted n rfl
        simpa [hu] using counts_iff.mp hcounts
  · rintro ⟨hmessage, rfl, hsums⟩
    have hcontent := trim_eq_iff.mp ((htext _ _).mp (congrArg Message.content hmessage).symm)
    refine ⟨congrArg Message.speaker hmessage, hcontent.1, hcontent.2, ?_, ?_⟩
    · exact Option.map_eq_none_iff.mp
    · intro n hn
      obtain ⟨u, hu, hcounts⟩ := Option.map_eq_some_iff.mp hn
      exact ⟨u, hu, counts_iff.mpr ⟨hcounts, hsums u hu⟩⟩

theorem Parts.reply_eq_iff {p : Parts} {reply : Reply} : p.reply = reply ↔
    reply.message = ⟨.assistant, trimmed (p.choices.head?.join.getD "")⟩ ∧
      reply.usage = p.usage := by
  constructor
  · rintro rfl
    exact ⟨rfl, rfl⟩
  · rintro ⟨hmessage, husage⟩
    rw [Parts.reply, ← hmessage, ← husage]

/-- What is counted fits a word of 64 bits. -/
theorem IsUsage.exists_counts (h : IsUsage t counted) : ∃ u, Counts counted u := by
  obtain ⟨given, -, hprompt, hcompletion⟩ := h
  have hfits : ∀ {k : Count} {n : Nat}, Given given k (IsCount · n) (n = 0) → n < twoTo 64 := by
    rintro k n (⟨t, -, x, -, hnatural⟩ | ⟨-, rfl⟩)
    · exact hnatural.fits
    · decide
  refine ⟨.ofCounts (.ofNat counted.1) (.ofNat counted.2), counts_iff.mpr ⟨?_, rfl⟩⟩
  exact Prod.ext (UInt64.toNat_ofNat_of_lt' (hfits hprompt))
    (UInt64.toNat_ofNat_of_lt' (hfits hcompletion))

/-- There is something to be told of every answer. -/
theorem IsAnswer.exists_tells {choices : List (Option String)} {usage : Option (Nat × Nat)}
    (h : IsAnswer t choices usage) : ∃ reply, Tells choices usage reply := by
  obtain ⟨given, -, -, husage⟩ := h
  have hcounts : ∃ usage' : Option Usage, usage'.map counts = usage ∧
      ∀ u ∈ usage', u = .ofCounts u.prompt u.completion := by
    cases usage with
    | none => exact ⟨none, rfl, fun u hu => by cases hu⟩
    | some n =>
      rcases husage with ⟨t, -, husage⟩ | ⟨-, husage⟩
      · obtain ⟨u, hu⟩ := IsUsage.exists_counts husage
        obtain ⟨rfl, hsum⟩ := counts_iff.mp hu
        refine ⟨some u, rfl, fun u' hu' => ?_⟩
        obtain rfl := Option.some.inj hu'
        exact hsum
      · cases husage
  obtain ⟨usage', husage', hsums⟩ := hcounts
  exact ⟨⟨_, usage'⟩, tells_iff.mpr ⟨rfl, husage', hsums⟩⟩

/-! ### Which answers give a reply -/

theorem decode_eq_ok_iff {α : Type} {d : Document} {decode : Tree → Decoded α} {a : α} :
    d.decode decode = .ok a ↔ d.ends = true ∧ decode d.tree = .ok a := by
  rw [Document.decode, bind_eq_ok_iff]
  cases d.ends with
  | false =>
    refine iff_of_false ?_ (by simp)
    rintro ⟨a', -, h⟩
    cases h
  | true => simp [pure_eq_ok_iff]

/-- A body is a completion: its text is a tree that is an answer, and nothing follows it. -/
def IsCompletion (body : List UInt8) (choices : List (Option String))
    (usage : Option (Nat × Nat)) : Prop :=
  (Document.ofBytes body).ends = true ∧ IsAnswer (Document.ofBytes body).tree choices usage

theorem exists_parts_iff {body : List UInt8} {reply : Reply} :
    (∃ p, (Document.ofBytes body).decode partsOf = .ok p ∧ p.reply = reply) ↔
      ∃ choices usage, IsCompletion body choices usage ∧ Tells choices usage reply := by
  simp only [decode_eq_ok_iff, partsOf_eq_ok_iff, tells_iff, Parts.reply_eq_iff, IsCompletion]
  constructor
  · rintro ⟨p, ⟨hends, hanswer, hsums⟩, hmessage, husage⟩
    rw [← husage] at hsums
    exact ⟨p.choices, p.usage.map counts, ⟨hends, hanswer⟩, hmessage, by rw [husage], hsums⟩
  · rintro ⟨choices, usage, ⟨hends, hanswer⟩, hmessage, rfl, hsums⟩
    exact ⟨⟨choices, reply.usage⟩, ⟨hends, hanswer, hsums⟩, hmessage, rfl⟩

variable {r : Response} {reply : Reply}

theorem replyOf_eq_ok_iff : replyOf r = .ok reply ↔
    200 ≤ r.status ∧ r.status < 300 ∧ r.isWhole = true ∧
      ∃ p, (Document.ofBytes r.body).decode partsOf = .ok p ∧ p.reply = reply := by
  rw [replyOf]
  split
  next hstatus =>
    have : r.status = 401 := by simpa using hstatus
    exact iff_of_false (fun h => by cases h) (by omega)
  split
  next hstatus =>
    have : r.status < 200 ∨ 300 ≤ r.status := by simpa using hstatus
    exact iff_of_false (fun h => by cases h) (by omega)
  next hstatus =>
    have hsuccess : 200 ≤ r.status ∧ r.status < 300 := by simpa using hstatus
    cases r.isWhole with
    | false => exact iff_of_false (fun h => by cases h) (by simp)
    | true =>
      cases (Document.ofBytes r.body).decode partsOf with
      | error why => exact iff_of_false (fun h => by cases h) (by simp)
      | ok p => simp [hsuccess]

/-- The reply to an answer has the text of the first choice, whatever was counted, and tells what
was counted. -/
theorem counted_replyOf :
    replyOf r = .ok reply ↔
      200 ≤ r.status ∧ r.status < 300 ∧ r.isWhole = true ∧
        ∃ choices usage, IsCompletion r.body choices usage ∧ Tells choices usage reply := by
  rw [replyOf_eq_ok_iff, exists_parts_iff]

/-- An answer that counts as many tokens as a word of 64 bits can, and one more. -/
def manyTokens : Response where
  status := 200
  body := bytesOf (Value.object [("usage", .object
    [("prompt_tokens", .number "18446744073709551615"), ("completion_tokens", .number "1")])]).render

/-- The literal of the greatest word of 64 bits. -/
def greatest : Numeral :=
  ⟨false, [1, 8, 4, 4, 6, 7, 4, 4, 0, 7, 3, 7, 0, 9, 5, 5, 1, 6, 1, 5], [], 0, false⟩

theorem ofBytes_manyTokens : Document.ofBytes manyTokens.body =
    ⟨.object [(some "usage", .object
      [ (some "prompt_tokens", .number greatest),
        (some "completion_tokens", .number ⟨false, [1], [], 0, false⟩) ] true)] true, true⟩ := by
  have hbody : decode manyTokens.body =
      some '\x7b' :: ((quoted "usage").map some ++ some ':' :: some '\x7b' ::
        ((quoted "prompt_tokens").map some ++ some ':' :: ("18446744073709551615".toList.map some ++
          some ',' :: ((quoted "completion_tokens").map some ++ some ':' ::
            [some '1', some '\x7d', some '\x7d'])))) := by
    rw [manyTokens, bytesOf, decode_utf8, Value.render, String.toList_ofList]
    simp [Value.chars, Value.charsOfMembers]
  have hfull : ∀ (k : String) (rest after : List Symbol),
      skipBlanks ((quoted k).map some ++ rest) ≠ some '\x7d' :: after := by
    intro k rest after h
    cases (skipBlanks_quoted k rest).symm.trans h
  have hcompletion : Comes (readValue [some '1', some '\x7d', some '\x7d'])
      (.number ⟨false, [1], [], 0, false⟩) [some '\x7d', some '\x7d'] :=
    comes_number (skipBlanks_cons rfl) (by decide) rfl
  have hprompt : ∀ rest : List Symbol,
      Comes (readValue ("18446744073709551615".toList.map some ++ some ',' :: rest))
        (.number greatest) (some ',' :: rest) :=
    fun rest => comes_number (skipBlanks_cons rfl) (by decide) rfl
  have hcounts := comes_members_quoted "prompt_tokens" (hprompt _) (skipBlanks_cons rfl)
    (comes_lastMember_quoted "completion_tokens" hcompletion (skipBlanks_cons rfl))
  have husage := comes_object (skipBlanks_cons rfl) (hfull _ _) hcounts
  have hmember := comes_lastMember_quoted "usage" husage (skipBlanks_cons rfl)
  have hanswer := comes_object (skipBlanks_cons rfl) (hfull _ _) hmember
  obtain ⟨hrest, hread⟩ := hanswer.exists
  rw [Document.ofBytes, hbody, Document.ofSymbols, hread]
  rfl

/-- What is told as the total need not be the sum. -/
theorem total_ne_sum_of_manyTokens :
    ∃ reply u, replyOf manyTokens = .ok reply ∧ reply.usage = some u ∧
      u.total.toNat ≠ u.prompt.toNat + u.completion.toNat := by
  have hreply : replyOf manyTokens =
      .ok ⟨⟨.assistant, ""⟩, some ⟨18446744073709551615, 1, 0⟩⟩ := by
    rw [replyOf, ofBytes_manyTokens]
    rfl
  exact ⟨_, _, hreply, rfl, by decide⟩

end Tutor.Completion
