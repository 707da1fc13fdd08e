import Tutor.Json.Tree
import Tutor.Json.Value
import Tutor.Proofs.Text.Utf8

/-!
# Reading what was written

A value that is written and read again is the tree of what it is made of, whatever texts stand in
it. A written text falls into pieces, one for each of its characters, and no piece is a quote. So the
closing quote ends it, and the reader of values goes on behind it.

* `pieceOf`, `read?_escaped`, `spell?_pieces` – texts as literals.
* `Value.tree`, `ReadsTo` – what a value is read as, in front of anything that may follow.
* `readsTo_chars`, `ofBytes_render` – values without numbers, alone and as whole texts.
-/

namespace Tutor.Json

open Tutor.Text

variable {c : Char} {cs : List Char} {rest : List Symbol}

/-! ### Texts -/

/-- The piece that a character of a text is written as. -/
def pieceOf (c : Char) : Piece :=
  if c.toNat < 0x20 ∧ c ∉ ['\x08', '\x0c', '\n', '\r', '\t'] then .unit c.toNat else .char c

/-- The four digits of an escape spell the control character that they stand for. -/
theorem unitOf?_control {n : Nat} (h : n < 32) :
    Piece.unitOf? (some '0') (some '0') (some (digitChar (n / 16))) (some (digitChar (n % 16))) =
      some n := by
  have hall : ∀ n < 32, Piece.unitOf? (some '0') (some '0') (some (digitChar (n / 16)))
      (some (digitChar (n % 16))) = some n := by decide
  exact hall n h

theorem read?_escape {e d : Char} (h : Piece.ofEscape? e = some d) (hu : e ≠ 'u') :
    Piece.read? (some '\\' :: some e :: rest) =
      (Piece.read? rest).map fun r => (.char d :: r.1, r.2) := by
  rw [Piece.read?]
  · rw [h]
    cases Piece.read? rest <;> rfl
  · simp [hu]

theorem read?_itself (hquote : c ≠ '"') (hslash : c ≠ '\\') (hcontrol : 0x20 ≤ c.toNat)
    (rest : List Symbol) :
    Piece.read? (some c :: rest) = (Piece.read? rest).map fun r => (.char c :: r.1, r.2) := by
  rw [Piece.read?]
  · rw [if_neg (not_or.mpr ⟨hslash, Nat.not_lt.mpr hcontrol⟩)]
    cases Piece.read? rest <;> rfl
  · simpa using hquote
  · intro _ _ _ _ _ _
    exact hslash
  · intro _ _ _
    exact hslash

/-- One written character is read as its piece. -/
theorem read?_escaped (c : Char) (rest : List Symbol) :
    Piece.read? ((escaped c).map some ++ rest) =
      (Piece.read? rest).map fun r => (pieceOf c :: r.1, r.2) := by
  rw [escaped.eq_def]
  split
  · exact read?_escape rfl (by decide)
  · exact read?_escape rfl (by decide)
  · exact read?_escape rfl (by decide)
  · exact read?_escape rfl (by decide)
  · exact read?_escape rfl (by decide)
  · exact read?_escape rfl (by decide)
  · exact read?_escape rfl (by decide)
  next hquote hslash hb hf hn hr ht =>
    split
    next hcontrol =>
      have hpiece : pieceOf c = .unit c.toNat := if_pos ⟨hcontrol, by simpa using ⟨hb, hf, hn, hr, ht⟩⟩
      rw [hpiece]
      show Piece.read? (some '\\' :: some 'u' :: some '0' :: some '0' :: some _ :: some _ :: rest) = _
      rw [Piece.read?, unitOf?_control hcontrol]
      cases Piece.read? rest <;> rfl
    next hcontrol =>
      have hpiece : pieceOf c = .char c := if_neg fun h => hcontrol h.1
      rw [hpiece]
      exact read?_itself hquote hslash (Nat.not_lt.mp hcontrol) rest

/-- Behind the written characters stands the closing quote. -/
theorem read?_literal (cs : List Char) (rest : List Symbol) :
    Piece.read? ((cs.flatMap escaped).map some ++ some '"' :: rest) =
      some (cs.map pieceOf, rest) := by
  induction cs with
  | nil => rfl
  | cons c cs ih =>
    rw [List.flatMap_cons, List.map_append, List.append_assoc, read?_escaped, ih]
    rfl

/-- A unit that is not half of a pair is a character by itself. -/
theorem spell?_unit {n : Nat} (h : n < 0xD800 ∨ 0xDFFF < n) (ps : List Piece) :
    Piece.spell? (.unit n :: ps) = (Piece.spell? ps).map (Char.ofNat n :: ·) := by
  cases ps with
  | nil => simp [Piece.spell?, h]
  | cons p ps => cases p <;> simp [Piece.spell?, h]

/-- The pieces of a text spell it. -/
theorem spell?_pieces (cs : List Char) : Piece.spell? (cs.map pieceOf) = some cs := by
  induction cs with
  | nil => rw [List.map_nil, Piece.spell?]
  | cons c cs ih =>
    rw [List.map_cons, pieceOf]
    split
    next h =>
      rw [spell?_unit (.inl (by omega)), ih, Char.ofNat_toNat]
      rfl
    next =>
      rw [Piece.spell?, ih]
      rfl

/-! ### Values at the front of a text -/

/-- What reading came to, and what it left. -/
def Comes {α : Type} {cs : List Symbol} (x : α × Option (Rest cs)) (a : α) (rest : List Symbol) :
    Prop := x.1 = a ∧ x.2.map Subtype.val = some rest

theorem Comes.exists {α : Type} {cs : List Symbol} {x : α × Option (Rest cs)} {a : α}
    (h : Comes x a rest) : ∃ hrest : rest.length < cs.length, x = (a, some ⟨rest, hrest⟩) := by
  obtain ⟨b, r⟩ := x
  obtain ⟨rfl, hr⟩ := h
  obtain ⟨⟨after, hlt⟩, rfl, rfl⟩ := Option.map_eq_some_iff.mp hr
  exact ⟨hlt, rfl⟩

/-- Characters that JSON does not pass over. -/
def opens (c : Char) : Bool := !(c == ' ' || c == '\n' || c == '\t' || c == '\r')

theorem skipBlanks_cons (h : opens c = true) : skipBlanks (some c :: rest) = some c :: rest := by
  rw [skipBlanks.eq_def]
  split <;> simp_all [opens]

/-! What reading does, once the character in front is known. -/

variable {cs after more : List Symbol} {ps : List Piece} {t : Tree} {items : List Tree}
  {members : List (Option String × Tree)}

theorem comes_text (hopen : skipBlanks cs = some '"' :: rest)
    (h : Piece.read? rest = some (ps, after)) :
    Comes (readValue cs) (.text ((Piece.spell? ps).map String.ofList)) after := by
  rw [readValue]
  split
  next hv => cases hopen.symm.trans hv
  next hv => cases hopen.symm.trans hv
  next hv =>
    obtain ⟨hc, rfl⟩ := List.cons.inj (hopen.symm.trans hv)
    obtain rfl := Option.some.inj hc
    simp only [if_true]
    split
    next hs => cases h.symm.trans hs
    next hs =>
      obtain ⟨rfl, rfl⟩ := Prod.mk.inj (Option.some.inj (h.symm.trans hs))
      exact ⟨rfl, rfl⟩

theorem comes_emptyArray (hopen : skipBlanks cs = some '[' :: rest)
    (h : skipBlanks rest = some ']' :: after) : Comes (readValue cs) (.array [] true) after := by
  rw [readValue]
  split
  next hv => cases hopen.symm.trans hv
  next hv => cases hopen.symm.trans hv
  next hv =>
    obtain ⟨hc, rfl⟩ := List.cons.inj (hopen.symm.trans hv)
    obtain rfl := Option.some.inj hc
    rw [if_neg (by decide), if_pos rfl]
    split
    next hs =>
      obtain rfl := (List.cons.inj (h.symm.trans hs)).2
      exact ⟨rfl, rfl⟩
    next hs => exact absurd h (hs _)

theorem comes_array (hopen : skipBlanks cs = some '[' :: rest)
    (hfull : ∀ after, skipBlanks rest ≠ some ']' :: after) (h : Comes (readItems rest) items after) :
    Comes (readValue cs) (.array items true) after := by
  obtain ⟨hafter, hitems⟩ := h.exists
  rw [readValue]
  split
  next hv => cases hopen.symm.trans hv
  next hv => cases hopen.symm.trans hv
  next hv =>
    obtain ⟨hc, rfl⟩ := List.cons.inj (hopen.symm.trans hv)
    obtain rfl := Option.some.inj hc
    rw [if_neg (by decide), if_pos rfl]
    split
    next hs => exact absurd hs (hfull _)
    next =>
      simp only [hitems]
      exact ⟨rfl, rfl⟩

theorem comes_emptyObject (hopen : skipBlanks cs = some '\x7b' :: rest)
    (h : skipBlanks rest = some '\x7d' :: after) : Comes (readValue cs) (.object [] true) after := by
  rw [readValue]
  split
  next hv => cases hopen.symm.trans hv
  next hv => cases hopen.symm.trans hv
  next hv =>
    obtain ⟨hc, rfl⟩ := List.cons.inj (hopen.symm.trans hv)
    obtain rfl := Option.some.inj hc
    rw [if_neg (by decide), if_neg (by decide), if_pos rfl]
    split
    next hs =>
      obtain rfl := (List.cons.inj (h.symm.trans hs)).2
      exact ⟨rfl, rfl⟩
    next hs => exact absurd h (hs _)

theorem comes_object (hopen : skipBlanks cs = some '\x7b' :: rest)
    (hfull : ∀ after, skipBlanks rest ≠ some '\x7d' :: after)
    (h : Comes (readMembers rest) members after) :
    Comes (readValue cs) (.object members true) after := by
  obtain ⟨hafter, hmembers⟩ := h.exists
  rw [readValue]
  split
  next hv => cases hopen.symm.trans hv
  next hv => cases hopen.symm.trans hv
  next hv =>
    obtain ⟨hc, rfl⟩ := List.cons.inj (hopen.symm.trans hv)
    obtain rfl := Option.some.inj hc
    rw [if_neg (by decide), if_neg (by decide), if_pos rfl]
    split
    next hs => exact absurd hs (hfull _)
    next =>
      simp only [hmembers]
      exact ⟨rfl, rfl⟩

theorem word?_of_eq {word : List Char} (h : word ≠ []) (value : Tree)
    (hcs : cs = word.map some ++ rest) :
    ∃ hrest, word? word value cs = (value, some ⟨rest, hrest⟩) := by
  subst hcs
  have htake : (word.map some ++ rest).take word.length = word.map some :=
    List.take_left' (List.length_map _)
  have hdrop : (word.map some ++ rest).drop word.length = rest :=
    List.drop_left' (List.length_map _)
  have hcomes : Comes (word? word value (word.map some ++ rest)) value rest := by
    rw [word?, dif_pos ⟨h, htake⟩]
    exact ⟨rfl, congrArg some hdrop⟩
  exact hcomes.exists

theorem comes_word {c : Char} {word : List Char} {value : Tree}
    (hword : (c, word, value) ∈ [('n', "null".toList, .null), ('t', "true".toList, .bool true),
      ('f', "false".toList, .bool false)])
    (hopen : skipBlanks cs = some c :: more) (hcs : skipBlanks cs = word.map some ++ rest) :
    Comes (readValue cs) value rest := by
  simp only [List.mem_cons, List.not_mem_nil, or_false, Prod.mk.injEq] at hword
  have hne : word ≠ [] := by
    rcases hword with ⟨-, rfl, -⟩ | ⟨-, rfl, -⟩ | ⟨-, rfl, -⟩ <;> decide
  obtain ⟨hrest, hread⟩ := word?_of_eq hne value hcs
  rcases hword with ⟨rfl, rfl, rfl⟩ | ⟨rfl, rfl, rfl⟩ | ⟨rfl, rfl, rfl⟩
  all_goals
    rw [readValue]
    split
    next hv => cases hopen.symm.trans hv
    next hv => cases hopen.symm.trans hv
    next hv =>
      obtain ⟨hc, rfl⟩ := List.cons.inj (hopen.symm.trans hv)
      obtain rfl := Option.some.inj hc
      rw [if_neg (by decide), if_neg (by decide), if_neg (by decide)]
      simp only [hread, if_true, if_neg (show ¬ 't' = 'n' by decide),
        if_neg (show ¬ 'f' = 'n' by decide), if_neg (show ¬ 'f' = 't' by decide)]
      exact ⟨rfl, rfl⟩

theorem comes_number {c : Char} {n : Numeral} (hopen : skipBlanks cs = some c :: more)
    (hc : c ∉ ['"', '[', '\x7b', 'n', 't', 'f'])
    (h : Numeral.read? (some c :: more) = some (n, rest)) : Comes (readValue cs) (.number n) rest := by
  simp only [List.mem_cons, List.not_mem_nil, or_false, not_or] at hc
  obtain ⟨hquote, hbracket, hbrace, hn, ht, hf⟩ := hc
  rw [readValue]
  split
  next hv => cases hopen.symm.trans hv
  next hv => cases hopen.symm.trans hv
  next hv =>
    obtain ⟨hhead, rfl⟩ := List.cons.inj (hopen.symm.trans hv)
    obtain rfl := Option.some.inj hhead
    rw [if_neg hquote, if_neg hbracket, if_neg hbrace]
    simp only [if_neg hn, if_neg ht, if_neg hf]
    split
    next hs => cases h.symm.trans hs
    next hs =>
      obtain ⟨rfl, rfl⟩ := Prod.mk.inj (Option.some.inj (h.symm.trans hs))
      exact ⟨rfl, rfl⟩

theorem comes_lastItem (h : Comes (readValue cs) t rest)
    (hclose : skipBlanks rest = some ']' :: after) : Comes (readItems cs) [t] after := by
  obtain ⟨hrest, hvalue⟩ := h.exists
  rw [readItems]
  split
  next heq => cases hvalue.symm.trans heq
  next heq =>
    obtain ⟨rfl, hr⟩ := Prod.mk.inj (hvalue.symm.trans heq)
    obtain rfl := Option.some.inj hr
    dsimp only
    split
    next hs =>
      obtain rfl := (List.cons.inj (hclose.symm.trans hs)).2
      exact ⟨rfl, rfl⟩
    next hs => cases hclose.symm.trans hs
    next hother _ => exact absurd hclose (hother _)

theorem comes_items (h : Comes (readValue cs) t rest) (hcomma : skipBlanks rest = some ',' :: more)
    (hnext : ∀ after, skipBlanks more ≠ some ']' :: after) (hmore : Comes (readItems more) items after) :
    Comes (readItems cs) (t :: items) after := by
  obtain ⟨hrest, hvalue⟩ := h.exists
  obtain ⟨hafter, hitems⟩ := hmore.exists
  rw [readItems]
  split
  next heq => cases hvalue.symm.trans heq
  next heq =>
    obtain ⟨rfl, hr⟩ := Prod.mk.inj (hvalue.symm.trans heq)
    obtain rfl := Option.some.inj hr
    dsimp only
    split
    next hs => cases hcomma.symm.trans hs
    next hs =>
      obtain rfl := (List.cons.inj (hcomma.symm.trans hs)).2
      split
      next hbracket => exact absurd hbracket (hnext _)
      next =>
        simp only [hitems]
        exact ⟨rfl, rfl⟩
    next hs => exact absurd hcomma (hs _)

theorem comes_lastMember {key value : List Symbol} (hquote : skipBlanks cs = some '"' :: key)
    (hkey : Piece.read? key = some (ps, more)) (hcolon : skipBlanks more = some ':' :: value)
    (h : Comes (readValue value) t rest) (hclose : skipBlanks rest = some '\x7d' :: after) :
    Comes (readMembers cs) [((Piece.spell? ps).map String.ofList, t)] after := by
  obtain ⟨hrest, hvalue⟩ := h.exists
  rw [readMembers]
  split
  next hk =>
    obtain rfl := (List.cons.inj (hquote.symm.trans hk)).2
    split
    next hs => cases hkey.symm.trans hs
    next hs =>
      obtain ⟨rfl, rfl⟩ := Prod.mk.inj (Option.some.inj (hkey.symm.trans hs))
      dsimp only
      split
      next hc =>
        obtain rfl := (List.cons.inj (hcolon.symm.trans hc)).2
        split
        next heq => cases hvalue.symm.trans heq
        next heq =>
          obtain ⟨rfl, hr⟩ := Prod.mk.inj (hvalue.symm.trans heq)
          obtain rfl := Option.some.inj hr
          dsimp only
          split
          next he =>
            obtain rfl := (List.cons.inj (hclose.symm.trans he)).2
            exact ⟨rfl, rfl⟩
          next he => cases hclose.symm.trans he
          next hother _ => exact absurd hclose (hother _)
      next hother => exact absurd hcolon (hother _)
  next hother => exact absurd hquote (hother _)

theorem comes_members {key value next : List Symbol} (hquote : skipBlanks cs = some '"' :: key)
    (hkey : Piece.read? key = some (ps, more)) (hcolon : skipBlanks more = some ':' :: value)
    (h : Comes (readValue value) t rest) (hcomma : skipBlanks rest = some ',' :: next)
    (hmore : Comes (readMembers next) members after) :
    Comes (readMembers cs) (((Piece.spell? ps).map String.ofList, t) :: members) after := by
  obtain ⟨hrest, hvalue⟩ := h.exists
  obtain ⟨hafter, hmembers⟩ := hmore.exists
  rw [readMembers]
  split
  next hk =>
    obtain rfl := (List.cons.inj (hquote.symm.trans hk)).2
    split
    next hs => cases hkey.symm.trans hs
    next hs =>
      obtain ⟨rfl, rfl⟩ := Prod.mk.inj (Option.some.inj (hkey.symm.trans hs))
      dsimp only
      split
      next hc =>
        obtain rfl := (List.cons.inj (hcolon.symm.trans hc)).2
        split
        next heq => cases hvalue.symm.trans heq
        next heq =>
          obtain ⟨rfl, hr⟩ := Prod.mk.inj (hvalue.symm.trans heq)
          obtain rfl := Option.some.inj hr
          dsimp only
          split
          next he => cases hcomma.symm.trans he
          next he =>
            obtain rfl := (List.cons.inj (hcomma.symm.trans he)).2
            simp only [hmembers]
            exact ⟨rfl, rfl⟩
          next hother => exact absurd hcomma (hother _)
      next hother => exact absurd hcolon (hother _)
  next hother => exact absurd hquote (hother _)

/-! ### Whole values -/

namespace Value

mutual

/-- The tree that a value is read as. -/
def tree : Value → Tree
  | null => .null
  | bool b => .bool b
  | number literal =>
    match Numeral.read? (literal.toList.map some) with
    | some (n, _) => .number n
    | none => .broken
  | text s => .text (some s)
  | array items => .array (trees items) true
  | object members => .object (memberTrees members) true

def trees : List Value → List Tree
  | [] => []
  | v :: vs => v.tree :: trees vs

def memberTrees : List (String × Value) → List (Option String × Tree)
  | [] => []
  | (k, v) :: ms => (some k, v.tree) :: memberTrees ms

end

mutual

/-- Whether no number stands in a value. -/
def isNumberless : Value → Bool
  | number _ => false
  | array items => areNumberless items
  | object members => areMembersNumberless members
  | _ => true

def areNumberless : List Value → Bool
  | [] => true
  | v :: vs => v.isNumberless && areNumberless vs

def areMembersNumberless : List (String × Value) → Bool
  | [] => true
  | (_, v) :: ms => v.isNumberless && areMembersNumberless ms

end

end Value

/-- Characters are read as a tree, whatever follows them. -/
def ReadsTo (cs : List Char) (t : Tree) : Prop :=
  ∀ rest : List Symbol, Comes (readValue (cs.map some ++ rest)) t rest

theorem skipBlanks_quoted (s : String) (rest : List Symbol) :
    skipBlanks ((quoted s).map some ++ rest) =
      some '"' :: ((s.toList.flatMap escaped).map some ++ some '"' :: rest) := by
  simp only [quoted, List.cons_append, List.map_cons, List.map_append, List.map_nil,
    List.append_assoc, List.nil_append]
  exact skipBlanks_cons rfl

theorem readsTo_quoted (s : String) : ReadsTo (quoted s) (.text (some s)) := by
  intro rest
  have h := comes_text (skipBlanks_quoted s rest) (read?_literal s.toList rest)
  rw [spell?_pieces, Option.map_some, String.ofList_toList] at h
  exact h

/-- A member that is written with its key, and is the last one. -/
theorem comes_lastMember_quoted (k : String) {value : List Symbol}
    (h : Comes (readValue value) t rest) (hclose : skipBlanks rest = some '\x7d' :: after) :
    Comes (readMembers ((quoted k).map some ++ some ':' :: value)) [(some k, t)] after := by
  have hmember := comes_lastMember (skipBlanks_quoted k _) (read?_literal k.toList _)
    (skipBlanks_cons rfl) h hclose
  rwa [spell?_pieces, Option.map_some, String.ofList_toList] at hmember

/-- A member that is written with its key, and others behind it. -/
theorem comes_members_quoted (k : String) {value next : List Symbol}
    (h : Comes (readValue value) t rest) (hcomma : skipBlanks rest = some ',' :: next)
    (hmore : Comes (readMembers next) members after) :
    Comes (readMembers ((quoted k).map some ++ some ':' :: value)) ((some k, t) :: members) after := by
  have hall := comes_members (skipBlanks_quoted k _) (read?_literal k.toList _)
    (skipBlanks_cons rfl) h hcomma hmore
  rwa [spell?_pieces, Option.map_some, String.ofList_toList] at hall

/-- A value begins with a character of its own kind, which no list of values ends with. -/
theorem exists_chars_cons {v : Value} (h : v.isNumberless = true) :
    ∃ c cs, v.chars = c :: cs ∧ opens c = true ∧ c ≠ ']' := by
  cases v with
  | null => exact ⟨'n', "ull".toList, rfl, rfl, by decide⟩
  | bool b =>
    cases b with
    | false => exact ⟨'f', "alse".toList, rfl, rfl, by decide⟩
    | true => exact ⟨'t', "rue".toList, rfl, rfl, by decide⟩
  | number literal => cases h
  | text s => exact ⟨'"', _, by rw [Value.chars, quoted, List.cons_append], rfl, by decide⟩
  | array items => exact ⟨'[', _, by rw [Value.chars, List.cons_append], rfl, by decide⟩
  | object members => exact ⟨'\x7b', _, by rw [Value.chars, List.cons_append], rfl, by decide⟩

theorem skipBlanks_chars {v : Value} (h : v.isNumberless = true) (rest : List Symbol) :
    skipBlanks (v.chars.map some ++ rest) = v.chars.map some ++ rest ∧
      ∀ after, v.chars.map some ++ rest ≠ some ']' :: after := by
  obtain ⟨c, cs, hchars, hopens, hne⟩ := exists_chars_cons h
  rw [hchars]
  refine ⟨skipBlanks_cons hopens, fun after heq => ?_⟩
  exact hne (Option.some.inj (List.cons.inj heq).1)

theorem exists_charsOfItems (v : Value) (vs : List Value) :
    ∃ more, Value.charsOfItems (v :: vs) = v.chars ++ more := by
  cases vs with
  | nil => exact ⟨[], by rw [Value.charsOfItems, List.append_nil]⟩
  | cons next vs => exact ⟨',' :: Value.charsOfItems (next :: vs), rfl⟩

/-- No array of values begins with its closing bracket. -/
theorem skipBlanks_charsOfItems {v : Value} (h : v.isNumberless = true) (vs : List Value)
    (rest after : List Symbol) :
    skipBlanks ((Value.charsOfItems (v :: vs)).map some ++ rest) ≠ some ']' :: after := by
  obtain ⟨more, hmore⟩ := exists_charsOfItems v vs
  rw [hmore, List.map_append, List.append_assoc]
  obtain ⟨hskip, hne⟩ := skipBlanks_chars h (more.map some ++ rest)
  rw [hskip]
  exact hne after

theorem skipBlanks_charsOfMembers (m : String × Value) (ms : List (String × Value))
    (rest after : List Symbol) :
    skipBlanks ((Value.charsOfMembers (m :: ms)).map some ++ rest) ≠ some '\x7d' :: after := by
  obtain ⟨k, v⟩ := m
  have hquote : ∃ more, Value.charsOfMembers ((k, v) :: ms) = quoted k ++ more := by
    cases ms with
    | nil => exact ⟨_, rfl⟩
    | cons next ms => exact ⟨_, List.append_assoc _ _ _⟩
  obtain ⟨more, hmore⟩ := hquote
  rw [hmore, List.map_append, List.append_assoc, skipBlanks_quoted]
  intro h
  cases h

mutual

/-- Every value without numbers is read as its tree. By induction on the value; behind each of its
parts stands the rest of it. -/
theorem readsTo_chars : ∀ v : Value, v.isNumberless = true → ReadsTo v.chars v.tree
  | .null, _ => by
    intro rest
    exact comes_word (show ('n', "null".toList, Tree.null) ∈ _ by simp) (skipBlanks_cons rfl)
      (skipBlanks_cons rfl)
  | .bool true, _ => by
    intro rest
    exact comes_word (show ('t', "true".toList, Tree.bool true) ∈ _ by simp) (skipBlanks_cons rfl)
      (skipBlanks_cons rfl)
  | .bool false, _ => by
    intro rest
    exact comes_word (show ('f', "false".toList, Tree.bool false) ∈ _ by simp) (skipBlanks_cons rfl)
      (skipBlanks_cons rfl)
  | .number literal, h => by cases h
  | .text s, _ => readsTo_quoted s
  | .array [], _ => by
    intro rest
    exact comes_emptyArray (skipBlanks_cons rfl) (skipBlanks_cons rfl)
  | .array (v :: vs), h => by
    intro rest
    have hitems := comes_charsOfItems (v :: vs) (List.cons_ne_nil _ _) h rest
    have htext : (Value.array (v :: vs)).chars.map some ++ rest =
        some '[' :: ((Value.charsOfItems (v :: vs)).map some ++ some ']' :: rest) := by
      simp [Value.chars]
    rw [htext]
    exact comes_array (skipBlanks_cons rfl)
      (skipBlanks_charsOfItems (Bool.and_eq_true_iff.mp h).1 vs _) hitems
  | .object [], _ => by
    intro rest
    exact comes_emptyObject (skipBlanks_cons rfl) (skipBlanks_cons rfl)
  | .object (m :: ms), h => by
    intro rest
    have hmembers := comes_charsOfMembers (m :: ms) (List.cons_ne_nil _ _) h rest
    have htext : (Value.object (m :: ms)).chars.map some ++ rest =
        some '\x7b' :: ((Value.charsOfMembers (m :: ms)).map some ++ some '\x7d' :: rest) := by
      simp [Value.chars]
    rw [htext]
    exact comes_object (skipBlanks_cons rfl) (skipBlanks_charsOfMembers m ms _) hmembers

theorem comes_charsOfItems : ∀ vs : List Value, vs ≠ [] → Value.areNumberless vs = true →
    ∀ rest : List Symbol, Comes (readItems ((Value.charsOfItems vs).map some ++ some ']' :: rest))
      (Value.trees vs) rest
  | [], hne, _ => absurd rfl hne
  | v :: [], _, h => by
    intro rest
    have hv := readsTo_chars v (Bool.and_eq_true_iff.mp h).1 (some ']' :: rest)
    rw [Value.charsOfItems]
    exact comes_lastItem hv (skipBlanks_cons rfl)
  | v :: next :: vs, _, h => by
    intro rest
    obtain ⟨hfirst, hmore⟩ := Bool.and_eq_true_iff.mp h
    have hitems := comes_charsOfItems (next :: vs) (List.cons_ne_nil _ _) hmore rest
    have hv := readsTo_chars v hfirst
      (some ',' :: ((Value.charsOfItems (next :: vs)).map some ++ some ']' :: rest))
    have htext : (Value.charsOfItems (v :: next :: vs)).map some ++ some ']' :: rest =
        v.chars.map some ++
          some ',' :: ((Value.charsOfItems (next :: vs)).map some ++ some ']' :: rest) := by
      simp [Value.charsOfItems]
    rw [htext]
    exact comes_items hv (skipBlanks_cons rfl)
      (skipBlanks_charsOfItems (Bool.and_eq_true_iff.mp hmore).1 vs _) hitems

theorem comes_charsOfMembers : ∀ ms : List (String × Value), ms ≠ [] →
    Value.areMembersNumberless ms = true → ∀ rest : List Symbol,
      Comes (readMembers ((Value.charsOfMembers ms).map some ++ some '\x7d' :: rest))
        (Value.memberTrees ms) rest
  | [], hne, _ => absurd rfl hne
  | (k, v) :: [], _, h => by
    intro rest
    have hv := readsTo_chars v (Bool.and_eq_true_iff.mp h).1 (some '\x7d' :: rest)
    have htext : (Value.charsOfMembers [(k, v)]).map some ++ some '\x7d' :: rest =
        (quoted k).map some ++ some ':' :: (v.chars.map some ++ some '\x7d' :: rest) := by
      simp [Value.charsOfMembers]
    rw [htext]
    exact comes_lastMember_quoted k hv (skipBlanks_cons rfl)
  | (k, v) :: next :: ms, _, h => by
    intro rest
    obtain ⟨hfirst, hmore⟩ := Bool.and_eq_true_iff.mp h
    have hmembers := comes_charsOfMembers (next :: ms) (List.cons_ne_nil _ _) hmore rest
    have hv := readsTo_chars v hfirst
      (some ',' :: ((Value.charsOfMembers (next :: ms)).map some ++ some '\x7d' :: rest))
    have htext : (Value.charsOfMembers ((k, v) :: next :: ms)).map some ++ some '\x7d' :: rest =
        (quoted k).map some ++ some ':' :: (v.chars.map some ++ some ',' ::
          ((Value.charsOfMembers (next :: ms)).map some ++ some '\x7d' :: rest)) := by
      simp [Value.charsOfMembers]
    rw [htext]
    exact comes_members_quoted k hv (skipBlanks_cons rfl) hmembers

end

/-- The bytes of a value are a document of its tree. -/
theorem ofBytes_render {v : Value} (h : v.isNumberless = true) :
    Document.ofBytes (bytesOf v.render) = ⟨v.tree, true⟩ := by
  have hsymbols : decode (bytesOf v.render) = v.chars.map some ++ [] := by
    rw [bytesOf, decode_utf8, Value.render, String.toList_ofList, List.append_nil]
  obtain ⟨hrest, hread⟩ := (readsTo_chars v h []).exists
  rw [Document.ofBytes, hsymbols, Document.ofSymbols, hread]
  rfl

end Tutor.Json
