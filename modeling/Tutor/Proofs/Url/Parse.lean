import Tutor.Proofs.Url.Host

/-!
# Where the parts of a URL end

In a URL that was read, neither a question mark nor a hash stands in front of the query, and no hash
stands in it. What must not stand in a part was escaped there, or the URL was refused. A URL is read
part by part, each put beside those that are there, so what was true of these stays true.

* `Tidy` – a URL whose parts end where they seem to.
* `tidy_withTail`, `plain_trailFrom`, `tidy_ofAuthority` – the parts one by one.
* `tidy_ofChars` – every URL that is read, also relative to another one.
-/

namespace Tutor.Url

open Tutor.Text

/-- A path is plain in all its segments. -/
def Path.IsPlain : Path → Prop
  | .segments names => ∀ n ∈ names, Plain n.toList
  | .opaqueText text => Plain text.toList

/-- A URL whose parts end where they seem to. -/
structure Tidy (u : Url) : Prop where
  scheme : Plain u.scheme.toList
  username : Plain u.username.toList
  password : Plain u.password.toList
  host : ∀ h, u.host = some h → Plain h.chars
  path : u.path.IsPlain
  query : ∀ q, u.query = some q → '#' ∉ q.toList

variable {c : Char} {cs : List Char} {u : Url}

/-! ### Query and fragment -/

theorem hash_not_mem_queryOf (k : SchemeKind) (cs : List Char) : '#' ∉ (queryOf k cs).toList := by
  intro h
  rw [queryOf, String.toList_ofList] at h
  rcases mem_encode h with ⟨hkept, -⟩ | h | h
  · revert hkept
    cases k.isSpecial <;> decide
  · revert h
    decide
  · revert h
    decide

theorem Tidy.withQuery (h : Tidy u) {q : String} (hq : '#' ∉ q.toList) (f : Option String) :
    Tidy { u with query := some q, fragment := f } where
  scheme := h.scheme
  username := h.username
  password := h.password
  host := h.host
  path := h.path
  query q' hq' := by
    obtain rfl := Option.some.inj hq'
    exact hq

theorem Tidy.withFragment (h : Tidy u) (f : Option String) : Tidy { u with fragment := f } :=
  ⟨h.scheme, h.username, h.password, h.host, h.path, h.query⟩

theorem Tidy.withoutQuery (h : Tidy u) : Tidy { u with query := none, fragment := none } :=
  ⟨h.scheme, h.username, h.password, h.host, h.path, fun _ hq => by cases hq⟩

theorem Tidy.withPathNames (h : Tidy u) {path : Path} (hpath : path.IsPlain) :
    Tidy { u with path } :=
  ⟨h.scheme, h.username, h.password, h.host, hpath, h.query⟩

theorem tidy_withTail (h : Tidy u) (cs : List Char) : Tidy (withTail u cs) := by
  rw [withTail.eq_def]
  split
  next rest =>
    dsimp only
    split
    · exact h.withQuery (hash_not_mem_queryOf _ _) _
    · exact h.withQuery (hash_not_mem_queryOf _ _) _
  next => exact h.withFragment _
  next => exact h

/-! ### Paths -/

/-- Segments without a mark in them. -/
def PlainNames (names : List String) : Prop := ∀ n ∈ names, Plain n.toList

namespace Trail

variable {k : SchemeKind} {t : Trail}

theorem plain_add (h : PlainNames t.names) (seg : List Char) : PlainNames (t.add seg).names := by
  intro n hn
  rcases List.mem_append.mp hn with hn | hn
  · exact h n hn
  · obtain rfl := List.mem_singleton.mp hn
    rw [String.toList_ofList]
    exact plain_encode fun c _ hkept => endsPath_of_class (by decide) (by decide) hkept

theorem plain_close (h : PlainNames t.names) (isLast : Bool) :
    PlainNames (t.close isLast).names := by
  rw [close]
  split
  · exact plain_add h []
  · exact h

theorem plain_parent {names : List String} (h : PlainNames names) : PlainNames (parent names) := by
  rw [parent]
  split
  · split
    · exact h
    · exact fun n hn => h n (List.dropLast_subset _ hn)
  · exact fun n hn => absurd hn List.not_mem_nil

theorem plain_follow (h : PlainNames t.names) (seg : List Char) (isLast : Bool) :
    PlainNames (t.follow k seg isLast).names := by
  simp only [follow]
  split
  · exact plain_add (plain_add h _) _
  · split
    · exact plain_close (plain_parent h) isLast
    · split
      · exact plain_close h isLast
      · split
        · exact plain_add h _
        · exact plain_add h _

theorem plain_followAll (segs : List (List Char)) (h : PlainNames t.names) :
    PlainNames (followAll k t segs).names := by
  induction segs generalizing t with
  | nil => exact h
  | cons seg segs ih => exact ih (plain_follow h seg _)

end Trail

theorem plain_trailFrom {k : SchemeKind} {names : List String} (h : PlainNames names)
    (cs : List Char) : PlainNames (trailFrom k names cs).names := by
  have hall : PlainNames (Trail.followAll k { names } (splitWhere (isSlash k) cs)).names :=
    Trail.plain_followAll _ h
  cases k with
  | file =>
    show PlainNames (withoutEmptyFront _)
    rw [withoutEmptyFront]
    split
    · intro n hn
      obtain rfl := List.mem_singleton.mp hn
      exact plain_nil
    · exact fun n hn => hall n ((List.dropWhile_sublist _).subset hn)
  | web port => exact hall
  | other => exact hall

theorem plainNames_nil : PlainNames [] := fun _ hn => absurd hn List.not_mem_nil

theorem isPlain_pathFrom {k : SchemeKind} {names : List String} (h : PlainNames names)
    (cs : List Char) : (pathFrom k names cs).IsPlain :=
  plain_trailFrom h cs

theorem tidy_withPath (h : Tidy u) (cs : List Char) : Tidy (withPath u cs) := by
  rw [withPath]
  apply tidy_withTail
  apply h.withPathNames
  split
  · exact plainNames_nil
  · exact plain_trailFrom plainNames_nil _

theorem tidy_withCredentials (h : Tidy u) (cs : List Char) : Tidy (withCredentials u cs) := by
  have hkept : ∀ cs, Plain (String.ofList (encode inCredentials cs)).toList := by
    intro cs
    rw [String.toList_ofList]
    exact plain_encode fun c _ hkept => endsPath_of_class (by decide) (by decide) hkept
  rw [withCredentials]
  split
  · exact ⟨h.scheme, hkept _, hkept _, h.host, h.path, h.query⟩
  · exact ⟨h.scheme, hkept _, h.password, h.host, h.path, h.query⟩

/-- A URL with a scheme and a host, and nothing else yet. -/
theorem tidy_onHost {scheme : String} (hscheme : Plain scheme.toList) {h : Host}
    (hhost : Plain h.chars) (port : Option Nat) : Tidy { scheme, host := some h, port } where
  scheme := hscheme
  username := plain_nil
  password := plain_nil
  host h' hh' := by
    obtain rfl := Option.some.inj hh'
    exact hhost
  path := plainNames_nil
  query q hq := by cases hq

/-- The steps of a reader that can fail. -/
theorem exists_of_bind {ε α β : Type} {x : Except ε α} {f : α → Except ε β} {b : β}
    (h : x >>= f = .ok b) : ∃ a, x = .ok a ∧ f a = .ok b := by
  cases x with
  | error e => cases h
  | ok a => exact ⟨a, rfl, h⟩

theorem tidy_ofAuthority {scheme : String} (hscheme : Plain scheme.toList)
    (h : ofAuthority scheme cs = .ok u) : Tidy u := by
  rw [ofAuthority] at h
  dsimp only at h
  split at h
  · cases h
  obtain ⟨host, hhost, h⟩ := exists_of_bind h
  split at h
  · cases h
  obtain ⟨port, -, h⟩ := exists_of_bind h
  obtain rfl := Except.ok.inj h
  -- All but the scheme and the host is escaped on the way in.
  apply tidy_withPath
  apply tidy_withCredentials
  exact tidy_onHost hscheme (plain_chars_of_hostOf hhost) _

/-! ### Files -/

theorem plain_file : Plain "file".toList := by
  intro c hc
  have hall : "file".toList.all (!endsPath ·) = true := by decide
  simpa using List.all_eq_true.mp hall c hc

theorem tidy_file {h : Host} (hhost : Plain h.chars) {path : Path} (hpath : path.IsPlain)
    (cs : List Char) : Tidy (withTail { scheme := "file", host := some h, path } cs) :=
  tidy_withTail ((tidy_onHost plain_file hhost none).withPathNames hpath) cs

theorem plain_empty : Plain Host.empty.chars := plain_nil

theorem tidy_fileOnHost {h : Host} (hhost : Plain h.chars) (cs : List Char) :
    Tidy (onHost h cs) := by
  rw [onHost]
  generalize (if h == .empty then beforeTail cs else belowHost .file (beforeTail cs)) = path
  refine tidy_file ?_ (isPlain_pathFrom (k := .file) plainNames_nil path) _
  split
  · exact plain_empty
  · exact hhost

theorem plain_chars_of_fileHostOf {h : Host} (hread : fileHostOf cs = .ok h) : Plain h.chars := by
  rw [fileHostOf] at hread
  split at hread
  · obtain rfl := Except.ok.inj hread
    exact plain_nil
  · obtain ⟨host, hhost, hread⟩ := exists_of_bind hread
    obtain rfl := Except.ok.inj hread
    split
    · exact plain_nil
    · exact plain_chars_of_ofChars hhost

theorem plainNames_singleton {n : String} (h : Plain n.toList) : PlainNames [n] := by
  intro n' hn
  obtain rfl := List.mem_singleton.mp hn
  exact h

variable {base : Option Url}

theorem plain_chars_of_base (hbase : ∀ b ∈ base, Tidy b) :
    Plain ((base.bind (·.host)).getD .empty).chars := by
  cases hhost : base.bind (·.host) with
  | none => exact plain_empty
  | some h =>
    obtain ⟨b, hb, hh⟩ := Option.bind_eq_some_iff.mp hhost
    exact (hbase b hb).host h hh

/-- The drive of a base. -/
theorem plainNames_drive (hbase : ∀ b ∈ base, Tidy b) :
    PlainNames (match (base.map (·.path) : Option Path) with
      | some (.segments (n :: _)) => if isDrive n.toList then [n] else []
      | _ => []) := by
  split
  next n names hpath =>
    obtain ⟨b, hb, hnames⟩ := Option.map_eq_some_iff.mp hpath
    have hplain := (hbase b hb).path
    rw [hnames] at hplain
    split
    · exact plainNames_singleton (hplain n List.mem_cons_self)
    · exact plainNames_nil
  next => exact plainNames_nil

theorem tidy_ofRoot (hbase : ∀ b ∈ base, Tidy b) (cs : List Char) : Tidy (ofRoot base cs) := by
  rw [ofRoot]
  apply tidy_file
  · exact iteInduction (motive := fun h => Plain (Host.chars h)) (fun _ => plain_empty)
      fun _ => plain_chars_of_base hbase
  · apply isPlain_pathFrom
    exact iteInduction (motive := PlainNames) (fun _ => plainNames_nil)
      fun _ => plainNames_drive hbase

theorem plainNames_segments {b : Url} (hb : Tidy b) :
    PlainNames (match b.path with | .segments ns => ns | .opaqueText _ => []) := by
  have hpath := hb.path
  split
  next names hnames =>
    rw [hnames] at hpath
    exact hpath
  next => exact plainNames_nil

theorem tidy_beside {b : Url} (hb : Tidy b) (cs : List Char) : Tidy (beside b cs) := by
  rw [beside]
  split
  next => exact hb.withFragment none
  next => exact tidy_withTail (hb.withFragment none) _
  next => exact tidy_withTail hb.withoutQuery _
  next text _ _ _ =>
    split
    next => exact tidy_fileOnHost plain_empty _
    next =>
      apply tidy_withTail
      apply hb.withoutQuery.withPathNames
      apply plain_trailFrom
      have hpath := hb.path
      split
      next names hnames =>
        rw [hnames] at hpath
        exact Trail.plain_parent hpath
      next => exact plainNames_nil

theorem tidy_ofFile (hbase : ∀ b ∈ base, Tidy b) (h : ofFile base cs = .ok u) : Tidy u := by
  rw [ofFile.eq_def] at h
  split at h
  next =>
    split at h
    next b =>
      obtain rfl := Except.ok.inj h
      exact tidy_beside (hbase b rfl) cs
    next =>
      obtain rfl := Except.ok.inj h
      exact tidy_fileOnHost plain_empty cs
  next =>
    split at h
    next =>
      obtain rfl := Except.ok.inj h
      exact tidy_ofRoot hbase _
    next =>
      dsimp only at h
      split at h
      next =>
        obtain rfl := Except.ok.inj h
        exact tidy_fileOnHost plain_empty _
      next =>
        obtain ⟨host, hhost, h⟩ := exists_of_bind h
        obtain rfl := Except.ok.inj h
        exact tidy_fileOnHost (plain_chars_of_fileHostOf hhost) _

/-! ### Whole texts -/

theorem tidy_ofRelative {b : Url} (hb : Tidy b) (h : ofRelative b cs = .ok u) : Tidy u := by
  rw [ofRelative.eq_def] at h
  dsimp only at h
  split at h
  next =>
    obtain rfl := Except.ok.inj h
    exact hb.withFragment none
  next =>
    obtain rfl := Except.ok.inj h
    exact tidy_withTail hb.withoutQuery _
  next =>
    obtain rfl := Except.ok.inj h
    exact tidy_withTail (hb.withFragment none) _
  next =>
    split at h
    next =>
      split at h
      next =>
        split at h
        next => exact tidy_ofAuthority hb.scheme h
        next =>
          obtain rfl := Except.ok.inj h
          exact tidy_withTail (hb.withoutQuery.withPathNames (isPlain_pathFrom plainNames_nil _)) _
      next =>
        obtain rfl := Except.ok.inj h
        exact tidy_withTail (hb.withoutQuery.withPathNames (isPlain_pathFrom plainNames_nil _)) _
    next =>
      obtain rfl := Except.ok.inj h
      apply tidy_withTail
      apply hb.withoutQuery.withPathNames
      apply plain_trailFrom
      have hnames := plainNames_segments hb
      exact fun n hn => hnames n (List.dropLast_subset _ hn)

theorem not_endsPath_of_mem_beforeTail (h : c ∈ beforeTail cs) : endsPath c = false := by
  have hall := List.all_eq_true.mp (List.all_takeWhile (p := fun c => !endsPath c) (l := cs)) c h
  simpa using hall

theorem tidy_ofOther {scheme : String} (hscheme : Plain scheme.toList)
    (h : ofOther scheme cs = .ok u) : Tidy u := by
  have hbare : Tidy { scheme } :=
    { scheme := hscheme
      username := plain_nil
      password := plain_nil
      host := fun h hh => by cases hh
      path := plainNames_nil
      query := fun q hq => by cases hq }
  rw [ofOther.eq_def] at h
  split at h
  next => exact tidy_ofAuthority hscheme h
  next =>
    obtain rfl := Except.ok.inj h
    exact tidy_withPath hbare _
  next =>
    obtain rfl := Except.ok.inj h
    apply tidy_withTail
    apply hbare.withPathNames
    show Plain (String.ofList _).toList
    rw [String.toList_ofList]
    exact plain_encode fun c hc _ => not_endsPath_of_mem_beforeTail hc

theorem tidy_ofScheme {scheme : String} (hscheme : Plain scheme.toList)
    (hbase : ∀ b ∈ base, Tidy b) (h : ofScheme base scheme cs = .ok u) : Tidy u := by
  rw [ofScheme] at h
  split at h
  next =>
    apply tidy_ofFile _ h
    intro b hb
    exact hbase b (Option.mem_filter_iff.mp hb).1
  next => exact tidy_ofOther hscheme h
  next =>
    dsimp only at h
    split at h
    next b =>
      split at h
      next => exact tidy_ofRelative (hbase b rfl) h
      next => exact tidy_ofAuthority hscheme h
    next => exact tidy_ofAuthority hscheme h

theorem endsPath_toLower (h : inScheme c = true) : endsPath c.toLower = false := by
  have hascii : ∀ n < 128, inScheme (Char.ofNat n) = true →
      endsPath (Char.ofNat n).toLower = false := by decide
  have hc : c.toNat < 128 := by
    simp only [inScheme, Bool.or_eq_true, beq_iff_eq] at h
    rcases h with ((h | rfl) | rfl) | rfl
    · exact toNat_lt_of_isAlphanum h
    all_goals decide
  rw [← Char.ofNat_toNat c] at h ⊢
  exact hascii _ hc h

/-- A scheme is written in letters, figures and a few marks. -/
theorem plain_scheme {scheme : String} {rest : List Char} (h : scheme? cs = some (scheme, rest)) :
    Plain scheme.toList := by
  simp only [scheme?, Option.bind_eq_bind, Option.bind_eq_some_iff] at h
  obtain ⟨⟨before, after⟩, -, h⟩ := h
  split at h
  next c more =>
    split at h
    next hscheme =>
      obtain ⟨rfl, -⟩ := Prod.mk.inj (Option.some.inj h)
      rw [Bool.and_eq_true, List.all_eq_true] at hscheme
      rw [String.toList_ofList]
      intro d hd
      obtain ⟨d', hd', rfl⟩ := List.mem_map.mp hd
      apply endsPath_toLower
      rcases List.mem_cons.mp hd' with rfl | hd'
      · simp [inScheme, Char.isAlphanum, hscheme.1]
      · exact hscheme.2 d' hd'
    next => cases h
  next => cases h

/-- The parts of a URL that was read end where they seem to. -/
theorem tidy_ofChars (hbase : ∀ b ∈ base, Tidy b) (h : ofChars base cs = .ok u) : Tidy u := by
  rw [ofChars.eq_def] at h
  dsimp only at h
  split at h
  next scheme rest hscheme => exact tidy_ofScheme (plain_scheme hscheme) hbase h
  next =>
    split at h
    next => cases h
    next b =>
      have hb := hbase b rfl
      split at h
      next =>
        obtain rfl := Except.ok.inj h
        exact tidy_withTail (hb.withFragment none) _
      next => cases h
      next =>
        split at h
        next => exact tidy_ofFile hbase h
        next => exact tidy_ofRelative hb h

end Tutor.Url
