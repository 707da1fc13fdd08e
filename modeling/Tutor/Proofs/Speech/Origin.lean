import Tutor.Proofs.Text.Cut
import Tutor.Proofs.Text.Trim
import Tutor.Speech.Origin

/-!
# Where a caller reached the server

A header may have any number of fields of a name, with any bytes in them. The first one of a name
counts, and only if it can be read and is not blank; otherwise the default holds. So there is always
a host. The scheme is the first element of a list, and a list that is not blank may have a blank
first element all the same: then there is no scheme, and addresses begin with a colon.

* `Says`, `headerText?_eq_some_iff` – what a header says under a name.
* `IsFirstElement`, `isFirstElement_iff` – the first element of a list.
* `named_ofHeader` – the origin, and the addresses that begin with it, for every header.
* `no_scheme_of_leading_comma` – a header that leaves an origin without a scheme.
-/

namespace Tutor.Speech.Origin

open Tutor.Text Tutor.Http

variable {h : Header} {name said list first : String} {value : List UInt8}

/-! ### What a header says -/

/-- A value that can be read: visible characters of ASCII, spaces and tabs. -/
def IsReadable (value : List UInt8) : Prop := ∀ b ∈ value, b = 9 ∨ 32 ≤ b ∧ b < 127

/-- A header says something under a name: the first field of that name can be read and is not blank.
-/
structure Says (h : Header) (name said : String) : Prop where
  field : ∃ before value after, h = before ++ ⟨name, value⟩ :: after ∧
    (∀ f ∈ before, f.name ≠ name) ∧ IsReadable value ∧
    said = trimmed (String.ofList (value.map fun b => Char.ofNat b.toNat))
  ne_empty : said ≠ ""

theorem valueText?_eq_some_iff {text : String} :
    valueText? value = some text ↔
      IsReadable value ∧ text = String.ofList (value.map fun b => Char.ofNat b.toNat) := by
  unfold valueText? IsReadable
  simp only [List.all_eq_true, Bool.or_eq_true, beq_iff_eq, Bool.and_eq_true, decide_eq_true_eq]
  split
  next hread => rw [Option.some.injEq, and_iff_right hread, eq_comm]
  next hread => simp [hread]

theorem first?_eq_some_iff :
    h.first? name = some value ↔ ∃ before after, h = before ++ ⟨name, value⟩ :: after ∧
      ∀ f ∈ before, f.name ≠ name := by
  unfold Header.first?
  rw [Option.map_eq_some_iff]
  constructor
  · rintro ⟨f, hfind, rfl⟩
    obtain ⟨hname, before, after, rfl, hbefore⟩ := List.find?_eq_some_iff_append.mp hfind
    obtain rfl : f.name = name := by simpa using hname
    exact ⟨before, after, rfl, fun g hg => by simpa using hbefore g hg⟩
  · rintro ⟨before, after, rfl, hbefore⟩
    refine ⟨⟨name, value⟩, List.find?_eq_some_iff_append.mpr ⟨by simp, before, after, rfl, ?_⟩, rfl⟩
    intro f hf
    simpa using hbefore f hf

theorem nonEmpty?_trim_eq_some_iff {text : String} :
    nonEmpty? (trim text.toList) = some said ↔ said = trimmed text ∧ said ≠ "" := by
  unfold nonEmpty? trimmed
  split
  next hempty =>
    rw [List.isEmpty_iff.mp hempty]
    simp
  next hne =>
    rw [Option.some.injEq, eq_comm]
    refine ⟨?_, And.left⟩
    rintro rfl
    refine ⟨rfl, fun hnil => hne ?_⟩
    rw [List.isEmpty_iff, ← String.toList_ofList (l := trim text.toList), hnil]
    rfl

theorem headerText?_eq_some_iff : headerText? h name = some said ↔ Says h name said := by
  simp only [headerText?, Option.bind_eq_bind, Option.bind_eq_some_iff, first?_eq_some_iff,
    valueText?_eq_some_iff, nonEmpty?_trim_eq_some_iff]
  constructor
  · rintro ⟨value, ⟨before, after, hsplit, hbefore⟩, text, ⟨hread, rfl⟩, hsaid, hne⟩
    exact ⟨⟨before, value, after, hsplit, hbefore, hread, hsaid⟩, hne⟩
  · rintro ⟨⟨before, value, after, hsplit, hbefore, hread, hsaid⟩, hne⟩
    exact ⟨value, ⟨before, after, hsplit, hbefore⟩, _, ⟨hread, rfl⟩, hsaid, hne⟩

theorem Says.filled (hsaid : Says h name said) : Filled said := by
  obtain ⟨⟨before, value, after, -, -, -, rfl⟩, hne⟩ := hsaid
  refine ⟨fun hnil => hne (String.toList_eq_nil_iff.mp hnil), ?_⟩
  rw [trimmed, String.toList_ofList]
  exact isTrimmed_trim _

/-- What a header says, or the default if it says nothing. -/
theorem says_or_default (h : Header) (name : String) :
    (∃ said, Says h name said ∧ headerText? h name = some said) ∨
      (∀ said, ¬ Says h name said) ∧ headerText? h name = none := by
  cases hsaid : headerText? h name with
  | some said => exact .inl ⟨said, headerText?_eq_some_iff.mp hsaid, rfl⟩
  | none =>
    refine .inr ⟨fun said hsays => ?_, rfl⟩
    rw [headerText?_eq_some_iff.mpr hsays] at hsaid
    cases hsaid

/-! ### The first element of a list -/

/-- The first element of a list that commas separate, without the blanks around it. -/
def IsFirstElement (list first : String) : Prop :=
  ∃ raw rest, list.toList = raw ++ rest ∧ ',' ∉ raw ∧ (∀ c ∈ rest.head?, c = ',') ∧
    first = String.ofList (trim raw)

theorem isFirstElement_iff : IsFirstElement list first ↔ first = firstOfList list := by
  unfold firstOfList trimmed
  rw [String.toList_ofList]
  constructor
  · rintro ⟨raw, rest, hsplit, hraw, hrest, rfl⟩
    rw [hsplit, takeWhile_append_of_head?]
    · intro c hc
      rw [bne_iff_ne]
      rintro rfl
      exact hraw hc
    · intro c hc
      rw [hrest c hc]
      rfl
  · rintro rfl
    refine ⟨_, list.toList.dropWhile (· != ','), List.takeWhile_append_dropWhile.symm, ?_, ?_, rfl⟩
    · intro hcomma
      simpa using List.all_eq_true.mp List.all_takeWhile _ hcomma
    · intro c hc
      simpa using not_of_mem_head?_dropWhile hc

/-! ### The origin -/

/-- An address that begins with a scheme and a host. -/
def Addressed (url : String) : Prop :=
  ∃ scheme host rest, Filled scheme ∧ Filled host ∧ url = scheme ++ "://" ++ host ++ "/" ++ rest

/-- The origin that a header names. -/
structure Named (h : Header) (o : Origin) : Prop where
  /-- The host is what the header says, or the default if it says nothing. -/
  host : (∃ said, Says h "host" said ∧ o.host = said) ∨
    (∀ said, ¬ Says h "host" said) ∧ o.host = "localhost:5000"
  /-- The scheme is the first element of what it says, or the default. -/
  scheme : (∃ list, Says h "x-forwarded-proto" list ∧ IsFirstElement list o.scheme) ∨
    (∀ list, ¬ Says h "x-forwarded-proto" list) ∧ o.scheme = "http"
  filled : Filled o.host
  trimmed : IsTrimmed o.scheme.toList
  /-- There is no scheme exactly if the first element is blank. -/
  schemeless : o.scheme = "" ↔ ∃ list, Says h "x-forwarded-proto" list ∧ IsFirstElement list ""
  /-- Otherwise all addresses begin with a scheme and a host. -/
  addressed : (∀ list, Says h "x-forwarded-proto" list → ¬ IsFirstElement list "") →
    ∀ folder name, Addressed (o.urlOf folder name)

theorem host_ofHeader (h : Header) :
    (∃ said, Says h "host" said ∧ (ofHeader h).host = said) ∨
      (∀ said, ¬ Says h "host" said) ∧ (ofHeader h).host = "localhost:5000" := by
  rcases says_or_default h "host" with ⟨said, hsays, htext⟩ | ⟨hnone, htext⟩
  · exact .inl ⟨said, hsays, by simp [ofHeader, htext]⟩
  · exact .inr ⟨hnone, by simp [ofHeader, htext]⟩

theorem scheme_ofHeader (h : Header) :
    (∃ list, Says h "x-forwarded-proto" list ∧ IsFirstElement list (ofHeader h).scheme) ∨
      (∀ list, ¬ Says h "x-forwarded-proto" list) ∧ (ofHeader h).scheme = "http" := by
  rcases says_or_default h "x-forwarded-proto" with ⟨list, hsays, htext⟩ | ⟨hnone, htext⟩
  · exact .inl ⟨list, hsays, isFirstElement_iff.mpr (by simp [ofHeader, htext])⟩
  · exact .inr ⟨hnone, by simp [ofHeader, htext]⟩

theorem filled_host (h : Header) : Filled (ofHeader h).host := by
  rcases host_ofHeader h with ⟨said, hsays, hhost⟩ | ⟨-, hhost⟩
  · rw [hhost]
    exact hsays.filled
  · rw [hhost]
    exact ⟨by decide, isTrimmed_iff.mpr (by decide +kernel)⟩

theorem isTrimmed_scheme (h : Header) : IsTrimmed (ofHeader h).scheme.toList := by
  rcases scheme_ofHeader h with ⟨list, -, raw, rest, -, -, -, hscheme⟩ | ⟨-, hscheme⟩
  · rw [hscheme, String.toList_ofList]
    exact isTrimmed_trim raw
  · rw [hscheme]
    exact isTrimmed_iff.mpr (by decide +kernel)

theorem scheme_eq_empty_iff (h : Header) :
    (ofHeader h).scheme = "" ↔
      ∃ list, Says h "x-forwarded-proto" list ∧ IsFirstElement list "" := by
  constructor
  · intro hempty
    rcases scheme_ofHeader h with ⟨list, hsays, hfirst⟩ | ⟨-, hscheme⟩
    · rw [hempty] at hfirst
      exact ⟨list, hsays, hfirst⟩
    · rw [hscheme] at hempty
      exact absurd hempty (by decide)
  · rintro ⟨list, hsays, hfirst⟩
    rw [isFirstElement_iff] at hfirst
    simp [ofHeader, headerText?_eq_some_iff.mpr hsays, ← hfirst]

/-- The origin of every header, and when it is one that addresses can begin with. -/
theorem named_ofHeader (h : Header) : Named h (ofHeader h) where
  host := host_ofHeader h
  scheme := scheme_ofHeader h
  filled := filled_host h
  trimmed := isTrimmed_scheme h
  schemeless := scheme_eq_empty_iff h
  addressed hfirst folder name := by
    have hscheme : Filled (ofHeader h).scheme := by
      refine ⟨fun hnil => ?_, isTrimmed_scheme h⟩
      obtain ⟨list, hsays, hblank⟩ := (scheme_eq_empty_iff h).mp (String.toList_eq_nil_iff.mp hnil)
      exact hfirst list hsays hblank
    refine ⟨_, _, String.ofList (strip (· == '/') folder.toList) ++ "/" ++ name, hscheme,
      filled_host h, ?_⟩
    simp only [urlOf, base, String.append_assoc]

/-- A list of schemes that begins with a comma leaves no scheme, and the address begins with a colon.
-/
theorem no_scheme_of_leading_comma :
    ¬ Filled (ofHeader [field "host" "learn.example", field "x-forwarded-proto" ",https"]).scheme ∧
      (ofHeader [field "host" "learn.example", field "x-forwarded-proto" ",https"]).urlOf
        "/audio" "a.mp3" = "://learn.example/audio/a.mp3" := by
  refine ⟨fun hfilled => hfilled.ne_nil ?_, ?_⟩
  · decide +kernel
  · decide +kernel

end Tutor.Speech.Origin
