import Tutor.Http.Client
import Tutor.Proofs.Text.Cut

/-!
# Where answers redirect

An answer redirects if its status says so and the place that it names is an address. For the URLs of
the web, that an address is read by other rules than a URL hardly matters: with a plain host and
nobody's name in front of it, they are addresses up to the longest one.

* `Redirects`, `target?_eq_some_iff` – which answers redirect, and where to.
* `Seen.after?_plain`, `isPathAndQuery_append` – how an address is read, part by part.
* `Plain`, `isAddress_of_plain` – URLs that are addresses.
-/

namespace Tutor.Http

/-! ### Which answers redirect -/

/-- An answer redirects to a URL: it has one of five statuses, and the first place in its header,
read relative to where the request went, is the URL and an address. -/
structure Redirects (start : Url) (r : Response) (next : Url) : Prop where
  status : r.status ∈ [301, 302, 303, 307, 308]
  place : ∃ before value after place,
    r.header = before ++ ⟨"location", value⟩ :: after ∧ (∀ x ∈ before, x.name ≠ "location") ∧
      Text.text? value = some place ∧ start.resolve place = .ok next
  address : isAddress next = true

variable {start next : Url} {r : Response}

theorem isRedirect_iff {status : Nat} :
    isRedirect status = true ↔ status ∈ [301, 302, 303, 307, 308] := by
  simp [isRedirect, or_assoc]

/-- The first value under a name stands behind fields of other names. -/
theorem Header.first?_eq_some_iff {h : Header} {name : String} {value : List UInt8} :
    h.first? name = some value ↔ ∃ before after, h = before ++ ⟨name, value⟩ :: after ∧
      ∀ x ∈ before, x.name ≠ name := by
  rw [Header.first?, Option.map_eq_some_iff]
  constructor
  · rintro ⟨⟨name', value'⟩, hfind, rfl⟩
    obtain ⟨hname, before, after, rfl, hbefore⟩ := List.find?_eq_some_iff_append.mp hfind
    obtain rfl : name' = name := by simpa using hname
    exact ⟨before, after, rfl, fun x hx => by simpa using hbefore x hx⟩
  · rintro ⟨before, after, rfl, hbefore⟩
    refine ⟨⟨name, value⟩, List.find?_eq_some_iff_append.mpr ⟨by simp, before, after, rfl, ?_⟩, rfl⟩
    exact fun x hx => by simpa using hbefore x hx

/-- Where an answer redirects to. -/
theorem target?_eq_some_iff : target? start r = some next ↔ Redirects start r next := by
  have hread : ∀ value, Url.ofChars (some start) value = start.resolve (String.ofList value) := by
    intro value
    rw [Url.resolve, String.toList_ofList]
  constructor
  · intro h
    rw [target?] at h
    split at h
    next hstatus =>
      split at h
      next place hplace =>
        obtain ⟨value, hvalue, hdecode⟩ := Option.bind_eq_some_iff.mp hplace
        obtain ⟨before, after, hheader, hbefore⟩ := Header.first?_eq_some_iff.mp hvalue
        split at h
        next u hu =>
          split at h
          next haddress =>
            obtain rfl := Option.some.inj h
            refine ⟨isRedirect_iff.mp hstatus, ⟨before, value, after, _, hheader, hbefore, ?_,
              (hread place).symm.trans hu⟩, haddress⟩
            rw [Text.text?, hdecode, Option.map_some]
          · cases h
        · cases h
      · cases h
    · cases h
  · rintro ⟨hstatus, ⟨before, value, after, place, hheader, hbefore, htext, hresolve⟩, haddress⟩
    obtain ⟨cs, hdecode, rfl⟩ := Option.map_eq_some_iff.mp htext
    have hvalue : r.header.first? "location" = some value :=
      Header.first?_eq_some_iff.mpr ⟨before, after, hheader, hbefore⟩
    rw [target?, if_pos (isRedirect_iff.mpr hstatus), hvalue, Option.bind_some, hdecode]
    simp only [hread, hresolve]
    rw [if_pos haddress]

/-! ### Reading an address -/

namespace Seen

variable {s : Seen} {c : Char} {cs rest : List Char}

theorem see?_plain (hc : isAuthorityChar c = true) :
    endsAuthority c = false ∧ s.see? c = some { s with user := false } := by
  have hne : ∀ d, isAuthorityChar d = false → c ≠ d := by
    rintro d hd rfl
    rw [hc] at hd
    cases hd
  constructor
  · simp [endsAuthority, hne '/' (by decide), hne '?' (by decide), hne '#' (by decide)]
  · -- The equation of all other characters asks that this is none of the five that count.
    rw [see?, if_pos hc]
    all_goals exact hne _ (by decide)

/-- Plain characters leave no trace. -/
theorem after?_plain (h : ∀ c ∈ cs, isAuthorityChar c = true) (huser : s.user = false) :
    s.after? (cs ++ rest) = s.after? rest := by
  have hsame : { s with user := false } = s := by rw [← huser]
  induction cs with
  | nil => rfl
  | cons c cs ih =>
    obtain ⟨hends, hsee⟩ := see?_plain (s := s) (h c List.mem_cons_self)
    rw [List.cons_append, after?, if_neg (by simp [hends]), hsee, Option.bind_some, hsame]
    exact ih fun c hc => h c (List.mem_cons_of_mem _ hc)

/-- A server goes up to the character that ends it. -/
theorem after?_end (hwhole : s.isWhole = true)
    (h : ∀ c, rest.head? = some c → endsAuthority c = true) : s.after? rest = some rest := by
  cases rest with
  | nil => rw [after?, if_pos hwhole]
  | cons c cs => rw [after?, if_pos (h c rfl), if_pos hwhole]

end Seen

/-- A path and a query in their own characters are read as such, with any fragment. -/
theorem isPathAndQuery_append {path : List Char} {query : Option String}
    (hpath : ∀ c ∈ path, isPathChar c = true)
    (hquery : ∀ q, query = some q → ∀ c ∈ q.toList, isQueryChar c = true)
    (fragment : Option String) :
    isPathAndQuery (path ++ Url.marked '?' query ++ Url.marked '#' fragment) = true := by
  have hmarked : ∀ c ∈ Url.marked '?' query, isQueryChar c = true := by
    intro c hc
    cases query with
    | none => cases hc
    | some q =>
      rcases List.mem_cons.mp hc with rfl | hc
      · decide
      · exact hquery q rfl c hc
  have hbefore : ∀ c ∈ path ++ Url.marked '?' query, (c != '#') = true := by
    intro c hc
    rw [bne_iff_ne]
    rintro rfl
    rcases List.mem_append.mp hc with hc | hc
    · cases hpath _ hc
    · cases hmarked _ hc
  have hfragment : (Url.marked '#' fragment).takeWhile (· != '#') = [] := by
    cases fragment <;> rfl
  have hpathOnly : ∀ c ∈ path, (c != '?') = true := by
    intro c hc
    rw [bne_iff_ne]
    rintro rfl
    cases hpath _ hc
  have hstart : (Url.marked '?' query).takeWhile (· != '?') = [] := by
    cases query <;> rfl
  have hrest : (Url.marked '?' query).dropWhile (· != '?') = Url.marked '?' query := by
    cases query <;> rfl
  rw [isPathAndQuery, List.takeWhile_append_of_pos hbefore, hfragment, List.append_nil,
    List.takeWhile_append_of_pos hpathOnly, hstart, List.append_nil,
    List.dropWhile_append_of_pos hpathOnly, hrest, Bool.and_eq_true, List.all_eq_true,
    List.all_eq_true]
  exact ⟨hpath, hmarked⟩

/-! ### URLs that are addresses -/

/-- A URL of the web in plain characters: its host, path and query have no others, there is no user
name, and it is not too long. -/
structure Plain (u : Url) : Prop where
  web : isWeb u = true
  host : ∃ h, u.host = some h ∧ h.chars ≠ [] ∧ ∀ c ∈ h.chars, isAuthorityChar c = true
  anonymous : u.username = "" ∧ u.password = ""
  path : ∃ names, u.path = .segments names ∧ ∀ n ∈ names, ∀ c ∈ n.toList, isPathChar c = true
  query : ∀ q, u.query = some q → ∀ c ∈ q.toList, isQueryChar c = true
  short : u.render.toList.length ≤ mostAddressChars

/-- The characters that a port is written in, behind its colon. -/
def portChars (port : Option Nat) : List Char :=
  match port with
  | some p => ':' :: Text.digitsIn 10 p
  | none => []

/-- Behind a host there may be a port. -/
theorem after?_port (port : Option Nat) {rest : List Char}
    (h : ∀ c, rest.head? = some c → endsAuthority c = true) :
    Seen.after? {} (portChars port ++ rest) = some rest := by
  cases port with
  | none => exact Seen.after?_end rfl h
  | some p =>
    have hdigits : ∀ c ∈ Text.digitsIn 10 p, isAuthorityChar c = true := fun c hc =>
      Text.of_mem_digitsIn (P := fun c => isAuthorityChar c = true) (by decide) (by decide)
        (by decide) hc
    have hcolon : Seen.after? {} (portChars (some p) ++ rest) =
        Seen.after? { colons := 1 } (Text.digitsIn 10 p ++ rest) := rfl
    rw [hcolon, Seen.after?_plain hdigits rfl]
    exact Seen.after?_end rfl h

/-- Plain URLs of the web are addresses. -/
theorem isAddress_of_plain {u : Url} (h : Plain u) : isAddress u = true := by
  obtain ⟨host, hhost, hne, hplain⟩ := h.host
  obtain ⟨names, hnames, hsegments⟩ := h.path
  have hpath : u.pathChars = names.flatMap fun n => '/' :: n.toList := by
    rw [Url.pathChars, hnames, hhost]
  -- What stands behind the server, and behind the two slashes.
  obtain ⟨tail, htail⟩ : ∃ tail, tail = u.pathChars ++ Url.marked '?' u.query ++
    Url.marked '#' u.fragment := ⟨_, rfl⟩
  have hrender : u.render.toList =
      u.scheme.toList ++ ':' :: '/' :: '/' :: (host.chars ++ (portChars u.port ++ tail)) := by
    rw [Url.render, String.toList_ofList, Url.charsBeforeFragment, Url.authorityChars, hhost,
      Url.credentialChars, h.anonymous.1, h.anonymous.2, htail]
    cases u.port <;> simp [portChars]
  have hends : ∀ c, tail.head? = some c → endsAuthority c = true := by
    rw [htail, hpath]
    cases names with
    | cons n names => simp [endsAuthority]
    | nil => cases u.query <;> cases u.fragment <;> simp [Url.marked, endsAuthority]
  have hafter : Seen.after? {} (host.chars ++ (portChars u.port ++ tail)) = some tail := by
    rw [Seen.after?_plain hplain rfl, after?_port _ hends]
  have hpathAndQuery : isPathAndQuery tail = true := by
    rw [htail, hpath]
    refine isPathAndQuery_append ?_ h.query _
    intro c hc
    obtain ⟨n, hn, hc⟩ := List.mem_flatMap.mp hc
    rcases List.mem_cons.mp hc with rfl | hc
    · decide
    · exact hsegments n hn c hc
  have hscheme : u.scheme.toList.length ≤ mostSchemeChars := by
    have hweb := h.web
    rw [isWeb, Bool.or_eq_true, beq_iff_eq, beq_iff_eq] at hweb
    rcases hweb with hweb | hweb
    · rw [hweb]
      decide
    · rw [hweb]
      decide
  have hlength : tail.length < (host.chars ++ (portChars u.port ++ tail)).length := by
    have hpos := List.length_pos_iff.mpr hne
    rw [List.length_append, List.length_append]
    omega
  have hdrop : u.render.toList.drop u.scheme.length =
      ':' :: '/' :: '/' :: (host.chars ++ (portChars u.port ++ tail)) := by
    rw [hrender, ← String.length_toList, List.drop_left]
  rw [isAddress, hdrop]
  simp only [h.short, ← String.length_toList, hscheme, hafter, hlength, hpathAndQuery, decide_true,
    Bool.and_true]

end Tutor.Http
