import Tutor.Proofs.Idna.Unreadable
import Tutor.Proofs.Speech.Resolution
import Tutor.Proofs.Url.Reading

/-!
# What an address asks for

The address of a text leads to the service that the voice was given, whatever the text and the
language: read again, it is the base of the voice with pairs appended to its query, and the pairs
hold text and language character for character. That it can be read again is up to the host alone.

* `location_isOk_iff` – which texts have an address.
* `Asks`, `asks_appendPairs` – the base of a voice with a text asked of it.
* `location_reads` – an address read again.
-/

namespace Tutor.Speech.Voice

open Tutor.Text

variable {v : Voice} {base : Url} {text code address : String}

/-- A URL leads where the base does, and asks for a text in a language there. -/
structure Asks (v : Voice) (text code : String) (base u : Url) : Prop where
  scheme : u.scheme = base.scheme
  username : u.username = base.username
  password : u.password = base.password
  host : u.host = base.host
  port : u.port = base.port
  path : u.path = base.path
  fragment : u.fragment = base.fragment
  pairs : u.pairs = base.pairs ++
    [ ("ie", "UTF-8"), ("q", text), ("tl", code), ("total", "1"), ("idx", "0"),
      ("textlen", toString text.length), ("client", "tw-ob"), ("prompt", "input"),
      ("ttsspeed", if v.slow then "0.24" else "1") ]

/-- Only the query is set by pairs that are appended. -/
theorem exists_appendPairs (u : Url) (pairs : List (String × String)) :
    ∃ query, u.appendPairs pairs = { u with query := some query } := by
  rw [Url.appendPairs]
  split
  · split
    · exact ⟨_, rfl⟩
    · exact ⟨_, rfl⟩
  · exact ⟨_, rfl⟩

/-- The base with what is asked of the service leads where the base does. -/
theorem asks_appendPairs (v : Voice) (text code : String) (base : Url) :
    Asks v text code base (base.appendPairs (v.query text code)) := by
  have hpairs := Url.pairs_appendPairs base (v.query text code)
  obtain ⟨query, hquery⟩ := exists_appendPairs base (v.query text code)
  rw [hquery] at hpairs ⊢
  exact ⟨rfl, rfl, rfl, rfl, rfl, rfl, rfl, hpairs⟩

/-- An address is the base with what is asked of the service, as text. -/
theorem eq_render_of_location (hbase : Url.ofChars none v.base = .ok base)
    (h : v.location text code = .ok address) :
    address = (base.appendPairs (v.query text code)).render := by
  rw [location, urlOf, hbase] at h
  split at h
  · cases h
  split at h
  · cases h
  · exact (Except.ok.inj h).symm

/-- A text has an address if it is not blank and fits, and the base is a URL. -/
theorem location_isOk_iff (v : Voice) (text code : String) :
    (∃ address, v.location text code = .ok address) ↔
      isBlankText text = false ∧ text.length ≤ 200 ∧
        ∃ base, Url.ofChars none v.base = .ok base := by
  constructor
  · rintro ⟨address, h⟩
    rw [location, urlOf] at h
    split at h
    · cases h
    next hblank =>
      split at h
      · cases h
      next hfits =>
        split at h
        next base hbase => exact ⟨by simpa using hblank, Nat.not_lt.mp hfits, base, hbase⟩
        next => cases h
  · rintro ⟨hblank, hfits, base, hbase⟩
    exact exists_location hbase hblank hfits code

/-- A text has an address exactly if it is not blank, has at most two hundred characters, and the
base is a URL. Where the base is an address of the web, the address of the text is read as a URL
that leads where the base does and asks for the text, unless a label of the host is too long to be
read from Punycode. Then the address is refused. -/
theorem location_reads (v : Voice) (text code : String) :
    ((∃ address, v.location text code = .ok address) ↔
      isBlankText text = false ∧ text.length ≤ 200 ∧
        ∃ base, Url.ofChars none v.base = .ok base) ∧
    ∀ base address, Url.ofChars none v.base = .ok base →
      base.scheme = "http" ∨ base.scheme = "https" → v.location text code = .ok address →
        ∃ host, base.host = some host ∧
          if host.isReadable then ∃ u, Url.ofText address = .ok u ∧ Asks v text code base u
          else Url.ofText address = .error .invalidDomainName := by
  refine ⟨location_isOk_iff v text code, fun base address hbase hscheme haddress => ?_⟩
  have hkind : ∃ p, base.kind = .web p := by
    rcases hscheme with h | h
    · exact ⟨80, by rw [Url.kind, h]; rfl⟩
    · exact ⟨443, by rw [Url.kind, h]; rfl⟩
  -- The base was read, so its parts are as they are written, and pairs are escaped when they are
  -- appended. This leaves the host as the only part that could be read in another way.
  obtain ⟨p, hkind⟩ := hkind
  obtain ⟨hwritten, host, source, hhost, hread⟩ := Url.written_ofChars hbase hkind
  have hasks := asks_appendPairs v text code base
  have hagain := Url.ofText_render (hwritten.appendPairs (v.query text code))
    (hasks.host.trans hhost) hread
  rw [← eq_render_of_location hbase haddress] at hagain
  refine ⟨host, hhost, ?_⟩
  cases hreadable : host.isReadable with
  | true =>
    rw [hreadable] at hagain
    exact ⟨_, hagain, hasks⟩
  | false =>
    rw [hreadable] at hagain
    exact hagain

/-- A text with signs in it that have a meaning in URLs. -/
theorem location_reads_signs :
    let v : Voice := ⟨"https://translate.google.com", false⟩
    let base : Url :=
      { scheme := "https", host := some (.name "translate.google.com"),
        path := .segments ["translate_tts"] }
    Url.ofChars none v.base = .ok base ∧ base.scheme = "https" ∧
      ∃ address, v.location "1 + 1 = 2 & #3?" "en" = .ok address ∧
        ∃ u, Url.ofText address = .ok u ∧ Asks v "1 + 1 = 2 & #3?" "en" base u := by
  intro v base
  have hbase : Url.ofChars none v.base = .ok base := by decide +kernel
  obtain ⟨address, haddress⟩ := (location_isOk_iff v "1 + 1 = 2 & #3?" "en").mpr
    ⟨by decide, by decide, base, hbase⟩
  obtain ⟨host, hhost, hagain⟩ :=
    (location_reads v "1 + 1 = 2 & #3?" "en").2 base address hbase (.inr rfl) haddress
  obtain rfl := Option.some.inj hhost
  exact ⟨hbase, rfl, address, haddress, hagain⟩

/-- A service whose name is written in Punycode with more digits than are read. -/
def farService : Voice where
  host := "http://" ++ String.ofList Idna.spread
  slow := false

/-- The base of that service, as a URL. -/
def farBase : Url where
  scheme := "http"
  host := some (.name (String.ofList (Idna.mark ++ Idna.Punycode.encode Idna.spread)))
  path := .segments ["translate_tts"]

theorem isForbidden_of_mem_spread {c : Char} (hc : c ∈ Idna.spread) : Idna.isForbidden c = false :=
  Idna.isForbidden_of_mem_label (Idna.isLabel_of_ordinary Idna.isEncodable_spread.ordinary) hc

theorem spread_ne_nil : Idna.spread ≠ [] := nofun

theorem base_farService : farService.base = farBase.charsWith Idna.spread := by
  have hlast : ∀ c ∈ ("http://".toList ++ Idna.spread).getLast?, (c == '/') = false := by
    intro c hc
    rw [List.getLast?_append_of_ne_nil _ spread_ne_nil] at hc
    have hallowed := isForbidden_of_mem_spread (List.mem_of_mem_getLast? hc)
    exact beq_false_of_ne (Url.Host.ne_of_isForbidden hallowed (by decide))
  have hhost : farService.host.toList = "http://".toList ++ Idna.spread := by
    show ("http://" ++ String.ofList Idna.spread).toList = _
    rw [String.toList_append, @String.toList_ofList Idna.spread]
  have hauthority : farBase.authorityWith Idna.spread = Idna.spread := List.append_nil _
  have hbehind : farBase.pathChars ++ farBase.tailChars = "/translate_tts".toList := rfl
  rw [base, hhost, dropTrailing_eq_self hlast, Url.charsWith, hauthority, hbehind,
    List.append_assoc]
  rfl

theorem isSegment_path : Url.IsSegment "translate_tts".toList := by
  have hall : "translate_tts".toList.all (fun c =>
      (Url.isGraphic c && Url.inPath c) && !Url.isSlash (.web 0) c) = true := by decide
  have hchars : ∀ c ∈ "translate_tts".toList,
      (Url.isGraphic c = true ∧ Url.inPath c = true) ∧ Url.isSlash (.web 0) c = false := by
    intro c hc
    have hchar := List.all_eq_true.mp hall c hc
    rwa [Bool.and_eq_true, Bool.and_eq_true, Bool.not_eq_true'] at hchar
  exact {
    kept := fun c hc => (hchars c hc).1
    whole := fun c hc => Url.isSlash_web_eq_false.mp (hchars c hc).2
    notDot := rfl
    notDotDot := rfl }

theorem written_farBase : Url.Written farBase where
  isWeb := ⟨80, rfl⟩
  hasHost := ⟨_, rfl⟩
  username := Url.kept_nil
  password := Url.kept_nil
  port := fun _ h => by cases h
  path := by
    refine ⟨["translate_tts"], rfl, List.cons_ne_nil _ _, fun n hn => ?_⟩
    obtain rfl := List.mem_singleton.mp hn
    exact isSegment_path
  query := fun _ h => by cases h
  fragment := fun _ h => by cases h

theorem ofChars_farService : Url.ofChars none farService.base = .ok farBase := by
  rw [base_farService, Url.ofChars_charsWith written_farBase
    (Url.isServer_of_allowed spread_ne_nil fun c hc => isForbidden_of_mem_spread hc),
    Idna.isEncodable_spread.host_eq]
  rfl

/-- The service has addresses, and none of them can be read again. -/
theorem location_unreadable :
    Url.ofChars none farService.base = .ok farBase ∧ farBase.scheme = "http" ∧
      ∃ address, farService.location "a" "en" = .ok address ∧
        Url.ofText address = .error .invalidDomainName := by
  obtain ⟨address, haddress⟩ := (location_isOk_iff farService "a" "en").mpr
    ⟨by decide, by decide, farBase, ofChars_farService⟩
  have hunreadable := Idna.isEncodable_spread.isReadable_host
  rw [decide_eq_false (Nat.not_le.mpr Idna.maxDecoded_lt_spread)] at hunreadable
  have hagain := Url.ofText_render (written_farBase.appendPairs (farService.query "a" "en"))
    (asks_appendPairs farService "a" "en" farBase).host Idna.isEncodable_spread.host_eq
  rw [← eq_render_of_location ofChars_farService haddress, hunreadable] at hagain
  exact ⟨ofChars_farService, rfl, address, haddress, hagain⟩

end Tutor.Speech.Voice
