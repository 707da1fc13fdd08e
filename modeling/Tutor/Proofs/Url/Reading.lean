import Tutor.Proofs.Text.Trim
import Tutor.Proofs.Url.HostReading
import Tutor.Proofs.Url.Written

/-!
# Web addresses read again

What a web address is written as is read as that address, part by part: each part ends where it
seems to, and what is escaped stays as it is. Only the host is looked at anew. So what becomes of an
address depends on what becomes of the text in the place of its host.

* `Unspaced` – texts from which nothing is dropped.
* `IsServer`, `isServer_of_allowed`, `isServer_chars` – texts in the place of a host.
* `ofChars_charsWith` – an address with such a text in it.
* `ofText_render` – an address that was read.
-/

namespace Tutor.Url

open Tutor.Text

variable {c : Char} {as bs cs rest server : List Char} {u : Url} {scheme : String} {p : Nat}

/-! ### Texts from which nothing is dropped -/

/-- Neither blanks nor controls of ASCII stand in a text. -/
def Unspaced (cs : List Char) : Prop := ∀ c ∈ cs, 0x20 < c.toNat

theorem unspaced_nil : Unspaced [] := fun _ hc => absurd hc List.not_mem_nil

theorem Unspaced.cons (hc : 0x20 < c.toNat) (hcs : Unspaced cs) : Unspaced (c :: cs) :=
  List.forall_mem_cons.mpr ⟨hc, hcs⟩

theorem Unspaced.append (has : Unspaced as) (hbs : Unspaced bs) : Unspaced (as ++ bs) := fun c hc =>
  (List.mem_append.mp hc).elim (has c) (hbs c)

theorem Kept.unspaced {keep : Char → Bool} (hblank : keep ' ' = false) (h : Kept keep cs) :
    Unspaced cs := by
  intro c hc
  obtain ⟨hgraphic, hkeep⟩ := h c hc
  rw [isGraphic, Bool.and_eq_true, decide_eq_true_eq] at hgraphic
  have hne : c.toNat ≠ 0x20 := by
    intro hspace
    obtain rfl : c = ' ' := Char.toNat_inj.mp hspace
    rw [hblank] at hkeep
    cases hkeep
  omega

theorem strip_of_unspaced (h : Unspaced cs) : strip (fun c => c.toNat ≤ 0x20) cs = cs := by
  have hcs : ∀ c ∈ cs, decide (c.toNat ≤ 0x20) = false := fun c hc => by
    have := h c hc
    simpa using this
  rw [strip, dropWhile_eq_self fun c hc => hcs c (List.mem_of_mem_head? hc),
    dropTrailing_eq_self fun c hc => hcs c (List.mem_of_mem_getLast? hc)]

theorem unbroken_of_unspaced (h : Unspaced cs) : unbroken cs = cs := by
  refine List.filter_eq_self.mpr fun c hc => ?_
  have hc := h c hc
  have hne : ∀ d : Char, d.toNat ≤ 0x20 → (c == d) = false := by
    intro d hd
    rw [beq_eq_false_iff_ne]
    rintro rfl
    omega
  rw [isBreak, hne '\t' (by decide), hne '\n' (by decide), hne '\r' (by decide)]
  rfl

/-! ### Texts in the place of a host -/

/-- A text in the place of a host whose end is found, whatever is in front and behind. -/
structure IsServer (cs : List Char) : Prop where
  filled : cs ≠ []
  unspaced : Unspaced cs
  inside : ∀ c ∈ cs, endsAuthority (.web 0) c = false ∧ c ≠ '@'
  ends : ∀ rest, (∀ c ∈ rest.head?, c = ':') → splitHost false (cs ++ rest) = (cs, rest)

theorem splitHost_of_head? (h : ∀ c ∈ rest.head?, c = ':') : splitHost false rest = ([], rest) := by
  cases rest with
  | nil => rfl
  | cons c rest =>
    obtain rfl := h c rfl
    rfl

/-- Without a colon outside of brackets, a text belongs to the host. -/
theorem splitHost_append {bracketed : Bool}
    (h : ∀ c ∈ cs, (c == ':' && !bracketed) = false ∧ c ≠ '[' ∧ c ≠ ']') (rest : List Char) :
    splitHost bracketed (cs ++ rest) =
      (cs ++ (splitHost bracketed rest).1, (splitHost bracketed rest).2) := by
  induction cs with
  | nil => rfl
  | cons c cs ih =>
    obtain ⟨hcolon, hopen, hclose⟩ := h c List.mem_cons_self
    rw [List.cons_append, splitHost, hcolon, beq_false_of_ne hopen, beq_false_of_ne hclose]
    simp only [Bool.false_eq_true, if_false]
    rw [ih fun d hd => h d (List.mem_cons_of_mem _ hd)]
    rfl

/-- What may stand in a domain name may stand in its place. -/
theorem isServer_of_allowed (hfilled : cs ≠ []) (h : ∀ c ∈ cs, Idna.isForbidden c = false) :
    IsServer cs where
  filled := hfilled
  unspaced c hc := by
    have hallowed := h c hc
    simp only [Idna.isForbidden, Bool.or_eq_false_iff, decide_eq_false_iff_not] at hallowed
    omega
  inside c hc := by
    have hslash : c ≠ '/' := Host.ne_of_isForbidden (h c hc) (by decide)
    have hbackslash : c ≠ '\\' := Host.ne_of_isForbidden (h c hc) (by decide)
    have hquery : c ≠ '?' := Host.ne_of_isForbidden (h c hc) (by decide)
    have hfragment : c ≠ '#' := Host.ne_of_isForbidden (h c hc) (by decide)
    refine ⟨?_, Host.ne_of_isForbidden (h c hc) (by decide)⟩
    rw [endsAuthority, isSlash_web_eq_false.mpr ⟨hslash, hbackslash⟩, beq_false_of_ne hquery,
      beq_false_of_ne hfragment]
    rfl
  ends rest hrest := by
    have hinside : ∀ c ∈ cs, (c == ':' && !false) = false ∧ c ≠ '[' ∧ c ≠ ']' := by
      intro c hc
      have hcolon : c ≠ ':' := Host.ne_of_isForbidden (h c hc) (by decide)
      rw [beq_false_of_ne hcolon]
      exact ⟨rfl, Host.ne_of_isForbidden (h c hc) (by decide),
        Host.ne_of_isForbidden (h c hc) (by decide)⟩
    rw [splitHost_append hinside, splitHost_of_head? hrest, List.append_nil]

/-- An address of version 6 may have colons in it, as it stands in brackets. -/
theorem isServer_bracketed (ps : List Nat) : IsServer ('[' :: Host.ipv6Text ps ++ [']']) where
  filled := List.cons_ne_nil _ _
  unspaced := by
    refine .cons (by decide) (.append (fun c hc => ?_) (.cons (by decide) unspaced_nil))
    exact Host.of_mem_ipv6Text (P := fun c => 0x20 < c.toNat) (by decide) (by decide) hc
  inside c hc := by
    rcases List.mem_append.mp hc with hc | hc
    · rcases List.mem_cons.mp hc with rfl | hc
      · decide
      · exact Host.of_mem_ipv6Text (P := fun c => endsAuthority (.web 0) c = false ∧ c ≠ '@')
          (by decide) (by decide) hc
    · obtain rfl := List.mem_singleton.mp hc
      decide
  ends rest hrest := by
    have hinside : ∀ c ∈ Host.ipv6Text ps, (c == ':' && !true) = false ∧ c ≠ '[' ∧ c ≠ ']' :=
      fun c hc => ⟨Bool.and_false _, Host.of_mem_ipv6Text (P := fun c => c ≠ '[' ∧ c ≠ ']')
        (by decide) (by decide) hc⟩
    have hclose : splitHost true (']' :: rest) = ([']'], rest) := by
      rw [splitHost]
      show (']' :: (splitHost false rest).1, (splitHost false rest).2) = _
      rw [splitHost_of_head? hrest]
    rw [List.append_assoc, List.cons_append, splitHost]
    show ('[' :: (splitHost true _).1, (splitHost true _).2) = _
    rw [List.singleton_append, splitHost_append hinside, hclose]
    simp

/-- The text of a host that was read. -/
theorem isServer_chars {host : Host} {source : List Char} (h : Host.ofChars source = .ok host) :
    IsServer host.chars := by
  rcases Host.exists_of_ofChars h with
    ⟨ps, rfl, -⟩ | ⟨text, ascii, hascii, hne, ⟨-, rfl⟩ | ⟨n, hn, rfl⟩⟩
  · exact isServer_bracketed ps
  · rw [Host.chars, String.toList_ofList]
    exact isServer_of_allowed hne fun c hc => Idna.isForbidden_of_mem_toAscii? hascii hc
  · exact isServer_of_allowed (Host.ipv4Text_ne_nil n) fun c hc =>
      (Host.isOrdinary_of_mem_ipv4Text hc).2.2.1

/-! ### Part by part -/

/-- The schemes of the web. -/
theorem web_cases (h : kindOf scheme = .web p) :
    scheme = "http" ∨ scheme = "ws" ∨ scheme = "https" ∨ scheme = "wss" ∨ scheme = "ftp" := by
  rw [kindOf] at h
  split at h
  · cases h
  split at h
  next hhttp =>
    rw [Bool.or_eq_true, beq_iff_eq, beq_iff_eq] at hhttp
    exact hhttp.elim .inl fun h => .inr (.inl h)
  split at h
  next hhttps =>
    rw [Bool.or_eq_true, beq_iff_eq, beq_iff_eq] at hhttps
    exact .inr (.inr (hhttps.elim .inl fun h => .inr (.inl h)))
  split at h
  next hftp => exact .inr (.inr (.inr (.inr (beq_iff_eq.mp hftp))))
  · cases h

theorem scheme?_web (h : kindOf scheme = .web p) (rest : List Char) :
    scheme? (scheme.toList ++ ':' :: rest) = some (scheme, rest) := by
  rcases web_cases h with rfl | rfl | rfl | rfl | rfl <;> rfl

theorem unspaced_scheme (h : kindOf scheme = .web p) : Unspaced scheme.toList := by
  have hall : ∀ s ∈ ["http", "ws", "https", "wss", "ftp"],
      (s.toList.all fun c => decide (0x20 < c.toNat)) = true := by decide
  intro c hc
  have hscheme : scheme ∈ ["http", "ws", "https", "wss", "ftp"] := by
    simpa using web_cases h
  exact of_decide_eq_true (List.all_eq_true.mp (hall scheme hscheme) c hc)

theorem ne_of_not_mem (h : c ∉ cs) : ∀ d ∈ cs, (d != c) = true := by
  intro d hd
  rw [bne_iff_ne]
  rintro rfl
  exact h hd

/-- The last at sign ends user name and password. -/
theorem splitCredentials_append (text : List Char) (hat : '@' ∉ rest) :
    splitCredentials (text ++ '@' :: rest) = (some text, rest) := by
  have hhost : ((text ++ '@' :: rest).reverse.takeWhile (· != '@')).reverse = rest := by
    rw [List.reverse_append, List.reverse_cons, List.append_assoc, List.singleton_append,
      takeWhile_append_of_head? (ne_of_not_mem (mt List.mem_reverse.mp hat)), List.reverse_reverse]
    rintro c hc
    obtain rfl := Option.some.inj hc
    rfl
  have hlength : ((rest.length == (text ++ '@' :: rest).length) : Bool) = false := by
    rw [beq_eq_false_iff_ne, List.length_append, List.length_cons]
    omega
  have htake : (text ++ '@' :: rest).length - rest.length - 1 = text.length := by
    rw [List.length_append, List.length_cons]
    omega
  rw [splitCredentials, hhost]
  simp only [hlength, Bool.false_eq_true, if_false, htake, List.take_left]

theorem splitCredentials_of_none (hat : '@' ∉ cs) : splitCredentials cs = (none, cs) := by
  have hhost : (cs.reverse.takeWhile (· != '@')).reverse = cs := by
    rw [List.takeWhile_eq_self_iff.mpr (ne_of_not_mem (mt List.mem_reverse.mp hat)),
      List.reverse_reverse]
  rw [splitCredentials, hhost]
  simp only [beq_self_eq_true, if_true]

theorem ne_colon_of_kept (h : Kept inCredentials cs) (hc : c ∈ cs) : (c == ':') = false := by
  rw [beq_eq_false_iff_ne]
  rintro rfl
  exact absurd (h ':' hc).2 (by decide)

theorem ofList_encode {keep : Char → Bool} {s : String} (h : Kept keep s.toList) :
    String.ofList (encode keep s.toList) = s := by
  rw [encode_of_kept h, String.ofList_toList]

/-- User name and password are told apart by a colon. -/
theorem withCredentials_written (h : Written u) {bare : Url} (hpassword : bare.password = "") :
    withCredentials bare
        (u.username.toList ++ if u.password.isEmpty then [] else ':' :: u.password.toList) =
      { bare with username := u.username, password := u.password } := by
  have hname : ∀ c ∈ u.username.toList, (c == ':') = false := fun c hc =>
    ne_colon_of_kept h.username hc
  -- Without a password no colon is written, and then none must be found.
  by_cases hempty : u.password.isEmpty = true
  · rw [if_pos hempty, List.append_nil, withCredentials, cutAt?_of_none hname]
    dsimp only
    rw [ofList_encode h.username, String.isEmpty_iff.mp hempty, ← hpassword]
  · have hcut : cutAt? (· == ':') (u.username.toList ++ ':' :: u.password.toList) =
        some (u.username.toList, u.password.toList) := cutAt?_append rfl hname _
    rw [if_neg hempty, withCredentials, hcut]
    dsimp only
    rw [ofList_encode h.username, ofList_encode h.password]

/-- User name and password are found in front of the host. -/
theorem splitCredentials_credentialChars (h : Written u) (hat : '@' ∉ rest) :
    ∃ credentials, splitCredentials (u.credentialChars ++ rest) = (credentials, rest) ∧
      ∀ bare : Url, bare.username = "" → bare.password = "" →
        withCredentials bare (credentials.getD []) =
          { bare with username := u.username, password := u.password } := by
  rw [credentialChars]
  split
  next hempty =>
    rw [Bool.and_eq_true, String.isEmpty_iff, String.isEmpty_iff] at hempty
    refine ⟨none, splitCredentials_of_none hat, fun bare _ hpassword => ?_⟩
    have hwritten := withCredentials_written h hpassword
    rwa [hempty.1, hempty.2] at hwritten ⊢
  next =>
    refine ⟨some _, ?_, fun bare _ hpassword => withCredentials_written h hpassword⟩
    rw [List.append_assoc, List.singleton_append, splitCredentials_append _ hat]

/-- The port that stands behind a host. -/
def portChars : Option Nat → List Char
  | some n => ':' :: digitsIn 10 n
  | none => []

theorem portOf_portChars {port : Option Nat} (h : ∀ n, port = some n → n ≤ 65535) :
    portOf ((portChars port).drop 1) = .ok port := by
  cases port with
  | none => rfl
  | some n =>
    have hsome : (digitsIn 10 n).isEmpty = false := by simpa using digitsIn_ne_nil
    rw [portChars, List.drop_one, List.tail_cons, portOf, numeral?_digitsIn (by decide) (by decide)]
    simp only [if_neg (Nat.not_lt.mpr (h n rfl)), hsome, Bool.false_eq_true, if_false]

theorem flatMap_slash : ∀ {names : List String}, names ≠ [] →
    (names.flatMap fun n => '/' :: n.toList) = '/' :: joinWith ['/'] (names.map String.toList)
  | [], hne => absurd rfl hne
  | [n], _ => by
    rw [List.flatMap_singleton, List.map_singleton, joinWith_singleton]
  | n :: next :: names, _ => by
    have hjoin : joinWith ['/'] ((n :: next :: names).map String.toList) =
        n.toList ++ ('/' :: joinWith ['/'] ((next :: names).map String.toList)) :=
      joinWith_cons_cons _ _ _ _
    rw [List.flatMap_cons, flatMap_slash (List.cons_ne_nil next names), hjoin]
    rfl

/-- Segments are added as they stand. -/
theorem names_followAll {names : List String} (h : ∀ n ∈ names, IsSegment n.toList) :
    ∀ t : Trail,
      (Trail.followAll (.web p) t (names.map String.toList)).names = t.names ++ names := by
  induction names with
  | nil => exact fun t => (List.append_nil _).symm
  | cons n names ih =>
    intro t
    have hn := h n List.mem_cons_self
    -- Whether the segment is the last does not matter, as it is no dot.
    have hstep : t.follow (.web p) n.toList (names.map String.toList).isEmpty = t.add n.toList := by
      rw [Trail.follow_web, unbroken_of_unspaced (hn.kept.unspaced (by decide)), hn.notDotDot,
        hn.notDot]
      rfl
    rw [List.map_cons, Trail.followAll, hstep, ih fun n hn => h n (List.mem_cons_of_mem _ hn),
      Trail.add, ofList_encode hn.kept, List.append_assoc]
    rfl

/-- The segments of a path are found between its slashes. -/
theorem pathFrom_segments {names : List String} (hne : names ≠ [])
    (h : ∀ n ∈ names, IsSegment n.toList) :
    pathFrom (.web p) [] (belowHost (.web p) (names.flatMap fun n => '/' :: n.toList)) =
      .segments names := by
  have hsplit : splitWhere (isSlash (.web p)) (joinWith ['/'] (names.map String.toList)) =
      names.map String.toList := by
    refine splitWhere_joinWith rfl (by simpa using hne) fun part hpart c hc => ?_
    obtain ⟨n, hn, rfl⟩ := List.mem_map.mp hpart
    exact isSlash_web_eq_false.mpr ((h n hn).whole c hc)
  rw [flatMap_slash hne]
  show Path.segments (Trail.followAll (.web p) {} (splitWhere (isSlash (.web p))
    (joinWith ['/'] (names.map String.toList)))).names = _
  rw [hsplit, names_followAll h]
  rfl

theorem dropWhile_marked (h : '#' ∉ cs) (f : Option String) :
    (cs ++ marked '#' f).dropWhile (· != '#') = marked '#' f := by
  refine dropWhile_append_of_head? (ne_of_not_mem h) fun c hc => ?_
  cases f with
  | none => cases hc
  | some f =>
    obtain rfl := Option.some.inj hc
    rfl

/-- Query and fragment are found behind their marks. -/
theorem withTail_marked {query fragment : Option String} (hkind : u.kind = .web p)
    (hquery : ∀ q, query = some q → Kept (inQuery true) q.toList)
    (hfragment : ∀ f, fragment = some f → Kept inFragment f.toList) :
    withTail { u with query := none, fragment := none } (marked '?' query ++ marked '#' fragment) =
      { u with query, fragment } := by
  have hfragmentOf : ∀ f, fragment = some f → fragmentOf f.toList = f := fun f hf =>
    ofList_encode (hfragment f hf)
  cases query with
  | none =>
    cases fragment with
    | none => rfl
    | some f =>
      show { u with query := none, fragment := some (fragmentOf f.toList) } = _
      rw [hfragmentOf f rfl]
  | some q =>
    have hhash : '#' ∉ q.toList := fun hc => absurd (hquery q rfl '#' hc).2 (by decide)
    have hqueryOf : queryOf u.kind (q.toList ++ marked '#' fragment) = q := by
      rw [queryOf, takeWhile_marked hhash, isSpecial_of_web hkind, ofList_encode (hquery q rfl)]
    rw [marked, List.cons_append, withTail, dropWhile_marked hhash]
    cases fragment with
    | none =>
      show { u with query := some (queryOf u.kind (q.toList ++ marked '#' none)),
                    fragment := none } = _
      rw [hqueryOf]
    | some f =>
      show { u with query := some (queryOf u.kind (q.toList ++ marked '#' (some f))),
                    fragment := some (fragmentOf f.toList) } = _
      rw [hqueryOf, hfragmentOf f rfl]

/-! ### What the parts are written in -/

theorem Written.withHost (h : Written u) (host : Host) : Written { u with host := some host } :=
  ⟨h.isWeb, ⟨host, rfl⟩, h.username, h.password, h.port, h.path, h.query, h.fragment⟩

theorem pathChars_of_host {names : List String} (hhost : ∃ h, u.host = some h)
    (hpath : u.path = .segments names) : u.pathChars = names.flatMap fun n => '/' :: n.toList := by
  obtain ⟨host, hhost⟩ := hhost
  rw [pathChars, hpath, hhost]

theorem pathChars_withHost (h : Written u) (host : Host) :
    pathChars { u with host := some host } = u.pathChars := by
  obtain ⟨names, hpath, -, -⟩ := h.path
  rw [pathChars_of_host h.hasHost hpath]
  exact pathChars_of_host ⟨host, rfl⟩ hpath

theorem kept_pathChars (h : Written u) : Kept inPath u.pathChars := by
  obtain ⟨names, hpath, -, hnames⟩ := h.path
  rw [pathChars_of_host h.hasHost hpath]
  intro c hc
  obtain ⟨n, hn, hc⟩ := List.mem_flatMap.mp hc
  exact (hnames n hn).kept.cons (by decide) c hc

theorem exists_pathChars_cons (h : Written u) : ∃ more, u.pathChars = '/' :: more := by
  obtain ⟨names, hpath, hne, -⟩ := h.path
  rw [pathChars_of_host h.hasHost hpath, flatMap_slash hne]
  exact ⟨_, rfl⟩

theorem unspaced_marked {mark : Char} {part : Option String} (hmark : 0x20 < mark.toNat)
    (h : ∀ s, part = some s → Unspaced s.toList) : Unspaced (marked mark part) := by
  cases part with
  | none => exact unspaced_nil
  | some s => exact .cons hmark (h s rfl)

/-- What stands behind the path. -/
def tailChars (u : Url) : List Char := marked '?' u.query ++ marked '#' u.fragment

theorem endsPath_of_head?_tailChars (u : Url) : ∀ c ∈ u.tailChars.head?, endsPath c = true := by
  intro c hc
  rw [tailChars] at hc
  cases hquery : u.query with
  | some q =>
    rw [hquery] at hc
    obtain rfl := Option.some.inj hc
    rfl
  | none =>
    rw [hquery] at hc
    cases hfragment : u.fragment with
    | some f =>
      rw [hfragment] at hc
      obtain rfl := Option.some.inj hc
      rfl
    | none =>
      rw [hfragment] at hc
      cases hc

theorem unspaced_tailChars (h : Written u) : Unspaced u.tailChars :=
  .append (unspaced_marked (by decide) fun q hq => (h.query q hq).unspaced (by decide))
    (unspaced_marked (by decide) fun f hf => (h.fragment f hf).unspaced (by decide))

/-- The part with the host, with a text in the place of the host. -/
def authorityWith (u : Url) (server : List Char) : List Char :=
  u.credentialChars ++ (server ++ portChars u.port)

theorem inside_of_kept (h : Kept inCredentials cs) (hc : c ∈ cs) :
    0x20 < c.toNat ∧ endsAuthority (.web 0) c = false := by
  obtain ⟨hgraphic, hkeep⟩ := h c hc
  have hascii : c.toNat < 0x80 := by
    rw [isGraphic, Bool.and_eq_true, decide_eq_true_eq, decide_eq_true_eq] at hgraphic
    omega
  exact of_ascii (P := fun c => inCredentials c = true → isGraphic c = true →
    0x20 < c.toNat ∧ endsAuthority (.web 0) c = false) (by decide) hascii hkeep hgraphic

theorem inside_of_mem_credentialChars (h : Written u) (hc : c ∈ u.credentialChars) :
    0x20 < c.toNat ∧ endsAuthority (.web 0) c = false := by
  rw [credentialChars] at hc
  split at hc
  · cases hc
  · rcases List.mem_append.mp hc with hc | hc
    · rcases List.mem_append.mp hc with hc | hc
      · exact inside_of_kept h.username hc
      · split at hc
        · cases hc
        · rcases List.mem_cons.mp hc with rfl | hc
          · decide
          · exact inside_of_kept h.password hc
    · obtain rfl := List.mem_singleton.mp hc
      decide

theorem of_mem_portChars {P : Char → Prop} {port : Option Nat} (hcolon : P ':')
    (hdigit : ∀ n < 36, P (digitChar n)) (hc : c ∈ portChars port) : P c := by
  cases port with
  | none => cases hc
  | some n =>
    rcases List.mem_cons.mp hc with rfl | hc
    · exact hcolon
    · exact of_mem_digitsIn (by decide) (by decide) hdigit hc

/-- The part with the host ends where the path begins. -/
theorem inside_of_mem_authorityWith (h : Written u) (hserver : IsServer server)
    (hc : c ∈ u.authorityWith server) : 0x20 < c.toNat ∧ endsAuthority (.web 0) c = false := by
  rcases List.mem_append.mp hc with hc | hc
  · exact inside_of_mem_credentialChars h hc
  · rcases List.mem_append.mp hc with hc | hc
    · exact ⟨hserver.unspaced c hc, (hserver.inside c hc).1⟩
    · exact of_mem_portChars (P := fun c => 0x20 < c.toNat ∧ endsAuthority (.web 0) c = false)
        (by decide) (by decide) hc

/-! ### Whole addresses -/

/-- A web address with a text in the place of its host. -/
def charsWith (u : Url) (server : List Char) : List Char :=
  u.scheme.toList ++ ':' :: '/' :: '/' :: (u.authorityWith server ++ (u.pathChars ++ u.tailChars))

theorem render_eq {host : Host} (h : u.host = some host) :
    u.render = String.ofList (u.charsWith host.chars) := by
  have hauthority : u.authorityChars = '/' :: '/' :: u.authorityWith host.chars := by
    rw [authorityChars, h, authorityWith]
    cases u.port <;> simp [portChars]
  rw [render, charsBeforeFragment, charsWith, hauthority, tailChars]
  simp

/-- The path, and what follows it, behind a host. -/
theorem withPath_pathChars (h : Written u) :
    withPath { u with path := .segments [], query := none, fragment := none }
      (u.pathChars ++ u.tailChars) = u := by
  obtain ⟨p, hkind⟩ := h.isWeb
  obtain ⟨names, hpath, hne, hnames⟩ := h.path
  have hplain : ∀ c ∈ u.pathChars, (!endsPath c) = true := fun c hc => by
    rw [endsPath_of_class (p := inPath) (by decide) (by decide) (kept_pathChars h c hc).2]
    rfl
  have hmark : ∀ c ∈ u.tailChars.head?, (!endsPath c) = false := fun c hc => by
    rw [endsPath_of_head?_tailChars u c hc]
    rfl
  have hbefore : beforeTail (u.pathChars ++ u.tailChars) = u.pathChars :=
    takeWhile_append_of_head? hplain hmark
  have htail : tailOf (u.pathChars ++ u.tailChars) = u.tailChars := by
    rw [tailOf, dropWhile_append_of_head? hplain hmark, unbroken_of_unspaced (unspaced_tailChars h)]
  have hbare : kind { u with path := .segments [], query := none, fragment := none } = .web p :=
    hkind
  rw [withPath_web hbare, hbefore, htail, pathChars_of_host h.hasHost hpath,
    pathFrom_segments hne hnames, ← hpath]
  exact withTail_marked hkind h.query h.fragment

/-- The part with the host ends where the path begins, with the first slash. -/
theorem cut_authorityWith (h : Written u) (hserver : IsServer server) (hkind : u.kind = .web p) :
    (u.authorityWith server ++ (u.pathChars ++ u.tailChars)).takeWhile
        (fun c => !endsAuthority (kindOf u.scheme) c) = u.authorityWith server ∧
      (u.authorityWith server ++ (u.pathChars ++ u.tailChars)).dropWhile
        (fun c => !endsAuthority (kindOf u.scheme) c) = u.pathChars ++ u.tailChars := by
  obtain ⟨more, hmore⟩ := exists_pathChars_cons h
  have hweb : kindOf u.scheme = .web p := hkind
  have hinside : ∀ c ∈ u.authorityWith server, (!endsAuthority (.web p) c) = true := by
    intro c hc
    show (!endsAuthority (.web 0) c) = true
    rw [(inside_of_mem_authorityWith h hserver hc).2]
    rfl
  have hslash : ∀ c ∈ (u.pathChars ++ u.tailChars).head?, (!endsAuthority (.web p) c) = false := by
    rw [hmore]
    rintro c hc
    obtain rfl := Option.some.inj hc
    rfl
  rw [hweb]
  exact ⟨takeWhile_append_of_head? hinside hslash, dropWhile_append_of_head? hinside hslash⟩

theorem splitHost_server (hserver : IsServer server) (port : Option Nat) :
    splitHost false (server ++ portChars port) = (server, portChars port) := by
  refine hserver.ends _ fun c hc => ?_
  cases port with
  | none => cases hc
  | some n => exact (Option.some.inj hc).symm

theorem at_not_mem_server (hserver : IsServer server) (port : Option Nat) :
    '@' ∉ server ++ portChars port := by
  intro hc
  rcases List.mem_append.mp hc with hc | hc
  · exact (hserver.inside '@' hc).2 rfl
  · exact of_mem_portChars (P := fun c => c ≠ '@') (by decide) (by decide) hc rfl

/-- The port is read, and as it is needed, it stands. -/
theorem port_written (h : Written u) :
    portOf (((portChars u.port).drop 1).takeWhile (· != '\\')) = .ok u.port ∧
      ((portChars u.port).drop 1).dropWhile (· != '\\') = [] ∧
      (if u.port == (kindOf u.scheme).port? then none else u.port) = u.port := by
  have hdigits : ∀ c ∈ (portChars u.port).drop 1, (c != '\\') = true := fun c hc =>
    of_mem_portChars (P := fun c => (c != '\\') = true) (by decide) (by decide)
      (List.mem_of_mem_drop hc)
  -- What follows a backslash behind the port would belong to the path; there is none.
  refine ⟨?_, List.dropWhile_eq_nil_iff.mpr hdigits, ?_⟩
  · rw [List.takeWhile_eq_self_iff.mpr hdigits]
    exact portOf_portChars fun n hn => (h.port n hn).1
  · cases hport : u.port with
    | none => exact ite_self none
    | some n =>
      have hneeded : (kindOf u.scheme).port? ≠ some n := (h.port n hport).2
      rw [if_neg fun hsame => hneeded (beq_iff_eq.mp hsame).symm]

/-- The part with the host is read as user name, password, host and port. -/
theorem ofAuthority_authorityWith (h : Written u) (hserver : IsServer server) :
    ofAuthority u.scheme (u.authorityWith server ++ (u.pathChars ++ u.tailChars)) =
      (Host.ofChars server).map fun host => { u with host := some host } := by
  obtain ⟨p, hkind⟩ := h.isWeb
  obtain ⟨htake, hdrop⟩ := cut_authorityWith h hserver hkind
  obtain ⟨credentials, hsplit, hcredentials⟩ :=
    splitCredentials_credentialChars h (at_not_mem_server hserver u.port)
  obtain ⟨hport, hnothing, hshown⟩ := port_written h
  have hsome : server.isEmpty = false := List.isEmpty_eq_false_iff.mpr hserver.filled
  have hfilled : (server ++ portChars u.port).isEmpty = false :=
    List.isEmpty_eq_false_iff.mpr (List.append_ne_nil_of_left_ne_nil hserver.filled _)
  have hhostOf : hostOf (kindOf u.scheme) server = Host.ofChars server := by
    rw [hostOf, show (kindOf u.scheme).isSpecial = true from isSpecial_of_web hkind, hsome]
    rfl
  have hauthority : splitCredentials (u.authorityWith server) =
      (credentials, server ++ portChars u.port) := hsplit
  -- The reader goes from part to part; each of the facts above says what it finds next.
  rw [ofAuthority]
  simp only [htake, hdrop, hauthority, hfilled, splitHost_server hserver, hhostOf, hport,
    Bool.and_false, Bool.false_and, Bool.false_eq_true, if_false, hnothing, List.nil_append]
  cases hread : Host.ofChars server with
  | error why => rfl
  | ok host =>
    have hne : (host == .empty) = false := beq_eq_false_iff_ne.mpr (Host.ne_empty_of_ofChars hread)
    have hbehind : withPath
        (withCredentials { scheme := u.scheme, host := some host, port := u.port }
          (credentials.getD [])) (u.pathChars ++ u.tailChars) = { u with host := some host } := by
      rw [hcredentials _ rfl rfl, ← pathChars_withHost h host]
      exact withPath_pathChars (h.withHost host)
    show (if (host == .empty && _) = true then _ else Except.ok (withPath (withCredentials
      { scheme := u.scheme, host := some host, port := ite _ _ _ } _) _)) = Except.ok _
    rw [hne, Bool.false_and, if_neg Bool.false_ne_true, hshown, hbehind]

/-- Two slashes stand in front of the part with the host, and none at its beginning. -/
theorem dropWhile_slashes (h : Written u) (hserver : IsServer server) (rest : List Char) :
    ('/' :: '/' :: (u.authorityWith server ++ rest)).dropWhile (isSlash (.web p)) =
      u.authorityWith server ++ rest := by
  have hfilled : u.authorityWith server ≠ [] :=
    List.append_ne_nil_of_right_ne_nil _ (List.append_ne_nil_of_left_ne_nil hserver.filled _)
  obtain ⟨c, more, hmore⟩ := List.exists_cons_of_ne_nil hfilled
  have hc := (inside_of_mem_authorityWith h hserver (hmore ▸ List.mem_cons_self : c ∈ _)).2
  have hslash : ¬isSlash (.web p) c = true := by
    rw [endsAuthority, Bool.or_eq_false_iff, Bool.or_eq_false_iff] at hc
    rw [Bool.not_eq_true]
    exact hc.1.1
  show (u.authorityWith server ++ rest).dropWhile (isSlash (.web p)) = _
  rw [hmore, List.cons_append, List.dropWhile_cons_of_neg hslash]

/-- An address with a text in the place of its host is read as that address, with the host that the
text is read as. -/
theorem ofChars_charsWith (h : Written u) (hserver : IsServer server) :
    ofChars none (u.charsWith server) =
      (Host.ofChars server).map fun host => { u with host := some host } := by
  obtain ⟨p, hkind⟩ := h.isWeb
  have hauthority : Unspaced (u.authorityWith server ++ (u.pathChars ++ u.tailChars)) :=
    .append (fun c hc => (inside_of_mem_authorityWith h hserver hc).1)
      (((kept_pathChars h).unspaced (by decide)).append (unspaced_tailChars h))
  have hslashes :
      Unspaced ('/' :: '/' :: (u.authorityWith server ++ (u.pathChars ++ u.tailChars))) :=
    .cons (by decide) (.cons (by decide) hauthority)
  have hunspaced : Unspaced (u.charsWith server) :=
    (unspaced_scheme hkind).append (.cons (by decide) hslashes)
  rw [ofChars.eq_def]
  dsimp only
  rw [strip_of_unspaced hunspaced, charsWith, scheme?_web hkind]
  dsimp only
  rw [ofScheme, show kindOf u.scheme = .web p from hkind]
  dsimp only
  rw [unbroken_of_unspaced hslashes]
  show ofAuthority u.scheme (List.dropWhile (isSlash (.web p)) ('/' :: '/' :: _)) = _
  rw [dropWhile_slashes h hserver]
  exact ofAuthority_authorityWith h hserver

/-- A web address that was read is read again from what it is written as, unless a label of its host
is too long. -/
theorem ofText_render {host : Host} {source : List Char} (h : Written u)
    (hhost : u.host = some host) (hread : Host.ofChars source = .ok host) :
    ofText u.render = if host.isReadable then .ok u else .error .invalidDomainName := by
  have hsame : { u with host := some host } = u := by rw [← hhost]
  rw [ofText, render_eq hhost, String.toList_ofList, ofChars_charsWith h (isServer_chars hread),
    Host.ofChars_chars hread]
  cases host.isReadable with
  | true => exact congrArg Except.ok hsame
  | false => rfl

end Tutor.Url
