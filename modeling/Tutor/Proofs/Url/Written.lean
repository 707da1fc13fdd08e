import Tutor.Proofs.Url.Encoded
import Tutor.Proofs.Url.Query

/-!
# What a web address is made of

A URL that was read holds its parts in the form in which they are written. Every part is escaped,
no segment of the path is a dot or has a slash in it, and a port stands only where it is needed. So
a URL with one of the schemes that always have a host says of each part how it will be read again.

* `Written` – the parts of such a URL, but for the host.
* `written_ofChars` – every one that was read.
* `Written.appendPairs` – also with pairs appended to its query.
-/

namespace Tutor.Url

open Tutor.Text

variable {c : Char} {cs : List Char} {u : Url} {scheme : String} {p : Nat}

/-- A segment of a path as it is written: escaped, without a slash in it, and neither one dot nor
two. -/
structure IsSegment (cs : List Char) : Prop where
  kept : Kept inPath cs
  whole : ∀ c ∈ cs, c ≠ '/' ∧ c ≠ '\\'
  notDot : isDot cs = false
  notDotDot : isDotDot cs = false

/-- A URL of the web, as it is written around its host. -/
structure Written (u : Url) : Prop where
  isWeb : ∃ p, u.kind = .web p
  hasHost : ∃ h, u.host = some h
  username : Kept inCredentials u.username.toList
  password : Kept inCredentials u.password.toList
  port : ∀ n, u.port = some n → n ≤ 65535 ∧ u.kind.port? ≠ some n
  path : ∃ names, u.path = .segments names ∧ names ≠ [] ∧ ∀ n ∈ names, IsSegment n.toList
  query : ∀ q, u.query = some q → Kept (inQuery true) q.toList
  fragment : ∀ f, u.fragment = some f → Kept inFragment f.toList

theorem isSlash_web_eq_false : isSlash (.web p) c = false ↔ c ≠ '/' ∧ c ≠ '\\' := by
  rw [isSlash, Bool.or_eq_false_iff, beq_eq_false_iff_ne]
  show c ≠ '/' ∧ (c == '\\') = false ↔ _
  rw [beq_eq_false_iff_ne]

theorem isSpecial_of_web {k : SchemeKind} (h : k = .web p) : k.isSpecial = true := by
  rw [h]
  rfl

/-! ### Query and fragment -/

theorem kept_fragmentOf (cs : List Char) : Kept inFragment (fragmentOf cs).toList := by
  rw [fragmentOf, String.toList_ofList]
  exact kept_encode keepsEscapes_inFragment cs

theorem kept_queryOf {k : SchemeKind} (hk : k = .web p) (cs : List Char) :
    Kept (inQuery true) (queryOf k cs).toList := by
  rw [queryOf, String.toList_ofList, isSpecial_of_web hk]
  exact kept_encode (keepsEscapes_inQuery true) _

theorem Written.withQuery (h : Written u) {q : Option String}
    (hq : ∀ s, q = some s → Kept (inQuery true) s.toList) : Written { u with query := q } :=
  ⟨h.isWeb, h.hasHost, h.username, h.password, h.port, h.path, hq, h.fragment⟩

theorem Written.withFragment (h : Written u) {f : Option String}
    (hf : ∀ s, f = some s → Kept inFragment s.toList) : Written { u with fragment := f } :=
  ⟨h.isWeb, h.hasHost, h.username, h.password, h.port, h.path, h.query, hf⟩

theorem Written.withTail (h : Written u) (cs : List Char) : Written (withTail u cs) := by
  obtain ⟨p, hp⟩ := h.isWeb
  have hquery : ∀ rest s, some (queryOf u.kind rest) = some s → Kept (inQuery true) s.toList := by
    rintro rest s hs
    obtain rfl := Option.some.inj hs
    exact kept_queryOf hp rest
  have hfragment : ∀ f s, some (fragmentOf f) = some s → Kept inFragment s.toList := by
    rintro f s hs
    obtain rfl := Option.some.inj hs
    exact kept_fragmentOf f
  rw [withTail.eq_def]
  split
  next rest =>
    dsimp only
    split
    next f _ => exact (h.withQuery (hquery rest)).withFragment (hfragment f)
    next => exact h.withQuery (hquery rest)
  next f _ => exact h.withFragment (hfragment f)
  next => exact h

/-- Only query and fragment are set by what follows the path. -/
theorem exists_withTail (u : Url) (cs : List Char) :
    ∃ query fragment, withTail u cs = { u with query, fragment } := by
  rw [withTail.eq_def]
  split
  · dsimp only
    split
    · exact ⟨_, _, rfl⟩
    · exact ⟨_, _, rfl⟩
  · exact ⟨_, _, rfl⟩
  · exact ⟨_, _, rfl⟩

/-! ### Paths -/

theorem isSegment_nil : IsSegment [] where
  kept := kept_nil
  whole _ hc := absurd hc List.not_mem_nil
  notDot := rfl
  notDotDot := rfl

/-- What was no dot is none in its escaped form. -/
theorem isSegment_encode (hwhole : ∀ c ∈ cs, c ≠ '/' ∧ c ≠ '\\') (hdot : isDot cs = false)
    (hdotDot : isDotDot cs = false) : IsSegment (encode inPath cs) where
  kept := kept_encode keepsEscapes_inPath cs
  whole c hc := by
    rcases mem_encode hc with ⟨-, hc⟩ | rfl | hc
    · exact hwhole c hc
    · decide
    · exact of_ascii (P := fun c => c.isAlphanum = true → c ≠ '/' ∧ c ≠ '\\') (by decide)
        (toNat_lt_of_isAlphanum hc) hc
  notDot := by rwa [isDot_encode keepsEscapes_inPath]
  notDotDot := by rwa [isDotDot_encode keepsEscapes_inPath]

namespace Trail

variable {t : Trail} {seg : List Char}

/-- All segments so far are as they are written. -/
def AreSegments (names : List String) : Prop := ∀ n ∈ names, IsSegment n.toList

/-- On the web there are no drives. -/
theorem follow_web (p : Nat) (t : Trail) (seg : List Char) (isLast : Bool) :
    t.follow (.web p) seg isLast =
      if isDotDot (unbroken seg) then close { t with names := parent t.names } isLast
      else if isDot (unbroken seg) then close t isLast
      else t.add (unbroken seg) := rfl

theorem areSegments_add (h : AreSegments t.names) (hseg : IsSegment (encode inPath seg)) :
    AreSegments (t.add seg).names := by
  intro n hn
  rcases List.mem_append.mp hn with hn | hn
  · exact h n hn
  · obtain rfl := List.mem_singleton.mp hn
    rwa [String.toList_ofList]

theorem areSegments_close (h : AreSegments t.names) (isLast : Bool) :
    AreSegments (t.close isLast).names := by
  rw [close]
  split
  · exact areSegments_add h isSegment_nil
  · exact h

theorem areSegments_parent {names : List String} (h : AreSegments names) :
    AreSegments (parent names) := by
  rw [parent]
  split
  · split
    · exact h
    · exact fun n hn => h n (List.dropLast_subset _ hn)
  · exact fun n hn => absurd hn List.not_mem_nil

theorem areSegments_follow (h : AreSegments t.names)
    (hwhole : ∀ c ∈ seg, isSlash (.web p) c = false) (isLast : Bool) :
    AreSegments (t.follow (.web p) seg isLast).names := by
  rw [follow_web]
  split
  · exact areSegments_close (areSegments_parent h) isLast
  next hdotDot =>
    split
    · exact areSegments_close h isLast
    next hdot =>
      rw [Bool.not_eq_true] at hdotDot hdot
      exact areSegments_add h
        (isSegment_encode (fun c hc => isSlash_web_eq_false.mp (hwhole c (List.mem_filter.mp hc).1))
          hdot hdotDot)

theorem names_add_ne_nil (t : Trail) (seg : List Char) : (t.add seg).names ≠ [] :=
  List.append_ne_nil_of_right_ne_nil _ (List.cons_ne_nil _ _)

/-- The last segment leaves one behind, if only an empty one. -/
theorem names_follow_ne_nil (p : Nat) (t : Trail) (seg : List Char) :
    (t.follow (.web p) seg true).names ≠ [] := by
  rw [follow_web]
  split
  · exact names_add_ne_nil _ _
  · split <;> exact names_add_ne_nil _ _

theorem areSegments_followAll {segs : List (List Char)}
    (hwhole : ∀ seg ∈ segs, ∀ c ∈ seg, isSlash (.web p) c = false) (h : AreSegments t.names) :
    AreSegments (followAll (.web p) t segs).names := by
  induction segs generalizing t with
  | nil => exact h
  | cons seg segs ih =>
    exact ih (fun s hs => hwhole s (List.mem_cons_of_mem _ hs))
      (areSegments_follow h (hwhole seg List.mem_cons_self) _)

theorem names_followAll_ne_nil {segs : List (List Char)} (hsegs : segs ≠ []) :
    (followAll (.web p) t segs).names ≠ [] := by
  -- Only the last segment matters: what stood before can be left again.
  induction segs generalizing t with
  | nil => exact absurd rfl hsegs
  | cons seg segs ih =>
    cases segs with
    | nil => exact names_follow_ne_nil p t seg
    | cons next segs => exact ih (List.cons_ne_nil _ _)

end Trail

/-- The path behind a host. -/
theorem exists_pathFrom (p : Nat) (cs : List Char) :
    ∃ names, pathFrom (.web p) [] cs = .segments names ∧ names ≠ [] ∧
      ∀ n ∈ names, IsSegment n.toList := by
  refine ⟨_, rfl, Trail.names_followAll_ne_nil (splitWhere_ne_nil _ cs), ?_⟩
  exact Trail.areSegments_followAll (fun seg hseg c hc => not_of_mem_splitWhere hseg hc)
    fun n hn => absurd hn List.not_mem_nil

theorem withPath_web (hkind : u.kind = .web p) (cs : List Char) :
    withPath u cs =
      withTail { u with path := pathFrom (.web p) [] (belowHost (.web p) (beforeTail cs)) }
        (tailOf cs) := by
  rw [withPath, hkind]
  simp only [SchemeKind.isSpecial, Bool.not_true, Bool.and_false, Bool.false_eq_true, if_false]

/-! ### The part with the host -/

theorem le_of_portOf {port : Option Nat} (h : portOf cs = .ok port) : ∀ n ∈ port, n ≤ 65535 := by
  rw [portOf] at h
  split at h
  next =>
    split at h
    next => cases h
    next hsmall =>
      obtain rfl := Except.ok.inj h
      intro n hn
      split at hn
      · cases hn
      · obtain rfl := Option.some.inj hn
        omega
  next => cases h

theorem withCredentials_eq (u : Url) (cs : List Char) (hpassword : u.password = "") :
    ∃ name password, withCredentials u cs = { u with username := name, password := password } ∧
      Kept inCredentials name.toList ∧ Kept inCredentials password.toList := by
  have hkept : ∀ cs, Kept inCredentials (String.ofList (encode inCredentials cs)).toList := by
    intro cs
    rw [String.toList_ofList]
    exact kept_encode keepsEscapes_inCredentials cs
  rw [withCredentials]
  split
  · exact ⟨_, _, rfl, hkept _, hkept _⟩
  · exact ⟨_, "", by rw [← hpassword], hkept cs, kept_nil⟩

/-- The parts from which a URL with a host is put together. -/
theorem exists_of_ofAuthority (h : ofAuthority scheme cs = .ok u) :
    ∃ source host digits port credentials rest, hostOf (kindOf scheme) source = .ok host ∧
      portOf digits = .ok port ∧
      u = withPath (withCredentials
        { scheme, host := some host, port := if port == (kindOf scheme).port? then none else port }
        credentials) rest := by
  rw [ofAuthority] at h
  dsimp only at h
  split at h
  · cases h
  obtain ⟨host, hhost, h⟩ := exists_of_bind h
  split at h
  · cases h
  obtain ⟨port, hport, h⟩ := exists_of_bind h
  exact ⟨_, host, _, port, _, _, hhost, hport, (Except.ok.inj h).symm⟩

/-- A port that stands is needed. -/
theorem le_of_port_shown {k : SchemeKind} {port : Option Nat} {n : Nat} (h : portOf cs = .ok port)
    (hn : (if port == k.port? then none else port) = some n) : n ≤ 65535 ∧ k.port? ≠ some n := by
  split at hn
  next => cases hn
  next hneeded =>
    obtain rfl := hn
    exact ⟨le_of_portOf h n rfl, fun hsame => hneeded (by rw [hsame]; exact beq_self_eq_true _)⟩

/-- A web address consists of its scheme, a host that was read, and parts that are written. -/
theorem written_ofAuthority (hscheme : kindOf scheme = .web p)
    (h : ofAuthority scheme cs = .ok u) :
    Written u ∧ ∃ host source, u.host = some host ∧ Host.ofChars source = .ok host := by
  obtain ⟨source, host, digits, port, credentials, rest, hhost, hport, rfl⟩ :=
    exists_of_ofAuthority h
  have hsource : Host.ofChars source = .ok host := by
    rw [hostOf, isSpecial_of_web hscheme, if_pos rfl] at hhost
    split at hhost
    · cases hhost
    · exact hhost
  generalize hshown : (if port == (kindOf scheme).port? then none else port) = shown
  obtain ⟨name, password, hcredentials, hname, hpassword⟩ :=
    withCredentials_eq { scheme, host := some host, port := shown } credentials rfl
  have hkind : kind { scheme, username := name, password, host := some host, port := shown } =
      .web p := hscheme
  rw [hcredentials, withPath_web hkind]
  constructor
  · apply Written.withTail
    exact {
      isWeb := ⟨p, hscheme⟩
      hasHost := ⟨host, rfl⟩
      username := hname
      password := hpassword
      port := fun n hn => le_of_port_shown hport (hshown.trans hn)
      path := exists_pathFrom p _
      query := fun _ hq => by cases hq
      fragment := fun _ hf => by cases hf }
  · obtain ⟨query, fragment, htail⟩ := exists_withTail _ _
    rw [htail]
    exact ⟨host, source, rfl, hsource⟩

/-! ### Whole texts -/

theorem scheme_withTail (u : Url) (cs : List Char) : (withTail u cs).scheme = u.scheme := by
  obtain ⟨query, fragment, h⟩ := exists_withTail u cs
  rw [h]

theorem scheme_ofAuthority (h : ofAuthority scheme cs = .ok u) : u.scheme = scheme := by
  obtain ⟨source, host, digits, port, credentials, rest, -, -, rfl⟩ := exists_of_ofAuthority h
  obtain ⟨name, password, hcredentials, -⟩ := withCredentials_eq
    { scheme, host := some host, port := if port == (kindOf scheme).port? then none else port }
    credentials rfl
  rw [withPath, scheme_withTail, hcredentials]

theorem scheme_ofOther (h : ofOther scheme cs = .ok u) : u.scheme = scheme := by
  rw [ofOther.eq_def] at h
  split at h
  next => exact scheme_ofAuthority h
  next =>
    obtain rfl := Except.ok.inj h
    exact scheme_withTail _ _
  next =>
    obtain rfl := Except.ok.inj h
    exact scheme_withTail _ _

theorem scheme_ofFile (h : ofFile none cs = .ok u) : u.scheme = "file" := by
  rw [ofFile.eq_def] at h
  split at h
  next =>
    obtain rfl := Except.ok.inj h
    exact scheme_withTail _ _
  next =>
    split at h
    next =>
      obtain rfl := Except.ok.inj h
      exact scheme_withTail _ _
    next =>
      dsimp only at h
      split at h
      next =>
        obtain rfl := Except.ok.inj h
        exact scheme_withTail _ _
      next =>
        obtain ⟨host, -, h⟩ := exists_of_bind h
        obtain rfl := Except.ok.inj h
        exact scheme_withTail _ _

/-- A web address that was read without a base has a host that was read, and is otherwise as it is
written. -/
theorem written_ofChars (h : ofChars none cs = .ok u) (hkind : u.kind = .web p) :
    Written u ∧ ∃ host source, u.host = some host ∧ Host.ofChars source = .ok host := by
  rw [ofChars.eq_def] at h
  dsimp only at h
  split at h
  next scheme rest _ =>
    rw [ofScheme] at h
    split at h
    next hfile =>
      rw [kind, scheme_ofFile h] at hkind
      cases hkind
    next hother =>
      rw [kind, scheme_ofOther h, hother] at hkind
      cases hkind
    next q hweb => exact written_ofAuthority hweb h
  next => cases h

/-! ### Appended pairs -/

theorem kept_formText (cs : List Char) : Kept (inQuery true) (formText cs) := by
  intro c hc
  have hform := isFormChar_of_mem_formText hc
  rw [isFormChar] at hform
  simp only [Bool.or_eq_true, beq_iff_eq] at hform
  rcases hform with (((((h | rfl) | rfl) | rfl) | rfl) | rfl) | rfl
  · exact ⟨isGraphic_of_isAlphanum h, (keepsEscapes_inQuery true).alphanum c h⟩
  all_goals decide

theorem Kept.cons {keep : Char → Bool} (hc : isGraphic c = true ∧ keep c = true)
    (hcs : Kept keep cs) : Kept keep (c :: cs) :=
  List.forall_mem_cons.mpr ⟨hc, hcs⟩

theorem kept_formPairs (pairs : List (String × String)) :
    Kept (inQuery true) (joinWith ['&'] (pairs.map formPair)) := by
  intro c hc
  rcases mem_joinWith hc with hc | ⟨part, hpart, hc⟩
  · obtain rfl := List.mem_singleton.mp hc
    decide
  · obtain ⟨pair, -, rfl⟩ := List.mem_map.mp hpart
    exact ((kept_formText pair.1.toList).append
      ((kept_formText pair.2.toList).cons (by decide))) c hc

/-- Pairs are escaped when they are appended. -/
theorem Written.appendPairs (h : Written u) (pairs : List (String × String)) :
    Written (u.appendPairs pairs) := by
  have hadded := kept_formPairs pairs
  have hquery : ∀ {q : List Char}, Kept (inQuery true) q →
      ∀ s, some (String.ofList q) = some s → Kept (inQuery true) s.toList := by
    rintro q hq s hs
    obtain rfl := Option.some.inj hs
    rwa [String.toList_ofList]
  rw [Url.appendPairs]
  split
  next q hq =>
    split
    · exact h.withQuery (hquery hadded)
    · exact h.withQuery (hquery ((h.query q hq).append (hadded.cons (by decide))))
  next => exact h.withQuery (hquery hadded)

end Tutor.Url
