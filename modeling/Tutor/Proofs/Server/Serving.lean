import Tutor.Proofs.Disk.Files
import Tutor.Proofs.Server.Refusing
import Tutor.Proofs.Url.Form

/-!
# What is served of a folder

Below a prefix, a server serves the files of a folder. The path behind the prefix spells a name, with
escapes or without, and every spelling of a name leads to the file that the name leads to. What is no
file is not served, whatever is there instead.

* `below?_mounted` – paths below a prefix.
* `Spells`, `namesOf?_of_spells` – what paths spell.
* `gives_of_spells`, `status_answer_ne` – files that are served, and what is no file.
-/

namespace Tutor.Server

open Tutor.Http Tutor.Text

variable {cs served spelled rest : List Char} {name path : String}

/-! ### Paths below a prefix -/

theorem fits_self (part : List Char) : fits part part = true := by
  rw [fits]
  split
  next front back hcut =>
    obtain ⟨c, -, rfl⟩ := eq_of_cutAt? hcut
    simp
  next => exact beq_self_eq_true part

theorem isLeftOut_self (part : List Char) : isLeftOut part part = true := by
  simp [isLeftOut]

theorem eq_of_mem_zip_append {α : Type} {l more : List α} {x : α × α}
    (h : x ∈ l.zip (l ++ more)) : x.1 = x.2 := by
  induction l with
  | nil => cases h
  | cons a l ih =>
    rcases List.mem_cons.mp h with rfl | h
    · rfl
    · exact ih h

/-- Below a prefix stands what follows it. -/
theorem below?_mounted (served : List Char) (hrest : rest.head? ≠ some '/') :
    below? (splitWhere (· == '/') served) (String.ofList ('/' :: (served ++ '/' :: rest))) =
      some (String.ofList ('/' :: rest)) := by
  have hparts : partsOf (String.ofList ('/' :: (served ++ '/' :: rest))).toList =
      splitWhere (· == '/') served ++ splitWhere (· == '/') rest := by
    rw [String.toList_ofList]
    exact splitWhere_append rfl served rest
  have hfront : ∀ f : List Char → List Char → Bool, (∀ part, f part part = true) →
      ((splitWhere (· == '/') served).zip
        (splitWhere (· == '/') served ++ splitWhere (· == '/') rest)).all
          (fun x => f x.1 x.2) = true := by
    intro f hf
    rw [List.all_eq_true]
    intro x hx
    rw [eq_of_mem_zip_append hx]
    exact hf x.2
  have hlong : ¬ (splitWhere (· == '/') served ++ splitWhere (· == '/') rest).length <
      (splitWhere (· == '/') served).length := by
    simp
  have hjoined : joinWith ['/'] (splitWhere (· == '/') rest) = rest := joinWith_splitWhere '/' rest
  simp only [below?, hparts, hfront fits fits_self, hfront isLeftOut isLeftOut_self, hlong,
    List.drop_left, hjoined]
  simp [hrest]

/-- The path at which what is spelled is asked for below a prefix. -/
def mounted (served : String) (spelled : List Char) : String :=
  String.ofList ('/' :: (strip (· == '/') served.toList ++ '/' :: spelled))

/-! ### Spellings -/

/-- A text spells a name, with escapes or without. -/
def Spells (spelled : List Char) (name : String) : Prop := Url.decodeBytes spelled = bytesOf name

theorem spells_self (h : '%' ∉ name.toList) : Spells name.toList name :=
  Url.decodeBytes_of_unescaped h

/-- Without an escape, a text spells itself only. -/
theorem Spells.eq (h : Spells spelled name) (hescape : '%' ∉ spelled) : spelled = name.toList := by
  rw [Spells, Url.decodeBytes_of_unescaped hescape] at h
  exact utf8_injective h

theorem Spells.head (h : Spells spelled name) (hname : name.toList.head? ≠ some '/') :
    spelled.head? ≠ some '/' := by
  intro hspelled
  obtain ⟨rest, rfl⟩ := List.head?_eq_some_iff.mp hspelled
  apply hname
  have hdecoded := congrArg decode h
  rw [Url.decodeBytes_cons (by decide), decode_cons, bytesOf, decode_utf8] at hdecoded
  cases htext : name.toList with
  | nil => simp [htext] at hdecoded
  | cons c cs =>
    rw [htext, List.map_cons] at hdecoded
    rw [List.head?_cons, Option.some.inj (List.cons.inj hdecoded).1]

theorem namesOf?_of_spells (hspells : Spells spelled name)
    (hpath : path.toList.dropWhile (· == '/') = spelled) (hhead : name.toList.head? ≠ some '/')
    (hback : ".." ∉ (Path.ofText name).names) :
    namesOf? path = some (Path.ofText name).names := by
  have hrooted : (Path.ofText name).rooted = false := by
    show (name.toList.head? == some '/') = false
    simpa using hhead
  have htext : text? (Url.decodeBytes spelled) = some name := by
    rw [hspells, bytesOf, text?_utf8, String.ofList_toList]
  simp [namesOf?, hpath, htext, hrooted, hback]

/-! ### Files that are served -/

variable {d : Disk} {folder : Path} {place : Place} {bytes : List UInt8} {get : Request}

theorem answerFrom_of_locate {names : List String} (hnames : namesOf? get.path = some names)
    (hfile : d.locate { folder with names := folder.names ++ names, isFolder := false } =
      .file place bytes) :
    answerFrom d folder get = fileAnswer place bytes := by
  rw [answerFrom, hnames]
  simp only [hfile]

/-- A path into a folder leads on as the folder's path does. -/
theorem locate_of_contents_join (hhead : name.toList.head? ≠ some '/') {folder : String}
    (hfile : d.contents (Path.ofText (Path.join folder name)) = .ok bytes) :
    ∃ place, d.locate
      { Path.ofText folder with
        names := (Path.ofText folder).names ++ (Path.ofText name).names, isFolder := false } =
      .file place bytes := by
  obtain ⟨place, hlocate⟩ := Disk.contents_eq_ok.mp hfile
  obtain ⟨hnames, hrooted⟩ := Path.ofText_join_of_head hhead folder
  refine ⟨place, ?_⟩
  rw [← hlocate]
  exact Disk.locate_congr hrooted.symm hnames.symm (Disk.isFolder_of_locate hlocate).symm

theorem status_failedAnswer_ne (opens : Bool) (why : Disk.Problem) :
    (failedAnswer opens why).status ≠ 200 := by
  cases why <;> cases opens <;> decide

/-- A path that leads to no file, and does not end in a slash, is not served. -/
theorem status_answerFrom_ne {names : List String} (hnames : namesOf? get.path = some names)
    {last : Char} (hlast : get.path.toList.getLast? = some last) (hslash : last ≠ '/')
    (hnone : d.file? (d.placeOf { folder with names := folder.names ++ names, isFolder := false }) =
      none) :
    (answerFrom d folder get).status ≠ 200 := by
  have hend : ¬ (get.path.isEmpty || get.path.toList.getLast? == some '/') = true := by
    rw [Bool.or_eq_true, String.isEmpty_iff, hlast, not_or]
    constructor
    · intro hempty
      simp [hempty] at hlast
    · simpa using hslash
  rw [answerFrom, hnames]
  dsimp only
  cases hlocate : d.locate { folder with names := folder.names ++ names, isFolder := false } with
  | file place bytes =>
    obtain ⟨rfl, hfile⟩ := Disk.file?_of_locate hlocate
    cases hnone.symm.trans hfile
  | folder place =>
    dsimp only
    rw [if_neg hend]
    show 307 ≠ 200
    decide
  | vacant place =>
    show 404 ≠ 200
    decide
  | nowhere why => exact status_failedAnswer_ne _ why

/-- The paths of the routes hold neither of two characters. -/
theorem ofPath?_eq_none (h : '_' ∈ path.toList ∨ '%' ∈ path.toList) : Route.ofPath? path = none := by
  rw [Route.ofPath?, List.find?_eq_none]
  intro route _ hroute
  obtain rfl := beq_iff_eq.mp hroute
  cases route <;> revert h <;> decide

variable {σ : Type} [Outside σ] {site : Site σ} {w : World σ}

/-- A request is answered with some bytes, and nothing changes. -/
structure Gives (site : Site σ) (get : Request) (w : World σ) (bytes : List UInt8) : Prop where
  status : (StateT.run (site.answer get) w).1.status = 200
  body : (StateT.run (site.answer get) w).1.body = bytes
  world : (StateT.run (site.answer get) w).2 = w

theorem run_answer_elsewhere (hroute : Route.ofPath? get.path = none) (hmethod : get.method = "GET") :
    StateT.run (site.answer get) w =
      (shared (StateT.run (site.elsewhere get) w).1, (StateT.run (site.elsewhere get) w).2) := by
  rw [Site.answer, Site.dispatch, hroute]
  simp only [hmethod]
  rw [if_neg (by decide), Run.run_bind]
  rfl

omit [Outside σ] in
theorem run_serveFolder (hmethod : get.method = "GET") :
    StateT.run (serveFolder folder get) w = (answerFrom w.disk folder get, w) := by
  rw [serveFolder, hmethod, if_pos (by decide)]
  rfl

omit [Outside σ] in
/-- Below the prefix, the folder is served, under the rest of the path. -/
theorem elsewhere_mounted (hpath : get.path = mounted site.served spelled)
    (hspelled : spelled.head? ≠ some '/') :
    ∃ inner : Request, inner.method = get.method ∧
      inner.path.toList.dropWhile (· == '/') = spelled ∧
      site.elsewhere get = serveFolder (Path.ofText site.folder) inner := by
  have hdrop : spelled.dropWhile (· == '/') = spelled := by
    cases spelled with
    | nil => rfl
    | cons c cs => exact List.dropWhile_cons_of_neg (by simpa using hspelled)
  cases hserved : strip (· == '/') site.served.toList with
  | nil =>
    refine ⟨get, rfl, ?_, ?_⟩
    · rw [hpath, mounted, hserved, String.toList_ofList]
      exact hdrop
    · simp [Site.elsewhere, hserved]
  | cons c cs =>
    refine ⟨{ get with path := String.ofList ('/' :: spelled) }, rfl, ?_, ?_⟩
    · rw [String.toList_ofList]
      exact hdrop
    · rw [mounted, hserved] at hpath
      have hbelow := below?_mounted (c :: cs) hspelled
      rw [← hpath] at hbelow
      simp [Site.elsewhere, hserved, hbelow]

/-- A file in the folder is served under every spelling of its name, if this neither starts at the
root nor leads back. -/
theorem gives_of_spells (hmethod : get.method = "GET")
    (hpath : get.path = mounted site.served spelled) (hspells : Spells spelled name)
    (hmark : '_' ∈ name.toList) (hhead : name.toList.head? ≠ some '/')
    (hback : ".." ∉ (Path.ofText name).names)
    (hfile : w.disk.contents (Path.ofText (Path.join site.folder name)) = .ok bytes) :
    Gives site get w bytes := by
  have hroute : Route.ofPath? get.path = none := by
    apply ofPath?_eq_none
    rw [hpath, mounted, String.toList_ofList]
    by_cases hescape : '%' ∈ spelled
    · right
      simp [hescape]
    · left
      rw [hspells.eq hescape]
      simp [hmark]
  obtain ⟨inner, hinner, hrest, helsewhere⟩ := elsewhere_mounted hpath (hspells.head hhead)
  obtain ⟨place, hlocate⟩ := locate_of_contents_join hhead hfile
  have hanswer : answerFrom w.disk (Path.ofText site.folder) inner = fileAnswer place bytes :=
    answerFrom_of_locate (namesOf?_of_spells hspells hrest hhead hback) hlocate
  have hrun : StateT.run (site.answer get) w = (shared (fileAnswer place bytes), w) := by
    rw [run_answer_elsewhere hroute hmethod, helsewhere,
      run_serveFolder (hinner.trans hmethod), hanswer]
  exact ⟨by rw [hrun]; rfl, by rw [hrun]; rfl, by rw [hrun]⟩

/-- What is no file is not served, whatever the path to it spells. -/
theorem status_answer_ne (hmethod : get.method = "GET") (hroute : Route.ofPath? get.path = none)
    (hpath : get.path = mounted site.served spelled) (hspells : Spells spelled name)
    (hhead : name.toList.head? ≠ some '/') (hback : ".." ∉ (Path.ofText name).names)
    {last : Char} (hlast : spelled.getLast? = some last) (hslash : last ≠ '/')
    (hnone : w.disk.file? (w.disk.placeOf { Path.ofText site.folder with
      names := (Path.ofText site.folder).names ++ (Path.ofText name).names, isFolder := false }) =
      none) :
    (StateT.run (site.answer get) w).1.status ≠ 200 := by
  obtain ⟨inner, hinner, hrest, helsewhere⟩ := elsewhere_mounted hpath (hspells.head hhead)
  have hlast' : inner.path.toList.getLast? = some last := by
    rw [← List.takeWhile_append_dropWhile (p := (· == '/')) (l := inner.path.toList), hrest,
      List.getLast?_append, hlast]
    rfl
  rw [run_answer_elsewhere hroute hmethod, helsewhere, run_serveFolder (hinner.trans hmethod)]
  exact status_answerFrom_ne (namesOf?_of_spells hspells hrest hhead hback) hlast' hslash hnone

end Tutor.Server
