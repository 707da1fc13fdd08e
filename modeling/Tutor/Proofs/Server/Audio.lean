import Tutor.Proofs.Ask.Extras
import Tutor.Proofs.Json.Written
import Tutor.Proofs.Server.Serving
import Tutor.Proofs.Url.Query
import Tutor.Settings.Validity
import Tutor.World.Replay

/-!
# Where audio is heard

A reply with audio names an address, and the server serves the folder of the artifacts. So whoever
asks for the path of that address should hear the artifact. That holds for every spelling of its
name below the prefix, as long as the name does not lead out of the folder. The address itself is
written without escapes, so it is one of those spellings only if nothing in it has to be escaped.

* `LeadsBelow` – names that stay in the folder.
* `Unmarked`, `targetOf_urlOf` – addresses that need no escape.
* `completed_of_recordable`, `Rehearsal` – an answer that is spoken.
* `audible_answer` – what is heard of the audio of an answer.
-/

namespace Tutor.Server

open Tutor.Http Tutor.Json Tutor.Text

variable {cs spelled : List Char} {name : String}

/-! ### Names that stay in the folder -/

/-- What settings begin and end names with does not lead out of the folder. -/
structure LeadsBelow (beginning extension : String) : Prop where
  unrooted : beginning.toList.head? ≠ some '/'
  ahead : ['.', '.'] ∉ splitWhere (· == '/') beginning.toList
  behind : ['.', '.'] ∉ splitWhere (· == '/') (extension.toList.dropWhile (· == '.'))

/-- The part of a name that is not from the settings. -/
def stamp (made : Timestamp) (draw : Nat) : List Char :=
  '_' :: ((Speech.millis made).repr.toList ++ '_' :: (Speech.suffix draw ++ ['.']))

/-- Letters, digits and the marks between them. -/
def isStampChar (c : Char) : Bool := c.isAlphanum || c == '_' || c == '-' || c == '.'

variable {beginning extension : String} {made : Timestamp} {draw : Nat} {c : Char}

theorem toList_artifactName (beginning extension : String) (made : Timestamp) (draw : Nat) :
    (Speech.artifactName beginning extension made draw).toList =
      beginning.toList ++ (stamp made draw ++ extension.toList.dropWhile (· == '.')) := by
  simp [Speech.artifactName, stamp]

theorem isStampChar_of_mem_repr {n : Int} (h : c ∈ n.repr.toList) : isStampChar c = true := by
  have hdigits : ∀ m : Nat, c ∈ m.repr.toList → isStampChar c = true := by
    intro m hm
    rw [Nat.repr_eq_ofList_toDigits, String.toList_ofList] at hm
    have hdigit := Nat.isDigit_of_mem_toDigits (by decide) (by decide) hm
    simp [isStampChar, Char.isAlphanum, hdigit]
  cases n with
  | ofNat m => exact hdigits m h
  | negSucc m =>
    have hsign : (Int.repr (.negSucc m)).toList = '-' :: m.succ.repr.toList := by
      simp [Int.repr]
    rw [hsign] at h
    rcases List.mem_cons.mp h with rfl | h
    · decide
    · exact hdigits _ h

theorem isStampChar_of_mem_suffix (h : c ∈ Speech.suffix draw) : isStampChar c = true := by
  rw [Speech.suffix] at h
  rcases List.mem_append.mp h with h | h
  · rw [List.eq_of_mem_replicate h]
    decide
  · exact of_mem_digitsIn (P := fun c => isStampChar c = true) (by decide) (by decide) (by decide) h

theorem isStampChar_of_mem_stamp (h : c ∈ stamp made draw) : isStampChar c = true := by
  simp only [stamp, List.mem_cons, List.mem_append, List.not_mem_nil, or_false] at h
  rcases h with rfl | h | rfl | h | rfl
  · decide
  · exact isStampChar_of_mem_repr h
  · decide
  · exact isStampChar_of_mem_suffix h
  · decide

theorem mark_mem_artifactName (beginning extension : String) (made : Timestamp) (draw : Nat) :
    '_' ∈ (Speech.artifactName beginning extension made draw).toList := by
  simp [toList_artifactName, stamp]

theorem LeadsBelow.head (h : LeadsBelow beginning extension) (made : Timestamp) (draw : Nat) :
    (Speech.artifactName beginning extension made draw).toList.head? ≠ some '/' := by
  have hhead := h.unrooted
  rw [toList_artifactName]
  cases hbeginning : beginning.toList with
  | nil => simp [stamp]
  | cons c cs => simpa [hbeginning] using hhead

/-- The name leads back nowhere: the part of it with the stamp is no pair of dots, and the others
are parts of what the settings give. -/
theorem LeadsBelow.onward (h : LeadsBelow beginning extension) (made : Timestamp) (draw : Nat) :
    ".." ∉ (Path.ofText (Speech.artifactName beginning extension made draw)).names := by
  have hstamp : splitWhere (· == '/') (stamp made draw) = [stamp made draw] := by
    apply splitWhere_of_none
    intro c hc
    have hclass := isStampChar_of_mem_stamp hc
    rw [beq_eq_false_iff_ne]
    rintro rfl
    revert hclass
    decide
  obtain ⟨front, last, first, back, hfront, hrest, hall⟩ := exists_splitWhere_append (· == '/')
    beginning.toList (stamp made draw ++ extension.toList.dropWhile (· == '.'))
  obtain ⟨front', last', first', back', hfront', hback', hrest'⟩ :=
    exists_splitWhere_append (· == '/') (stamp made draw) (extension.toList.dropWhile (· == '.'))
  obtain ⟨rfl, rfl⟩ : front' = [] ∧ last' = stamp made draw := by
    rw [hstamp] at hfront'
    cases front' with
    | nil => exact ⟨rfl, (List.cons.inj hfront').1.symm⟩
    | cons part parts => simp at hfront'
  obtain ⟨rfl, rfl⟩ := List.cons.inj (hrest.symm.trans hrest')
  intro hmem
  obtain ⟨part, hpart, htext⟩ := List.mem_map.mp hmem
  obtain rfl : part = ['.', '.'] := String.ofList_injective htext
  have hsplit := (List.mem_filter.mp hpart).1
  rw [toList_artifactName, hall] at hsplit
  rcases List.mem_append.mp hsplit with hsplit | hsplit
  · apply h.ahead
    rw [hfront]
    exact List.mem_append_left _ hsplit
  · rcases List.mem_cons.mp hsplit with hdots | hsplit
    · have hmark : '_' ∈ ['.', '.'] := by
        rw [hdots]
        simp [stamp]
      revert hmark
      decide
    · apply h.behind
      rw [hback']
      exact List.mem_cons_of_mem _ hsplit

/-! ### Addresses -/

/-- The target of a request to an address: what stands behind its host. -/
def targetOf (address : String) : String :=
  match cutAt? (· == ':') address.toList with
  | some (_, rest) =>
    String.ofList ((rest.drop 2).dropWhile fun c => c != '/' && c != '?' && c != '#')
  | none => address

/-- Nothing in a text ends a path or begins an escape. -/
def Unescaped (s : String) : Prop := Url.Plain s.toList ∧ '%' ∉ s.toList

/-- Settings and an origin whose addresses need no escape. -/
structure Unmarked (s : Settings) (o : Speech.Origin) : Prop where
  scheme : ':' ∉ o.scheme.toList
  host : Url.Plain o.host.toList ∧ '/' ∉ o.host.toList
  served : Url.Plain s.audio.served.toList
  beginning : Unescaped s.audio.beginning
  extension : Unescaped s.audio.extension

theorem targetOf_urlOf {o : Speech.Origin} (hscheme : ':' ∉ o.scheme.toList)
    (hhost : Url.Plain o.host.toList) (hslash : '/' ∉ o.host.toList) (served name : String) :
    targetOf (o.urlOf served name) = mounted served name.toList := by
  have htext : (o.urlOf served name).toList = o.scheme.toList ++ ':' :: '/' :: '/' ::
      (o.host.toList ++ (mounted served name.toList).toList) := by
    simp [Speech.Origin.urlOf, Speech.Origin.base, mounted]
  have hcut : cutAt? (· == ':') (o.urlOf served name).toList = some (o.scheme.toList,
      '/' :: '/' :: (o.host.toList ++ (mounted served name.toList).toList)) := by
    rw [htext]
    refine cutAt?_append rfl (fun c hc => ?_) _
    rw [beq_eq_false_iff_ne]
    rintro rfl
    exact hscheme hc
  have hpass : ∀ c ∈ o.host.toList, (c != '/' && c != '?' && c != '#') = true := by
    intro c hc
    have hplain := hhost c hc
    have hne : c ≠ '/' := by
      rintro rfl
      exact hslash hc
    simp only [Url.endsPath, Bool.or_eq_false_iff, beq_eq_false_iff_ne] at hplain
    simp [hplain, hne]
  rw [targetOf, hcut]
  simp only [List.drop_succ_cons, List.drop_zero]
  rw [List.dropWhile_append_of_pos hpass, mounted, String.toList_ofList]
  rfl

theorem plain_strip (h : Url.Plain cs) (p : Char → Bool) : Url.Plain (strip p cs) := by
  intro c hc
  apply h
  rw [strip, dropTrailing, List.mem_reverse] at hc
  have hfront := (List.dropWhile_sublist _).subset hc
  rw [List.mem_reverse] at hfront
  exact (List.dropWhile_sublist _).subset hfront

theorem plain_of_any (h : cs.any Url.endsPath = false) : Url.Plain cs := by
  intro c hc
  simpa using List.any_eq_false.mp h c hc

/-- A target without marks is a path. -/
theorem splitTarget_of_plain {target : String} (h : Url.Plain target.toList) :
    splitTarget target = (target, none) := by
  have hwhole := Url.takeWhile_marked (Url.hash_not_mem_of_plain h) none
  rw [Url.marked, List.append_nil] at hwhole
  rw [splitTarget, hwhole]
  simp [Url.cutAt?_of_plain h]

theorem plain_mounted {served : String} (hserved : Url.Plain served.toList)
    (hspelled : Url.Plain spelled) : Url.Plain (mounted served spelled).toList := by
  rw [mounted, String.toList_ofList]
  exact .cons rfl ((plain_strip hserved _).append (.cons rfl hspelled))

theorem unescaped_artifactName (hbeginning : Unescaped beginning) (hextension : Unescaped extension)
    (made : Timestamp) (draw : Nat) :
    Unescaped (Speech.artifactName beginning extension made draw) := by
  have hall : ∀ c ∈ (Speech.artifactName beginning extension made draw).toList,
      Url.endsPath c = false ∧ c ≠ '%' := by
    intro c hc
    rw [toList_artifactName, List.mem_append, List.mem_append] at hc
    rcases hc with hc | hc | hc
    · exact ⟨hbeginning.1 c hc, fun heq => hbeginning.2 (heq ▸ hc)⟩
    · have hclass := isStampChar_of_mem_stamp hc
      refine ⟨Url.endsPath_of_class (by decide) (by decide) hclass, ?_⟩
      rintro rfl
      revert hclass
      decide
    · have hmem := (List.dropWhile_sublist _).subset hc
      exact ⟨hextension.1 c hmem, fun heq => hextension.2 (heq ▸ hmem)⟩
  exact ⟨fun c hc => (hall c hc).1, fun hc => (hall '%' hc).2 rfl⟩

/-! ### An answer that is spoken -/

variable {σ : Type} [Outside σ] {site : Site σ} {w : World σ}

/-- A question is answered with audio if its answer can be recorded. -/
theorem completed_of_recordable {s : Ask.Service σ} {q : Ask.Request} {o : Speech.Origin}
    {question : String} {answer : Answer} {w₁ : World σ} (haccepted : s.accepted? q = some question)
    (hcomposed : s.composed q question w = (.ok answer, w₁)) (hwanted : q.playAudio = true)
    (hsaid : isBlankText answer.spoken = false)
    (hrecordable : s.recorder.Recordable answer.spoken q.language
      (Ask.Service.withAnswer q answer w₁)) :
    ∃ reply a, (StateT.run (s.ask q o) w).1 = .ok reply ∧ reply.audioStage = .completed a ∧
      a.name =
        (s.recorder.naming answer.spoken q.language (Ask.Service.withAnswer q answer w₁)).value := by
  obtain ⟨a, ha⟩ := Speech.Recorder.exists_artifact o hsaid hrecordable
  have hvoice : (StateT.run (s.voice q answer o) (Ask.Service.withAnswer q answer w₁)).1 =
      .completed a := by
    rw [Ask.Service.voice, if_pos hwanted]
    exact ha
  rw [Ask.Service.ask_accepted haccepted, Ask.Service.run_answerIn, hcomposed]
  exact ⟨_, a, rfl, hvoice, (Speech.Recorder.kept_of_artifact ha).name_eq⟩

namespace Rehearsal

def settings (beginning : String) : Settings := { audio := { folder := ".", beginning } }

def provider : Provider Replay where
  isConfigured := true
  complete _ := pure (.ok ⟨⟨.assistant, "Because."⟩, none⟩)

def location : String := "https://translate.google.com/tts"

def synthesizer : Speech.Synthesizer Replay where
  bulk _ _ := pure (.ok [location])
  single _ _ := pure (.error (.speech "mute"))

def service (beginning : String) : Ask.Service Replay :=
  .around (settings beginning) provider synthesizer

def server (beginning : String) : Site Replay := .of (settings beginning) (service beginning)

def question : Ask.Request := { question := some "How?", simplify := false }

def request : Request where
  method := "POST"
  path := "/api/learnify"
  header := [field "content-type" "application/json"]
  body := bytesOf (Value.object [("question", .text "How?"), ("simplify", .bool false)]).render

def said : Answer := { text := "Because.", stage := .skipped }

def heard : Finding := .exchanged (.answered ⟨200, [], [1, 2], true⟩)

def world : World Replay where
  outside := ⟨[.time ⟨1, 0⟩, .time ⟨2, 0⟩, .time ⟨3, 0⟩, .number 6, heard], none⟩

theorem bodyOf_request : bodyOf (toAsk request) Ask.Request.ofTree = .ok question := by
  refine bodyOf_eq_ok_iff.mpr ⟨by decide +kernel, by decide +kernel, ?_⟩
  show Ask.Request.ofTree (Document.ofBytes (bytesOf (Value.render _))).tree = _
  rw [ofBytes_render (by decide)]
  rfl

/-- The name under which the audio is kept. -/
def fileName (beginning : String) : String := Speech.artifactName beginning "mp3" ⟨3, 0⟩ 6

/-- The world in which the answer is spoken. -/
def spokenIn (beginning : String) : World Replay :=
  Ask.Service.withAnswer question said ((service beginning).composed question "How?" world).2

variable (beginning : String)

theorem disk_spokenIn : (spokenIn beginning).disk = {} := rfl

theorem resolved_said :
    ((service beginning).recorder.resolved said.spoken question.language
      (spokenIn beginning)).1.locations = [location] := rfl

theorem naming_said :
    (service beginning).recorder.naming said.spoken question.language (spokenIn beginning) =
      ⟨fileName beginning, [], ⟨[heard], none⟩⟩ := rfl

theorem arrives_heard :
    (service beginning).recorder.fetching.Arrives (⟨[heard], none⟩ : Replay) location
      ⟨200, [], [1, 2], true⟩ := by
  -- How pieces are fetched does not depend on how names begin.
  show (service "").recorder.fetching.Arrives _ _ _
  exact Speech.Fetching.arrives_iff.mpr ⟨by decide +kernel, rfl⟩

/-- The answer is spoken if its audio can be kept. -/
theorem exists_reply
    (hpath : Path.ofText (Path.join "." (fileName beginning)) =
      ⟨false, [fileName beginning], false, false⟩)
    (hlong : (fileName beginning).utf8ByteSize ≤ Disk.longestName)
    (hnul : '\x00' ∉ (fileName beginning).toList) :
    ∃ reply a, (StateT.run ((service beginning).ask question (.ofHeader request.header))
        world).1 = .ok reply ∧
      reply.audioStage = .completed a ∧ a.name = fileName beginning := by
  have hback : fileName beginning ≠ ".." := by
    intro h
    have hmark : '_' ∈ (fileName beginning).toList := mark_mem_artifactName _ _ _ _
    rw [h] at hmark
    revert hmark
    decide
  have hdestination : (service beginning).recorder.destination said.spoken question.language
      (spokenIn beginning) = ⟨false, [fileName beginning], false, false⟩ := by
    rw [Speech.Recorder.destination, naming_said]
    exact hpath
  have hrecordable : (service beginning).recorder.Recordable said.spoken question.language
      (spokenIn beginning) := by
    refine ⟨?_, ?_, ?_⟩
    · rw [resolved_said]
      exact List.cons_ne_nil _ _
    · rw [hdestination, disk_spokenIn]
      refine Speech.Fetching.preparable_name rfl rfl hback hlong hnul ?_
      simp [Disk.at?]
    · rw [hdestination, naming_said, resolved_said]
      exact ⟨rfl, 0, location, _, rfl, arrives_heard beginning⟩
  have haccepted : (service beginning).accepted? question = some "How?" :=
    Ask.Service.accepted?_eq_some_iff.mpr ⟨rfl, rfl, by decide⟩
  have hcomposed : (service beginning).composed question "How?" world =
      (.ok said, ((service beginning).composed question "How?" world).2) := rfl
  have hsaid : isBlankText said.spoken = false := by decide
  obtain ⟨reply, a, hreply, haudio, hname⟩ := completed_of_recordable
    (o := .ofHeader request.header) haccepted hcomposed rfl hsaid hrecordable
  refine ⟨reply, a, hreply, haudio, hname.trans ?_⟩
  exact congrArg Errand.Yield.value (naming_said beginning)

end Rehearsal

/-! ### The audio of an answer -/

/-- An answer with audio has an artifact of the recorder. -/
theorem kept_of_completed {s : Ask.Service σ} {q : Ask.Request} {o : Speech.Origin}
    {reply : Ask.Reply} {a : Speech.Artifact} (hreply : (StateT.run (s.ask q o) w).1 = .ok reply)
    (haudio : reply.audioStage = .completed a) :
    reply.audio = some a.url ∧ ∃ made draw locations,
      s.recorder.Kept (Speech.artifactName s.recorder.beginning s.recorder.extension made draw) o
        locations a (StateT.run (s.ask q o) w).2.disk := by
  obtain ⟨question, answer, w₁, -, -, rfl, hworld⟩ := Ask.Service.exists_composed hreply
  have hvoice : (StateT.run (s.voice q answer o) (Ask.Service.withAnswer q answer w₁)).1 =
      .completed a := haudio
  refine ⟨?_, ?_⟩
  · show (Outcome.value? _).map Speech.Artifact.url = _
    rw [hvoice]
    rfl
  · rw [hworld, Ask.Service.run_deliver_eq]
    dsimp only
    rw [Ask.Service.voice] at hvoice ⊢
    split at hvoice
    next hwanted =>
      rw [if_pos hwanted]
      exact ⟨_, _, _, Speech.Recorder.kept_of_artifact hvoice⟩
    next => cases hvoice

theorem artifact?_of_completed {s : Ask.Service σ} {q : Ask.Request} {o : Speech.Origin}
    {reply : Ask.Reply} {a : Speech.Artifact} (hreply : (StateT.run (s.ask q o) w).1 = .ok reply)
    (haudio : reply.audioStage = .completed a) :
    Ask.Entry.artifact? ⟨w, .ask q o, (StateT.run (s.perform (.ask q o)) w).1⟩ = some a := by
  rw [s.run_perform_ask, hreply]
  show reply.audioStage.value? = _
  rw [haudio]
  rfl

/-- An answer leaves behind what its question does. -/
theorem world_answer_toAsk {r : Request} {q : Ask.Request}
    (hread : bodyOf (toAsk r) Ask.Request.ofTree = .ok q) :
    (StateT.run (site.answer (toAsk r)) w).2 =
      (StateT.run (site.service.ask q (.ofHeader r.header)) w).2 := by
  rw [run_answer_toAsk]
  exact congrArg Prod.snd (run_ask_read hread w)

/-- What is heard of the audio of an answer. -/
structure Audible (s : Settings) (site : Site σ) (o : Speech.Origin) (reply : Ask.Reply)
    (a : Speech.Artifact) (response : Response) (w' : World σ) : Prop where
  /-- The answer names the address of the artifact. -/
  told : response = shared (json 200 (replyValue reply)) ∧ reply.audio = some a.url
  /-- The artifact is a file with as many bytes as it says. -/
  file : ∃ bytes, w'.disk.contents (Path.ofText a.path) = .ok bytes ∧ bytes.length = a.bytes
  /-- As long as the file is there, every spelling of its name below the prefix gives its bytes. -/
  spelled : LeadsBelow s.audio.beginning s.audio.extension →
    ∀ (later : World σ) bytes, later.disk.contents (Path.ofText a.path) = .ok bytes →
      ∀ (get : Request) spelled, get.method = "GET" → get.path = mounted s.audio.served spelled →
        Spells spelled a.name → Gives site get later bytes
  /-- So does the address, if nothing in it has to be escaped. -/
  address : LeadsBelow s.audio.beginning s.audio.extension → Unmarked s o →
    ∀ (later : World σ) bytes, later.disk.contents (Path.ofText a.path) = .ok bytes →
      ∀ header body, Gives site (.ofTarget "GET" (targetOf a.url) header body) later bytes

/-- Whatever the settings, the language model, the synthesizer and the network, the audio of an
answer is heard at its address if its name stays in the folder and needs no escape. -/
theorem audible_answer {s : Settings} {provider : Provider σ} {synthesizer : Speech.Synthesizer σ}
    {r : Request} {q : Ask.Request} {reply : Ask.Reply} {a : Speech.Artifact}
    (hread : bodyOf (toAsk r) Ask.Request.ofTree = .ok q)
    (hreply : (StateT.run ((Ask.Service.around s provider synthesizer).ask q (.ofHeader r.header))
      w).1 = .ok reply)
    (haudio : reply.audioStage = .completed a) :
    let site := Site.of s (.around s provider synthesizer)
    Audible s site (.ofHeader r.header) reply a (StateT.run (site.answer (toAsk r)) w).1
      (StateT.run (site.answer (toAsk r)) w).2 := by
  intro site
  obtain ⟨hurl, made, draw, locations, hkept⟩ := kept_of_completed hreply haudio
  have hspelled : LeadsBelow s.audio.beginning s.audio.extension →
      ∀ (later : World σ) bytes, later.disk.contents (Path.ofText a.path) = .ok bytes →
        ∀ (get : Request) spelled, get.method = "GET" →
          get.path = mounted s.audio.served spelled → Spells spelled a.name →
          Gives site get later bytes := by
    intro hbelow later bytes hfile get spelled hmethod hpath hspells
    rw [hkept.name_eq] at hspells
    rw [hkept.path_eq] at hfile
    exact gives_of_spells hmethod hpath hspells (mark_mem_artifactName _ _ made draw)
      (hbelow.head made draw) (hbelow.onward made draw) hfile
  have hask : StateT.run (ask site.service (toAsk r)) w =
      (json 200 (replyValue reply), (StateT.run (site.service.ask q (.ofHeader r.header)) w).2) := by
    have hanswered : (StateT.run (site.service.ask q (.ofHeader (toAsk r).header)) w).1 =
        .ok reply := hreply
    rw [run_ask_read hread, hanswered]
    rfl
  rw [run_answer_toAsk, hask]
  refine ⟨⟨rfl, hurl⟩, hkept.file, hspelled, ?_⟩
  intro hbelow hmarks later bytes hfile header body
  have hname : Unescaped a.name := by
    rw [hkept.name_eq]
    exact unescaped_artifactName hmarks.beginning hmarks.extension made draw
  have htarget : targetOf a.url = mounted s.audio.served a.name.toList := by
    rw [hkept.url_eq, hkept.name_eq]
    exact targetOf_urlOf hmarks.scheme hmarks.host.1 hmarks.host.2 _ _
  have hsplit := splitTarget_of_plain (plain_mounted hmarks.served hname.1)
  rw [htarget]
  refine hspelled hbelow later bytes hfile _ a.name.toList ?_ ?_ (spells_self hname.2)
  · rw [Request.ofTarget, hsplit]
  · rw [Request.ofTarget, hsplit]

open Rehearsal

/-- An answer that is spoken, and heard. -/
theorem audible_of_spoken_answer :
    ∃ reply a, bodyOf (toAsk request) Ask.Request.ofTree = .ok question ∧
      (StateT.run ((service "answer").ask question (.ofHeader request.header)) world).1 =
        .ok reply ∧
      reply.audioStage = .completed a ∧
      LeadsBelow (settings "answer").audio.beginning (settings "answer").audio.extension ∧
      Unmarked (settings "answer") (.ofHeader request.header) ∧
      Audible (settings "answer") (server "answer") (.ofHeader request.header) reply a
        (StateT.run ((server "answer").answer (toAsk request)) world).1
        (StateT.run ((server "answer").answer (toAsk request)) world).2 := by
  obtain ⟨reply, a, hreply, haudio, -⟩ :=
    exists_reply "answer" (by decide +kernel) (by decide +kernel) (by decide +kernel)
  refine ⟨reply, a, bodyOf_request, hreply, haudio, ?_, ?_, ?_⟩
  · exact ⟨by decide +kernel, by decide +kernel, by decide +kernel⟩
  · exact ⟨by decide +kernel, ⟨plain_of_any (by decide +kernel), by decide +kernel⟩,
      plain_of_any (by decide +kernel), ⟨plain_of_any (by decide +kernel), by decide +kernel⟩,
      ⟨plain_of_any (by decide +kernel), by decide +kernel⟩⟩
  · exact audible_answer bodyOf_request hreply haudio

/-- Settings may let names begin with a question mark. Then an answer is spoken, but the path of its
address ends at the mark, and nothing is heard there. -/
theorem silent_of_questioned_name :
    (settings "x?").validate = .ok () ∧ ∃ reply a,
      bodyOf (toAsk request) Ask.Request.ofTree = .ok question ∧
      (StateT.run ((service "x?").ask question (.ofHeader request.header)) world).1 = .ok reply ∧
      reply.audioStage = .completed a ∧ reply.audio = some a.url ∧
      a.url = "http://localhost:5000/audio/x?_3000_0000006.mp3" ∧
      ∀ header body,
        (StateT.run ((server "x?").answer (.ofTarget "GET" (targetOf a.url) header body))
          (StateT.run ((server "x?").answer (toAsk request)) world).2).1.status ≠ 200 := by
  obtain ⟨reply, a, hreply, haudio, hname⟩ :=
    exists_reply "x?" (by decide +kernel) (by decide +kernel) (by decide +kernel)
  obtain ⟨hurl, made, draw, locations, hkept⟩ := kept_of_completed hreply haudio
  have haddress : a.url = "http://localhost:5000/audio/x?_3000_0000006.mp3" := by
    rw [hkept.url_eq, ← hkept.name_eq, hname]
    decide +kernel
  refine ⟨by decide +kernel, reply, a, bodyOf_request, hreply, haudio, hurl, haddress, ?_⟩
  intro header body
  have hshelved := Ask.Service.shelved_perform (s := service "x?")
    ⟨by decide +kernel, by decide +kernel⟩ (.ask question (.ofHeader request.header)) world rfl
    (fun name _ => by simp [world, Disk.file?, Disk.at?])
  rw [artifact?_of_completed hreply haudio] at hshelved
  -- The one file that is made has another name.
  rw [world_answer_toAsk bodyOf_request]
  generalize hdisk : (StateT.run ((server "x?").service.ask question (.ofHeader request.header))
    world).2 = w
  obtain ⟨hhere, hnone⟩ : w.disk.here = [] ∧ w.disk.file? ["x"] = none := by
    rw [← hdisk]
    cases hshelved with
    | artifact _ _ _ _ hhere hother =>
      refine ⟨hhere, (hother ["x"] ?_).trans (by simp [world, Disk.file?, Disk.at?])⟩
      rw [hname]
      decide +kernel
  have hsplit : splitTarget (targetOf a.url) = ("/audio/x", some "_3000_0000006.mp3") := by
    rw [haddress]
    decide +kernel
  have hroute : Route.ofPath? "/audio/x" = none := by decide +kernel
  have hmounted : "/audio/x" = mounted (server "x?").served ['x'] := by decide +kernel
  rw [Request.ofTarget, hsplit]
  have hspells : Spells ['x'] "x" := rfl
  refine status_answer_ne rfl hroute hmounted hspells (by decide) (by decide +kernel) rfl
    (by decide) ?_
  rw [Disk.placeOf, hhere]
  exact hnone

end Tutor.Server
