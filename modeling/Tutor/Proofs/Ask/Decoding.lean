import Tutor.Ask.Request
import Tutor.Proofs.Json.Record

/-!
# Reading requests

A request has seven fields, each of a kind of its own. A tree gives a request exactly if every field
that it gives is of its kind; and the request has what was given, and the defaults for the rest.

* `Field`, `Request.layout` – the fields, set apart from each other.
* `Field.Fits` – which trees are of the kind of a field.
* `Request.ofTree_eq_ok_iff`, `Request.exists_ofTree_iff` – which request a tree gives, and whether
  it gives one.
-/

namespace Tutor.Ask

open Tutor.Json Tutor.Number

/-- The fields of a request. -/
inductive Field where
  | question
  | model
  | temperature
  | simplify
  | language
  | playAudio
  | session
deriving DecidableEq, Repr

namespace Field

/-- All fields, in the order in which an array gives them. -/
def all : List Field := [question, model, temperature, simplify, language, playAudio, session]

/-- The key of a field. -/
def name : Field → String
  | question => "question"
  | model => "model"
  | temperature => "temperature"
  | simplify => "simplify"
  | language => "language"
  | playAudio => "playAudio"
  | session => "sessionId"

/-- What a field holds. -/
abbrev Content : Field → Type
  | question | model | session => Option String
  | temperature => Option Single
  | simplify | playAudio => Bool
  | language => String

/-- Decodes the value of a field. -/
def decode : (k : Field) → Tree → Decoded k.Content
  | question | model | session => fun t => t.optional Tree.string
  | temperature => fun t => t.optional Tree.single
  | simplify | playAudio => Tree.truth
  | language => Tree.string

/-- A field of a request. -/
def get : (k : Field) → Request → k.Content
  | question => Request.question
  | model => Request.model
  | temperature => Request.temperature
  | simplify => Request.simplify
  | language => Request.language
  | playAudio => Request.playAudio
  | session => Request.session

/-- The request with a field set. -/
def put : (k : Field) → k.Content → Request → Request
  | question => fun v r => { r with question := v }
  | model => fun v r => { r with model := v }
  | temperature => fun v r => { r with temperature := v }
  | simplify => fun v r => { r with simplify := v }
  | language => fun v r => { r with language := v }
  | playAudio => fun v r => { r with playAudio := v }
  | session => fun v r => { r with session := v }

/-- The trees that are of the kind of a field: a text, a number or a truth value. Where the default
is that there is none, null says so. -/
def Fits : Field → Tree → Prop
  | question, t | model, t | session, t => t = .null ∨ ∃ s, t = .text (some s)
  | temperature, t => t = .null ∨ ∃ n q, t = .number n ∧ n.quantity? = some q
  | simplify, t | playAudio, t => ∃ b, t = .bool b
  | language, t => ∃ s, t = .text (some s)

theorem exists_decode_iff {k : Field} {t : Tree} : (∃ v, k.decode t = .ok v) ↔ k.Fits t := by
  have htext : (∃ v, t.optional Tree.string = .ok v) ↔ t = .null ∨ ∃ s, t = .text (some s) := by
    rw [Tree.exists_optional_iff]
    simp only [Tree.string_eq_ok_iff]
  cases k with
  | question => exact htext
  | model => exact htext
  | session => exact htext
  | temperature =>
    show (∃ v, t.optional Tree.single = .ok v) ↔ _
    rw [Tree.exists_optional_iff, Tree.exists_single_iff]
    rfl
  | simplify => exact exists_congr fun b => Tree.truth_eq_ok_iff
  | playAudio => exact exists_congr fun b => Tree.truth_eq_ok_iff
  | language => exact exists_congr fun s => Tree.string_eq_ok_iff

theorem nodup_all : all.Nodup := by decide

end Field

namespace Request

/-- The fields of a request, set apart from each other. -/
def layout : Layout Request Field Field.Content where
  name := Field.name
  decode := Field.decode
  get := Field.get
  put := Field.put
  name_injective := by
    intro k k'
    cases k <;> cases k' <;> simp [Field.name]
  get_put := by
    intro k v r
    cases k <;> rfl
  get_put_of_ne := by
    intro k k' v r hne
    cases k <;> cases k' <;> first | exact absurd rfl hne | rfl
  ext := by
    intro r r' h
    have hquestion := h .question
    have hmodel := h .model
    have htemperature := h .temperature
    have hsimplify := h .simplify
    have hlanguage := h .language
    have hplayAudio := h .playAudio
    have hsession := h .session
    cases r
    cases r'
    simp only [Field.get] at *
    subst_vars
    rfl

theorem fields_eq : fields = Field.all.map layout.member := rfl

variable {t : Tree} {r : Request} {given : List (Field × Tree)}

/-- The request of a tree has what the tree gives, and the defaults for what it does not. -/
theorem ofTree_eq_ok_iff :
    ofTree t = .ok r ↔ ∃ given, layout.Gives Field.all t given ∧ layout.Reads given {} r := by
  rw [ofTree, fields_eq]
  exact Layout.record_eq_ok_iff Field.nodup_all

/-- A tree gives a request exactly if all fields that it gives are of their kind. -/
theorem exists_ofTree_iff : (∃ r, ofTree t = .ok r) ↔
    ∃ given, layout.Gives Field.all t given ∧ ∀ k t, (k, t) ∈ given → k.Fits t := by
  have hfields : (∃ r, t.record (Field.all.map layout.member) {} = .ok r) ↔ _ :=
    Layout.exists_record_iff Field.nodup_all
  simp only [ofTree, fields_eq, hfields]
  refine exists_congr fun given => and_congr_right fun _ => ?_
  exact forall₃_congr fun k t _ => Field.exists_decode_iff

/-- What is given can be read, if it is of the kinds that are wanted. -/
theorem exists_reads (hgives : layout.Gives Field.all t given)
    (hkinds : ∀ k t, (k, t) ∈ given → k.Fits t) : ∃ r, layout.Reads given {} r := by
  obtain ⟨r, hr⟩ := Layout.exists_sets (x := layout)
    (fun k t hmem => Field.exists_decode_iff.mpr (hkinds k t hmem)) {}
  exact ⟨r, (Layout.sets_eq_ok_iff (hgives.nodup Field.nodup_all)).mp hr⟩

/-- The question of a request is the text that was given for it. -/
theorem question_eq_some_iff (h : layout.Reads given {} r) {text : String} :
    r.question = some text ↔ (Field.question, Tree.text (some text)) ∈ given := by
  constructor
  · intro hquestion
    by_cases hgiven : ∃ t, (Field.question, t) ∈ given
    · obtain ⟨t, hmem⟩ := hgiven
      have hdecoded : t.optional Tree.string = .ok r.question := h.decoded .question t hmem
      rw [hquestion] at hdecoded
      cases t with
      | text s =>
        cases s with
        | none => cases hdecoded
        | some s =>
          obtain rfl : s = text := Option.some.inj (Except.ok.inj hdecoded)
          exact hmem
      | _ => cases hdecoded
    · have hkept : r.question = none := h.kept .question fun t hmem => hgiven ⟨t, hmem⟩
      rw [hkept] at hquestion
      cases hquestion
  · intro hmem
    exact (Except.ok.inj (h.decoded .question _ hmem)).symm

end Request

end Tutor.Ask
