import Tutor.Fault
import Tutor.Speech.Span
import Tutor.Url.Parse

/-!
# Voices

A voice makes the addresses at which a speech service speaks a text. One address speaks at most
two hundred characters. A longer text is cut into pieces, each ending at a blank or a punctuation
mark, as late as the limit allows.
-/

namespace Tutor.Speech

open Tutor.Text

/-- The longest text that one address speaks. -/
def mostChars : Nat := 200

/-- Why a text cannot be spoken. -/
inductive Refusal where
  /-- The text is blank. -/
  | blank
  /-- The text is too long. -/
  | tooLong (length : Nat)
  /-- The host of the service is no URL. -/
  | invalidHost (host : String) (why : Url.Problem)
  /-- A run of characters is too long for a piece and has no place to cut it. -/
  | uncuttable (limit : Nat)
deriving DecidableEq, Repr

/-- The refusal in words. -/
def Refusal.message : Refusal → String
  | blank => "text should be a non-empty string"
  | tooLong n =>
    "text length (" ++ toString n ++ ") should be at most " ++ toString mostChars ++ " characters"
  | invalidHost host why => "Invalid TTS host " ++ host ++ ": " ++ why.message
  | uncuttable n => "a word is too long to split into " ++ toString n ++ " character pieces"

/-- The refusal as a fault. -/
def Refusal.fault (r : Refusal) : Fault := .speech r.message

/-! ### Pieces -/

/-- The punctuation marks after which a text may be cut, Chinese ones among them. -/
def cutMarks : List Char :=
  [',', '.', '!', '?', ';', ':', '，', '。', '！', '？', '；', '：', '、']

/-- Whether a text may be cut after a character. -/
def isCut (c : Char) : Bool := isBlank c || cutMarks.contains c

/-- The first piece of a long text: up to the limit if the text may be cut there, and otherwise up
to the last character within the limit after which it may be cut. It is empty if there is none. -/
def firstPiece (limit : Nat) (cs : List Char) : List Char :=
  if (cs.drop limit).head?.any isCut then cs.take limit
  else dropTrailing (fun c => !isCut c) (cs.take limit)

/-- Cuts the first piece off a long text. -/
def cut? (limit : Nat) (cs : List Char) : Option (List Char × List Char) :=
  let piece := firstPiece limit cs
  if piece.isEmpty then none else some (piece, cs.drop piece.length)

theorem length_of_cut? {limit : Nat} {cs : List Char} {r} (hcs : limit < cs.length)
    (h : cut? limit cs = some r) : r.2.length < cs.length := by
  simp only [cut?] at h
  split at h
  · exact absurd h (by simp)
  · next hne =>
    obtain rfl := Option.some.inj h
    have : 0 < (firstPiece limit cs).length := List.length_pos_iff.2 (by simpa using hne)
    simp only [List.length_drop]
    omega

/-- The pieces of a text, as they are cut. -/
def cutAll? (limit : Nat) (cs : List Char) : Option (List (List Char)) :=
  if _hcs : limit < cs.length then
    match _h : cut? limit cs with
    | some (piece, rest) => (cutAll? limit rest).map (piece :: ·)
    | none => none
  else some [cs]
termination_by cs.length
decreasing_by exact length_of_cut? _hcs _h

/-- The pieces of a text, trimmed, without blank ones. -/
def pieces? (limit : Nat) (cs : List Char) : Option (List (List Char)) :=
  (cutAll? limit cs).map fun ps => (ps.map trim).filter (fun p => !p.isEmpty)

/-! ### Addresses -/

/-- A voice. -/
structure Voice where
  /-- The address of the service. -/
  host : String
  /-- Whether the voice speaks slowly. -/
  slow : Bool
deriving DecidableEq, Repr

namespace Voice

/-- The address that a voice's addresses begin with. -/
def base (v : Voice) : List Char :=
  dropTrailing (· == '/') v.host.toList ++ "/translate_tts".toList

/-- What is asked of the service. -/
def query (v : Voice) (text code : String) : List (String × String) :=
  [ ("ie", "UTF-8"), ("q", text), ("tl", code), ("total", "1"), ("idx", "0"),
    ("textlen", toString text.length), ("client", "tw-ob"), ("prompt", "input"),
    ("ttsspeed", if v.slow then "0.24" else "1") ]

/-- The URL at which a text is spoken. -/
def urlOf (v : Voice) (text code : String) : Except Refusal Url :=
  if isBlankText text then .error .blank
  else if mostChars < text.length then .error (.tooLong text.length)
  else
    match Url.ofChars none v.base with
    | .ok u => .ok (u.appendPairs (v.query text code))
    | .error why => .error (.invalidHost v.host why)

/-- The address at which a text is spoken. -/
def location (v : Voice) (text code : String) : Except Refusal String :=
  (v.urlOf text code).map Url.render

/-- The addresses at which the pieces of a text of any length are spoken. -/
def locations (v : Voice) (text code : String) : Except Refusal (List String) :=
  match pieces? mostChars text.toList with
  | some ps => ps.mapM fun p => v.location (String.ofList p) code
  | none => .error (.uncuttable mostChars)

end Voice

end Tutor.Speech
