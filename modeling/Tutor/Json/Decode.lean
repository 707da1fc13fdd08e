import Tutor.Json.Tree

/-!
# From trees to values

A tree is decoded in the order of its text, and the first problem met is the one reported: either
the text breaks there, or what stands there is not what is wanted. Records are written as objects,
with their fields in any order and others beside them, or as arrays of their fields in order.
-/

namespace Tutor.Json

open Tutor.Number

/-- Why a text gives no value. -/
inductive Problem where
  /-- The text is no JSON, or a value in it has no meaning. -/
  | malformed
  /-- The text is JSON, but not of what is wanted. -/
  | mismatched
deriving DecidableEq, Repr

/-- A decoded value, or the first problem. -/
abbrev Decoded (α : Type) := Except Problem α

mutual

/-- Whether nothing in a tree is broken. Texts and numbers without a value do no harm here. -/
def Tree.isWhole : Tree → Bool
  | .array items closed => closed && allWhole items
  | .object members closed => closed && allMembersWhole members
  | .broken => false
  | _ => true

/-- Whether all items are whole. -/
def allWhole : List Tree → Bool
  | [] => true
  | t :: ts => t.isWhole && allWhole ts

/-- Whether the values of all members are whole. Their keys need not spell texts. -/
def allMembersWhole : List (Option String × Tree) → Bool
  | [] => true
  | (_, t) :: ms => t.isWhole && allMembersWhole ms

end

namespace Tree

/-- The problem with a value that is not of the kind that is wanted. -/
def unexpected : Tree → Problem
  | .number n => if n.quantity?.isSome then .mismatched else .malformed
  | .text none => .malformed
  | .broken => .malformed
  | _ => .mismatched

/-- Passes over a value that nobody wants. -/
def ignored (t : Tree) : Decoded Unit :=
  if t.isWhole then .ok () else .error .malformed

/-- A text. -/
def string : Tree → Decoded String
  | .text (some s) => .ok s
  | t => .error t.unexpected

/-- A truth value. -/
def truth : Tree → Decoded Bool
  | .bool b => .ok b
  | t => .error t.unexpected

/-- A single-precision number. -/
def single (t : Tree) : Decoded Single :=
  match t with
  | .number n =>
    match n.quantity? with
    | some (.whole k) => .ok (Single.ofInt k)
    | some (.real negative m) => .ok (Single.ofScaled negative m)
    | none => .error .malformed
  | t => .error t.unexpected

/-- A natural number of 64 bits. -/
def natural (t : Tree) : Decoded Nat :=
  match t with
  | .number n =>
    match n.quantity? with
    | some (.whole k) => if 0 ≤ k then .ok k.toNat else .error .mismatched
    | some (.real ..) => .error .mismatched
    | none => .error .malformed
  | t => .error t.unexpected

/-- A value that may be null. -/
def optional (decode : Tree → Decoded α) : Tree → Decoded (Option α)
  | .null => .ok none
  | t => (decode t).map some

/-- The items of an array. -/
def list (decode : Tree → Decoded α) : Tree → Decoded (List α)
  | .array items closed => do
    let values ← items.mapM decode
    if closed then return values else .error .malformed
  | t => .error t.unexpected

/-- One of some names, alone or as the only key of an object with null for its value. -/
def choice (of? : String → Option α) : Tree → Decoded α
  | .text (some s) =>
    match of? s with
    | some a => .ok a
    | none => .error .mismatched
  | .object ((key, value) :: more) closed => do
    let some name := key | .error .malformed
    let some a := of? name | .error .mismatched
    match value with
    | .null => if more.isEmpty && closed then .ok a else .error .malformed
    | t => .error t.unexpected
  | _ => .error .malformed

end Tree

/-! ### Records -/

/-- A field of a record under construction: its name, and how its value goes into the record. -/
structure Member (ρ : Type) where
  /-- The key. -/
  name : String
  /-- The record with the field set. -/
  set : Tree → ρ → Decoded ρ

/-- Takes the fields from the items of an array, in order. -/
def fromItems : List (Member ρ) → List Tree → Bool → ρ → Decoded ρ
  | _, [], closed, r => if closed then .ok r else .error .malformed
  | [], _ :: _, _, _ => .error .malformed
  | m :: ms, t :: ts, closed, r => do fromItems ms ts closed (← m.set t r)

/-- Takes the fields from the members of an object. A field must not come twice; keys that name no
field are passed over. -/
def fromMembers (fields : List (Member ρ)) (closed : Bool) :
    List String → List (Option String × Tree) → ρ → Decoded ρ
  | _, [], r => if closed then .ok r else .error .malformed
  | _, (none, _) :: _, _ => .error .malformed
  | seen, (some key, t) :: ms, r =>
    match fields.find? (·.name == key) with
    | none => do
      t.ignored
      fromMembers fields closed seen ms r
    | some m => do
      if seen.contains key then .error .mismatched
      fromMembers fields closed (key :: seen) ms (← m.set t r)

/-- A record, begun as `start`. -/
def Tree.record (fields : List (Member ρ)) (start : ρ) : Tree → Decoded ρ
  | .array items closed => fromItems fields items closed start
  | .object members closed => fromMembers fields closed [] members start
  | t => .error t.unexpected

/-- A field that must be there. -/
def required : Option α → Decoded α
  | some a => .ok a
  | none => .error .mismatched

namespace Document

/-- Decodes the value of a text, and does not look at what follows it. -/
def decodeFront (d : Document) (decode : Tree → Decoded α) : Decoded α := decode d.tree

/-- Decodes a text that must end with its value. -/
def decode (d : Document) (decode : Tree → Decoded α) : Decoded α := do
  let a ← decode d.tree
  if d.ends then return a else .error .malformed

end Document

end Tutor.Json
