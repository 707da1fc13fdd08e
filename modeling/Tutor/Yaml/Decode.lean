import Tutor.Number.Spelling
import Tutor.Yaml.Node

/-!
# From documents to values of a type

A scalar means what is wanted of it: every scalar is a text, and a bare one may be a number, a truth
value or nothing. Records are mappings; one of which nothing is written has all its defaults.
-/

namespace Tutor.Yaml

open Tutor.Text Tutor.Number

/-- The values with anchors, by number. -/
abbrev Anchors := List (Nat × Node)

namespace Node

/-- The value that a node stands for. -/
def target (known : Anchors) : Node → Node
  | .alias id =>
    match known.reverse.find? (·.1 == id) with
    | some (_, n) => n
    | none => .alias id
  | .anchored _ n => n
  | n => n

/-! ### Scalars -/

/-- A text. -/
def text? (known : Anchors) (n : Node) : Option String :=
  match n.target known with
  | .scalar _ _ s => some s
  | _ => none

/-- The text of a scalar that may be more than text: a bare one, or a block with a certain tag. -/
def barely? (known : Anchors) (tag : String) (n : Node) : Option String :=
  match n.target known with
  | .scalar .plain _ s => some s
  | .scalar .literal t s => if t == some tag then some s else none
  | _ => none

/-- A truth value. -/
def truth? (known : Anchors) (n : Node) : Option Bool := do
  let s ← n.barely? known Tag.bool
  if s == "true" || s == "True" || s == "TRUE" then some true
  else if s == "false" || s == "False" || s == "FALSE" then some false
  else none

/-- The base that the beginning of a number names, and its digits. -/
def based? : List Char → Option (Nat × List Char)
  | '0' :: 'x' :: ds => some (16, ds)
  | '0' :: 'o' :: ds => some (8, ds)
  | '0' :: 'b' :: ds => some (2, ds)
  | _ => none

/-- A natural number below a bound, in one of four bases. A decimal one has no zeros in front. -/
def naturalOf? (bound : Nat) (s : String) : Option Nat := do
  let cs := match s.toList with
    | '+' :: rest => rest
    | cs => cs
  let (base, ds) ← match based? cs with
    | some r => some r
    | none => if 1 < cs.length && cs.head? == some '0' then none else some (10, cs)
  if ds.isEmpty then none
  let n ← numeral? base ds
  if n < bound then some n else none

/-- A natural number below a bound. -/
def natural? (known : Anchors) (bound : Nat) (n : Node) : Option Nat := do
  naturalOf? bound (← n.barely? known Tag.int)

/-- A number that is rounded to double precision first, or one that has a name. -/
def singleOf? (s : String) : Option Single :=
  let cs := s.toList
  let plus := cs.head? == some '+'
  let positive := if plus then cs.drop 1 else cs
  if [".inf", ".Inf", ".INF"].contains (String.ofList positive) then some (.infinite false)
  else if ["-.inf", "-.Inf", "-.INF"].contains s then some (.infinite true)
  else if [".nan", ".NaN", ".NAN"].contains s then some .notANumber
  else if plus && positive.head?.any (fun c => c == '+' || c == '-') then none
  else (Spelling.ofChars? positive).bind Spelling.viaDouble?

/-- A number. -/
def single? (known : Anchors) (n : Node) : Option Single := do
  singleOf? (← n.barely? known Tag.float)

/-- Whether a text spells nothing. -/
def spellsNull (s : String) : Bool := ["null", "Null", "NULL", "~"].contains s

/-- A text, or nothing. A scalar that is tagged as nothing must spell it. -/
def textOrNull? (known : Anchors) (n : Node) : Option (Option String) :=
  match n.target known with
  | .scalar .plain none s => some (if s.isEmpty || spellsNull s then none else some s)
  | .scalar .plain (some t) s =>
    if t == Tag.null then (if spellsNull s then some none else none) else some (some s)
  | .scalar _ _ s => some (some s)
  | _ => none

/-! ### Collections -/

/-- Whether nothing is written. -/
def isNothing : Node → Bool
  | .scalar .plain _ s => s.isEmpty
  | _ => false

/-- The texts of a sequence. -/
def texts? (known : Anchors) (n : Node) : Option (List String) :=
  match n.target known with
  | .sequence items => items.mapM (text? known)
  | v => if v.isNothing then some [] else none

end Node

/-- A field of a record under construction: its key, and how its value goes into the record. -/
structure Member (ρ : Type) where
  /-- The key. -/
  name : String
  /-- The record with the field set. -/
  set : Anchors → Node → ρ → Option ρ

/-- Takes the fields from the pairs of a mapping. A field must not come twice; keys that name no
field are passed over. -/
def fieldsFrom (known : Anchors) (fields : List (Member ρ)) :
    List String → List (Node × Node) → ρ → Option ρ
  | _, [], r => some r
  | seen, (k, v) :: pairs, r => do
    let key ← k.text? known
    match fields.find? (·.name == key) with
    | none => fieldsFrom known fields seen pairs r
    | some f =>
      if seen.contains key then none
      else fieldsFrom known fields (key :: seen) pairs (← f.set known v r)

/-- A record, begun as `start`. -/
def Node.record (fields : List (Member ρ)) (known : Anchors) (n : Node) (start : ρ) : Option ρ :=
  match n.target known with
  | .mapping pairs => fieldsFrom known fields [] pairs start
  | v => if v.isNothing then some start else none

end Tutor.Yaml
