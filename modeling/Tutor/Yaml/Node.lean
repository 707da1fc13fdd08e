import Tutor.Yaml.Lexer

/-!
# From tokens to values

A document holds one value: a scalar, a sequence or a mapping. A value may carry an anchor, and an
alias stands for the value with an anchor before it, which may be one that holds the alias.
-/

namespace Tutor.Yaml

/-- A value. Anchors are told apart by numbers. -/
inductive Node where
  /-- A scalar, with its tag in full if it has one. -/
  | scalar (style : Style) (tag : Option String) (text : String)
  /-- A sequence. -/
  | sequence (items : List Node)
  /-- A mapping: keys with their values, in order. -/
  | mapping (pairs : List (Node × Node))
  /-- A value with an anchor. -/
  | anchored (id : Nat) (node : Node)
  /-- A reference to the value with an anchor. -/
  | alias (id : Nat)
deriving Repr

/-- The value where nothing is written. -/
def Node.nothing : Node := .scalar .plain none ""

instance : Inhabited Node := ⟨.nothing⟩

/-! ### Reading tokens -/

/-- The tokens that are left, and the number of every anchor so far. -/
structure Reading where
  /-- The tokens that are left. -/
  tokens : List Token
  /-- The anchors with their numbers. -/
  anchors : List (String × Nat) := []

/-- Something that is read from tokens. -/
abbrev Reader := StateT Reading Option

namespace Reader

/-- The next token. -/
def peek : Reader (Option Token) := do return (← get).tokens.head?

/-- Passes over a token. -/
def skip : Reader Unit := modify fun r => { r with tokens := r.tokens.drop 1 }

/-- Whether the next token is a certain one; if so, it is passed over. -/
def accept (t : Token) : Reader Bool := do
  if (← peek) == some t then
    skip
    return true
  else return false

/-- Passes over a certain token. -/
def expect (t : Token) : Reader Unit := do
  if !(← accept t) then failure

/-- Whether the next token is one of some. -/
def isAt (ts : List Token) : Reader Bool := do return (← peek).any ts.contains

/-- The anchors, with a number for one of them that is new or replaces the one before. -/
def renumbered (name : String) (id : Nat) : List (String × Nat) → List (String × Nat)
  | [] => [(name, id)]
  | a :: as => if a.1 == name then (name, id) :: as else a :: renumbered name id as

/-- Numbers an anchor. A name that comes again moves on to the later value. -/
def number (name : String) : Reader Nat := do
  let r ← get
  let id := r.anchors.length
  set { r with anchors := renumbered name id r.anchors }
  return id

/-- The number of an anchor. -/
def lookup (name : String) : Reader Nat := do
  match (← get).anchors.find? (·.1 == name) with
  | some (_, id) => return id
  | none => failure

/-- The anchor and the tag in front of a value, in either order. -/
def properties (handles : List (String × String)) : Reader (Option String × Option String) := do
  match (← get).tokens with
  | .anchor a :: .tag t :: _ | .tag t :: .anchor a :: _ =>
    skip
    skip
    return (some a, some (← liftOption (t.expand? handles)))
  | .anchor a :: _ =>
    skip
    return (some a, none)
  | .tag t :: _ =>
    skip
    return (none, some (← liftOption (t.expand? handles)))
  | _ => return (none, none)
where
  liftOption {α : Type} (a? : Option α) : Reader α := fun r => a?.map (·, r)

mutual

/-- A value. `inBlock` tells whether it may be a block, and `loose` whether it may be a sequence
that is not indented. The count bounds the number of steps. -/
def node (handles : List (String × String)) (inBlock loose : Bool) : Nat → Reader Node
  | 0 => failure
  | n + 1 => do
    if let some (.alias name) ← peek then
      skip
      return .alias (← lookup name)
    let (anchor, tag) ← properties handles
    let id? ← match anchor with
      | some name => some <$> number name
      | none => pure none
    let value ← match ← peek with
      | some (.scalar style text) => do
        skip
        pure (Node.scalar style tag text)
      | some .openSequence => do
        skip
        pure (Node.sequence (← flowItems handles true n))
      | some .openMapping => do
        skip
        pure (Node.mapping (← flowPairs handles true n))
      | some .item =>
        if loose then Node.sequence <$> looseItems handles n else bare anchor tag
      | some .blockSequence =>
        if inBlock then do
          skip
          pure (Node.sequence (← blockItems handles n))
        else bare anchor tag
      | some .blockMapping =>
        if inBlock then do
          skip
          pure (Node.mapping (← blockPairs handles n))
        else bare anchor tag
      | _ => bare anchor tag
    return match id? with
      | some id => .anchored id value
      | none => value
where
  /-- The value where nothing is written, if an anchor or a tag stands for it. -/
  bare (anchor tag : Option String) : Reader Node :=
    if anchor.isSome || tag.isSome then return .scalar .plain tag "" else failure

/-- A value, or nothing if one of some tokens comes next. -/
def nodeUnless (handles : List (String × String)) (inBlock loose : Bool) (stops : List Token) :
    Nat → Reader Node
  | 0 => failure
  | n + 1 => do
    if ← isAt stops then return .nothing else node handles inBlock loose n

/-- The items of an indented sequence. -/
def blockItems (handles : List (String × String)) : Nat → Reader (List Node)
  | 0 => failure
  | n + 1 => do
    if ← accept .item then
      let v ← nodeUnless handles true false [.item, .blockEnd] n
      return v :: (← blockItems handles n)
    else
      expect .blockEnd
      return []

/-- The items of a sequence that is not indented. -/
def looseItems (handles : List (String × String)) : Nat → Reader (List Node)
  | 0 => failure
  | n + 1 => do
    if ← accept .item then
      let v ← nodeUnless handles true false [.item, .key, .value, .blockEnd] n
      return v :: (← looseItems handles n)
    else return []

/-- The pairs of an indented mapping. -/
def blockPairs (handles : List (String × String)) : Nat → Reader (List (Node × Node))
  | 0 => failure
  | n + 1 => do
    if ← accept .key then
      let k ← nodeUnless handles true true [.key, .value, .blockEnd] n
      let v ←
        if ← accept .value then nodeUnless handles true true [.key, .value, .blockEnd] n
        else pure .nothing
      return (k, v) :: (← blockPairs handles n)
    else
      expect .blockEnd
      return []

/-- The items of a sequence in brackets. A key makes a mapping of one pair. -/
def flowItems (handles : List (String × String)) (first : Bool) : Nat → Reader (List Node)
  | 0 => failure
  | n + 1 => do
    if ← accept .closeSequence then return []
    if !first then expect .comma
    if ← accept .closeSequence then return []
    let v ← if ← accept .key then singlePair handles n else node handles false false n
    return v :: (← flowItems handles false n)

/-- The pair of a mapping without braces. A token that stands where its key is missing is passed
over. -/
def singlePair (handles : List (String × String)) : Nat → Reader Node
  | 0 => failure
  | n + 1 => do
    let k ←
      if ← isAt [.value, .comma, .closeSequence] then do
        skip
        pure .nothing
      else node handles false false n
    let v ←
      if ← accept .value then nodeUnless handles false false [.comma, .closeSequence] n
      else pure .nothing
    return .mapping [(k, v)]

/-- The pairs of a mapping in braces. -/
def flowPairs (handles : List (String × String)) (first : Bool) :
    Nat → Reader (List (Node × Node))
  | 0 => failure
  | n + 1 => do
    if ← accept .closeMapping then return []
    if !first then expect .comma
    if ← accept .closeMapping then return []
    if ← accept .key then
      let k ← nodeUnless handles false false [.value, .comma, .closeMapping] n
      let v ←
        if ← accept .value then nodeUnless handles false false [.comma, .closeMapping] n
        else pure .nothing
      return (k, v) :: (← flowPairs handles false n)
    else
      let k ← node handles false false n
      return (k, .nothing) :: (← flowPairs handles false n)

end

/-! ### Documents -/

/-- The directives in front of a document: the handles that they define. The version may be told
once, and a handle defined once. -/
def directives : List Token → Option (List (String × String) × List Token) :=
  go false []
where
  go (told : Bool) (handles : List (String × String)) :
      List Token → Option (List (String × String) × List Token)
    | .version major minor :: rest =>
      if told || major != 1 || !(minor == 1 || minor == 2) then none else go true handles rest
    | .tagHandle handle front :: rest =>
      if handles.any (·.1 == handle) then none else go told (handles ++ [(handle, front)]) rest
    | rest => some (handles, rest)

/-- Whether no value follows in a document. -/
def atDocumentEnd : List Token → Bool
  | [] | .version .. :: _ | .tagHandle .. :: _ | .documentStart :: _ | .documentEnd :: _ => true
  | _ => false

end Reader

/-- A document: its value, and the values with anchors by number. -/
structure Document where
  /-- The value. -/
  root : Node
  /-- The values with anchors; of two under one number the later counts. -/
  anchored : List (Nat × Node)

mutual

/-- The values with anchors in a value, in order. -/
def Node.anchors : Node → List (Nat × Node)
  | .scalar .. | .alias _ => []
  | .sequence items => anchorsOfItems items
  | .mapping pairs => anchorsOfPairs pairs
  | .anchored id v => (id, v) :: v.anchors

/-- The values with anchors in items. -/
def anchorsOfItems : List Node → List (Nat × Node)
  | [] => []
  | v :: vs => v.anchors ++ anchorsOfItems vs

/-- The values with anchors in pairs. -/
def anchorsOfPairs : List (Node × Node) → List (Nat × Node)
  | [] => []
  | (k, v) :: ps => k.anchors ++ v.anchors ++ anchorsOfPairs ps

end

namespace Document

/-- The document of a value. -/
def of (root : Node) : Document := ⟨root, root.anchors⟩

/-- The only document of some tokens. A text without any holds nothing. -/
def ofTokens? (tokens : List Token) : Option Document := do
  if tokens.isEmpty then return .of .nothing
  let (handles, rest) ← Reader.directives tokens
  let isMarked := rest.head? == some .documentStart
  if rest.length < tokens.length && !isMarked then none
  let content := if isMarked then rest.drop 1 else rest
  let known := handles ++ Tag.defaults.filter fun d => !handles.any (·.1 == d.1)
  let steps := 4 * tokens.length + 4
  let (root, rest) ←
    if isMarked && Reader.atDocumentEnd content then some (Node.nothing, content)
    else (Reader.node known true false steps ⟨content, []⟩).map fun (v, r) => (v, r.tokens)
  if (rest.dropWhile (· == .documentEnd)).isEmpty then return .of root else none

/-- The only document of a text. -/
def ofText? (s : String) : Option Document := (tokensOf? s).bind ofTokens?

end Document

end Tutor.Yaml
