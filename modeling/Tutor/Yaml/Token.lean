import Tutor.Yaml.Scalar
import Tutor.Yaml.Tag

/-!
# Tokens

The tokens of a YAML text. Blocks have tokens of their own for where they begin and end, although
no character stands for them.
-/

namespace Tutor.Yaml

/-- A token. -/
inductive Token where
  /-- A directive that names the version. -/
  | version (major minor : Nat)
  /-- A directive that defines a handle. -/
  | tagHandle (handle front : String)
  /-- The beginning of a document. -/
  | documentStart
  /-- The end of a document. -/
  | documentEnd
  /-- The beginning of a sequence that is told by indentation. -/
  | blockSequence
  /-- The beginning of a mapping that is told by indentation. -/
  | blockMapping
  /-- The end of either. -/
  | blockEnd
  /-- The beginning of a sequence in brackets. -/
  | openSequence
  /-- The end of a sequence in brackets. -/
  | closeSequence
  /-- The beginning of a mapping in braces. -/
  | openMapping
  /-- The end of a mapping in braces. -/
  | closeMapping
  /-- An item of a sequence that is told by indentation. -/
  | item
  /-- A comma in a collection. -/
  | comma
  /-- A key comes next. -/
  | key
  /-- A value comes next. -/
  | value
  /-- A reference to an anchor. -/
  | alias (name : String)
  /-- An anchor. -/
  | anchor (name : String)
  /-- A tag. -/
  | tag (t : Tag)
  /-- A scalar. -/
  | scalar (style : Style) (text : String)
deriving DecidableEq, Repr

end Tutor.Yaml
