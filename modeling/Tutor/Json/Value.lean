import Tutor.Json.Literal

/-!
# Values to be written

A JSON value in the making, and its text, without any blanks.
-/

namespace Tutor.Json

/-- A value to be written. -/
inductive Value where
  /-- The null literal. -/
  | null
  /-- A truth value. -/
  | bool (b : Bool)
  /-- A number literal, as it is to be written. -/
  | number (literal : String)
  /-- A text. -/
  | text (s : String)
  /-- An array. -/
  | array (items : List Value)
  /-- An object. -/
  | object (members : List (String × Value))

namespace Value

/-- A text, or null. -/
def textOrNull : Option String → Value
  | some s => .text s
  | none => .null

mutual

/-- The characters of a value's text. -/
def chars : Value → List Char
  | null => "null".toList
  | bool true => "true".toList
  | bool false => "false".toList
  | number literal => literal.toList
  | text s => quoted s
  | array items => '[' :: charsOfItems items ++ [']']
  | object members => '\x7b' :: charsOfMembers members ++ ['\x7d']

/-- The items, with commas between them. -/
def charsOfItems : List Value → List Char
  | [] => []
  | [v] => v.chars
  | v :: vs => v.chars ++ ',' :: charsOfItems vs

/-- The members, with commas between them. -/
def charsOfMembers : List (String × Value) → List Char
  | [] => []
  | [(k, v)] => quoted k ++ ':' :: v.chars
  | (k, v) :: ms => quoted k ++ ':' :: v.chars ++ ',' :: charsOfMembers ms

end

/-- The text of a value. -/
def render (v : Value) : String := String.ofList v.chars

end Value

end Tutor.Json
