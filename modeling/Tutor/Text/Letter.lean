/-!
# Letters, digits and cuts

Small operations on characters that several formats share: comparison of the letters `A` to `Z`
without regard to case, the values of digits, and cutting a text at a character or at a word.
-/

namespace Tutor.Text

/-- Equality up to the case of the letters `A` to `Z`. -/
def sameLetters (a b : List Char) : Bool := a.map Char.toLower == b.map Char.toLower

/-- The text with the letters `A` to `Z` in lower case. -/
def lowered (s : String) : String := String.ofList (s.toList.map Char.toLower)

/-- The value of a decimal digit. -/
def digit? (c : Char) : Option Nat :=
  if '0' ≤ c ∧ c ≤ '9' then some (c.toNat - '0'.toNat) else none

/-- The value of a digit in a base up to thirty-six, letters in either case. -/
def digitIn? (base : Nat) (c : Char) : Option Nat :=
  let v? :=
    if '0' ≤ c ∧ c ≤ '9' then some (c.toNat - '0'.toNat)
    else if 'a' ≤ c ∧ c ≤ 'z' then some (c.toNat - 'a'.toNat + 10)
    else if 'A' ≤ c ∧ c ≤ 'Z' then some (c.toNat - 'A'.toNat + 10)
    else none
  v?.filter (· < base)

/-- The number that digits of a base spell, unless one of them is no digit. No digits spell zero. -/
def numeral? (base : Nat) (cs : List Char) : Option Nat :=
  cs.foldl (fun n? c => do return (← n?) * base + (← digitIn? base c)) (some 0)

/-- The lower-case digit of a value below thirty-six. -/
def digitChar (n : Nat) : Char :=
  if n < 10 then Char.ofNat ('0'.toNat + n) else Char.ofNat ('a'.toNat + (n - 10))

/-- The digits of a number in a base, at least one. -/
def digitsIn (base n : Nat) : List Char :=
  if _h : n < base ∨ base < 2 then [digitChar n]
  else digitsIn base (n / base) ++ [digitChar (n % base)]
termination_by n
decreasing_by exact Nat.div_lt_self (by omega) (by omega)

/-- The decimal digits of a number, filled up with zeros on the left to a width. -/
def padded (width n : Nat) : List Char :=
  let ds := digitsIn 10 n
  List.replicate (width - ds.length) '0' ++ ds

/-! ### Cuts -/

/-- The parts between the characters that satisfy `p`; one part more than there are of those. -/
def splitWhere (p : Char → Bool) : List Char → List (List Char)
  | [] => [[]]
  | c :: cs =>
    if p c then [] :: splitWhere p cs
    else
      match splitWhere p cs with
      | [] => [[c]]
      | part :: parts => (c :: part) :: parts

/-- The text before and after the first character that satisfies `p`, if there is one. -/
def cutAt? (p : Char → Bool) : List Char → Option (List Char × List Char)
  | [] => none
  | c :: cs =>
    if p c then some ([], cs)
    else (cutAt? p cs).map fun (before, after) => (c :: before, after)

/-- Whether a text begins with a word, up to the case of letters. -/
def beginsWith (word cs : List Char) : Bool := sameLetters word (cs.take word.length)

/-- The text before a word's first occurrence, in any case, and the text from there on. -/
def findWord? (word : List Char) : List Char → Option (List Char × List Char)
  | [] => none
  | c :: cs =>
    if beginsWith word (c :: cs) then some ([], c :: cs)
    else (findWord? word cs).map fun (before, found) => (c :: before, found)

/-- What follows a beginning, if the text has that beginning. -/
def after? : List Char → List Char → Option (List Char)
  | [], cs => some cs
  | _ :: _, [] => none
  | p :: ps, c :: cs => if p = c then after? ps cs else none

end Tutor.Text
