import Tutor.Idna.Domain
import Tutor.Url.Percent

/-!
# Hosts

The host of a URL is a domain name in ASCII, an address of version 4 or 6, or, where the scheme has
no say in it, any text. A name whose last label is a number has to be an address of version 4.
-/

namespace Tutor.Url

open Tutor.Text

/-- Why a text is no URL. -/
inductive Problem where
  /-- There is no scheme, and nothing to be relative to. -/
  | relativeWithoutBase
  /-- The host is missing. -/
  | emptyHost
  /-- The port is no number of 16 bits. -/
  | invalidPort
  /-- The host looks like an address of version 4 and is none. -/
  | invalidIpv4
  /-- The host looks like an address of version 6 and is none. -/
  | invalidIpv6
  /-- The domain name holds what must not stand in one. -/
  | invalidDomainName
  /-- The host holds a character that must not stand in one. -/
  | invalidDomainCharacter
  /-- The text is relative, and the base cannot be one. -/
  | opaqueBase
deriving DecidableEq, Repr

/-- The problem in words. -/
def Problem.message : Problem → String
  | relativeWithoutBase => "relative URL without a base"
  | emptyHost => "empty host"
  | invalidPort => "invalid port number"
  | invalidIpv4 => "invalid IPv4 address"
  | invalidIpv6 => "invalid IPv6 address"
  | invalidDomainName => "invalid international domain name"
  | invalidDomainCharacter => "invalid domain character"
  | opaqueBase => "relative URL with a cannot-be-a-base base"

/-- A host. -/
inductive Host where
  /-- No host, where the scheme allows that. -/
  | empty
  /-- A domain name, or what the scheme takes for one. -/
  | name (text : String)
  /-- An address of version 4. -/
  | ipv4 (address : Nat)
  /-- An address of version 6, as eight pieces of 16 bits. -/
  | ipv6 (pieces : List Nat)
deriving DecidableEq, Repr

namespace Host

/-! ### Addresses of version 4 -/

/-- A number of an address: decimal, octal after a zero, or hexadecimal. -/
def numberOf? (cs : List Char) : Option Nat :=
  match cs with
  | [] => none
  | '0' :: 'x' :: rest | '0' :: 'X' :: rest => numeral? 16 rest
  | '0' :: d :: rest => numeral? 8 (d :: rest)
  | cs => numeral? 10 cs

/-- The parts of a name between dots; a dot at the end counts for nothing. -/
def dottedParts (cs : List Char) : List (List Char) :=
  let parts := splitWhere (· == '.') cs
  if 1 < parts.length && parts.getLast? == some [] then parts.dropLast else parts

/-- Whether the last label of a name is a number. -/
def endsInNumber (cs : List Char) : Bool :=
  match (dottedParts cs).getLast? with
  | some last => (!last.isEmpty && last.all Char.isDigit) || (numberOf? last).isSome
  | none => false

/-- The address that a name stands for. Each number but the last is one byte, and the last fills
the bytes that are left. -/
def ipv4? (cs : List Char) : Option Nat := do
  let parts := dottedParts cs
  if 4 < parts.length then none
  let numbers ← parts.mapM numberOf?
  let last ← numbers.getLast?
  let front := numbers.dropLast
  if front.all (· ≤ 255) && last < Nat.pow 256 (4 - front.length) then
    some (front.foldl (fun n b => n * 256 + b) 0 * Nat.pow 256 (4 - front.length) + last)
  else none

/-- The four bytes of an address, with dots between them. -/
def ipv4Text (n : Nat) : List Char :=
  joinWith ['.'] ([n / 16777216 % 256, n / 65536 % 256, n / 256 % 256, n % 256].map (digitsIn 10))

/-! ### Addresses of version 6 -/

/-- A byte in plain decimal digits, without zeros in front. -/
def plainByte? (cs : List Char) : Option Nat :=
  match cs with
  | [] => none
  | '0' :: _ :: _ => none
  | cs => if cs.length ≤ 3 then (numeral? 10 cs).filter (· ≤ 255) else none

/-- A group of up to four hexadecimal digits. -/
def pieceOf? (cs : List Char) : Option Nat :=
  if cs.isEmpty || 4 < cs.length then none else numeral? 16 cs

/-- The pieces of groups with colons between them. The last group may be an address of version 4,
where `dotted` says so. -/
def piecesOf? (dotted : Bool) (cs : List Char) : Option (List Nat) :=
  if cs.isEmpty then some []
  else
    let groups := splitWhere (· == ':') cs
    match groups.getLast? with
    | some last =>
      if dotted && last.contains '.' then do
        let front ← groups.dropLast.mapM pieceOf?
        match ← (splitWhere (· == '.') last).mapM plainByte? with
        | [a, b, c, d] => return front ++ [a * 256 + b, c * 256 + d]
        | _ => none
      else groups.mapM pieceOf?
    | none => none

/-- The text before and after the first double colon. -/
def cutDoubleColon? : List Char → Option (List Char × List Char)
  | ':' :: ':' :: rest => some ([], rest)
  | c :: rest => (cutDoubleColon? rest).map fun (before, after) => (c :: before, after)
  | [] => none

/-- The pieces of an address; a double colon stands for one piece of zero or more. -/
def ipv6? (cs : List Char) : Option (List Nat) :=
  match cutDoubleColon? cs with
  | none => (piecesOf? true cs).filter (·.length == 8)
  | some (before, after) => do
    let front ← piecesOf? false before
    let back ← piecesOf? true after
    if front.length + back.length ≤ 7 then
      some (front ++ List.replicate (8 - front.length - back.length) 0 ++ back)
    else none

/-- The length of the run of zeros at the front. -/
def zeros (ps : List Nat) : Nat := (ps.takeWhile (· == 0)).length

/-- Where the first of the longest runs of zeros begins, and its length. -/
def longestZeros : List Nat → Nat × Nat
  | [] => (0, 0)
  | p :: ps =>
    let here := zeros (p :: ps)
    let (start, length) := longestZeros ps
    if length ≤ here then (0, here) else (start + 1, length)

/-- Groups with colons between them. -/
def groupsText (ps : List Nat) : List Char := joinWith [':'] (ps.map (digitsIn 16))

/-- The groups of an address, with a double colon for the first of the longest runs of zeros. -/
def ipv6Text (ps : List Nat) : List Char :=
  let (start, length) := longestZeros ps
  if length < 2 then groupsText ps
  else groupsText (ps.take start) ++ [':', ':'] ++ groupsText (ps.drop (start + length))

/-! ### Reading and writing -/

/-- A host in brackets: an address of version 6. -/
def ofBracketed (rest : List Char) : Except Problem Host :=
  match rest.getLast? with
  | some ']' =>
    match ipv6? rest.dropLast with
    | some ps => .ok (.ipv6 ps)
    | none => .error .invalidIpv6
  | _ => .error .invalidIpv6

/-- The host of a scheme that resolves it. -/
def ofChars : List Char → Except Problem Host
  | '[' :: rest => ofBracketed rest
  | cs => do
    let some text := (decode (decodeBytes cs)).mapM id | .error .invalidDomainName
    let some ascii := Idna.toAscii? text | .error .invalidDomainName
    if ascii.isEmpty then .error .emptyHost
    else if endsInNumber ascii then
      match ipv4? ascii with
      | some n => .ok (.ipv4 n)
      | none => .error .invalidIpv4
    else .ok (.name (String.ofList ascii))

/-- The characters that no host may hold. -/
def isForbidden (c : Char) : Bool :=
  c == '\x00' || c == '\t' || c == '\n' || c == '\r' || " #/:<>?@[\\]^|".toList.contains c

/-- The host of a scheme that takes it as it stands. -/
def opaqueOfChars : List Char → Except Problem Host
  | [] => .ok .empty
  | '[' :: rest => ofBracketed rest
  | cs =>
    if cs.any isForbidden then .error .invalidDomainCharacter
    else .ok (.name (String.ofList (Url.encode inOpaque cs)))

/-- The characters of a host. -/
def chars : Host → List Char
  | empty => []
  | name text => text.toList
  | ipv4 n => ipv4Text n
  | ipv6 ps => '[' :: ipv6Text ps ++ [']']

/-- The host as text, unless it is empty. -/
def text? : Host → Option String
  | empty => none
  | h => some (String.ofList h.chars)

end Host

end Tutor.Url
