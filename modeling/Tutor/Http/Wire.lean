import Tutor.Http.Message
import Tutor.Http.Status

/-!
# Messages as bytes

How messages travel: a line that begins the message, the fields of its header, an empty line, and
the body, whose length the header tells. Every connection carries one exchange.
-/

namespace Tutor.Http

open Tutor.Text Tutor.Url

/-! ### Heads -/

/-- The first line and what follows it. -/
def cutLine? : List UInt8 → Option (List UInt8 × List UInt8)
  | 13 :: 10 :: rest => some ([], rest)
  | b :: rest => (cutLine? rest).map fun (l, r) => (b :: l, r)
  | [] => none

/-- The lines up to the first that is empty, and what follows it. The count bounds their number. -/
def headLines? : Nat → List UInt8 → Option (List (List UInt8) × List UInt8)
  | 0, _ => none
  | n + 1, bs => do
    let (line, rest) ← cutLine? bs
    if line.isEmpty then return ([], rest)
    let (lines, rest) ← headLines? n rest
    return (line :: lines, rest)

/-- A blank or a tab. -/
def isSpaceByte (b : UInt8) : Bool := b == 32 || b == 9

/-- A value without blanks around it. -/
def trimBytes (bs : List UInt8) : List UInt8 :=
  ((bs.dropWhile isSpaceByte).reverse.dropWhile isSpaceByte).reverse

/-- A line of a header. -/
def fieldOf? (line : List UInt8) : Option Field :=
  let name := line.takeWhile (· != 58)
  match line.drop name.length with
  | _ :: value => some ⟨lowered (lossyText name), trimBytes value⟩
  | [] => none

/-- The beginning of a message: the words of its first line, and its header. -/
structure Head where
  /-- The words of the first line. -/
  words : List String
  /-- The header. -/
  header : Header

/-- The most lines that a head may have. -/
def mostLines : Nat := 100

/-- The head of a message and what follows it. -/
def head? (bs : List UInt8) : Option (Head × List UInt8) := do
  let (lines, rest) ← headLines? (mostLines + 1) bs
  match lines with
  | first :: fields =>
    let words := (splitWhere (· == ' ') (lossyText first).toList).map String.ofList
    return (⟨words, ← fields.mapM fieldOf?⟩, rest)
  | [] => none

/-! ### Bodies -/

/-- How the length of a body is told. -/
inductive BodyLength where
  /-- By a number of bytes. -/
  | exactly (n : Nat)
  /-- By chunks that tell their own. -/
  | chunked
  /-- By the end of the connection. -/
  | untilClose
deriving DecidableEq, Repr

/-- The text of a field. -/
def Header.text? (h : Header) (name : String) : Option String := (h.first? name).map lossyText

/-- How the length of the body behind a header is told. -/
def Header.bodyLength (h : Header) : BodyLength :=
  if (h.text? "transfer-encoding").any (fun t => sameLetters t.toList "chunked".toList) then
    .chunked
  else
    match (h.text? "content-length").bind (fun t => numeral? 10 t.toList) with
    | some n => .exactly n
    | none => .untilClose

/-- The bytes of chunks, and whether the last of them is there. The count bounds their number. -/
def chunks : Nat → List UInt8 → List UInt8 × Bool
  | 0, _ => ([], false)
  | n + 1, bs =>
    match cutLine? bs with
    | none => ([], false)
    | some (line, rest) =>
      match numeral? 16 ((lossyText line).toList.takeWhile fun c => c != ';' && c != ' ') with
      | none => ([], false)
      | some 0 => ([], true)
      | some size =>
        let r := chunks n (rest.drop (size + 2))
        (rest.take size ++ r.1, r.2 && size + 2 ≤ rest.length)

/-- A body among the bytes that arrived behind its header, and whether it is whole. -/
def bodyOf (h : Header) (bs : List UInt8) : List UInt8 × Bool :=
  match h.bodyLength with
  | .exactly n => (bs.take n, n ≤ bs.length)
  | .chunked => chunks (bs.length + 1) bs
  | .untilClose => (bs, true)

/-! ### Messages -/

/-- A line of text. -/
def line (s : String) : List UInt8 := bytesOf s ++ [13, 10]

/-- The lines of a header. -/
def headerLines (h : Header) : List UInt8 :=
  h.flatMap fun f => bytesOf (f.name ++ ": ") ++ f.value ++ [13, 10]

/-- The fields that tell the length of a body and that the connection ends behind it. -/
def lengthFields (body : List UInt8) : Header :=
  [field "content-length" (toString body.length), field "connection" "close"]

/-- The host and the port that a request goes to. -/
def hostField (u : Url) : String :=
  u.hostText?.getD "" ++ (match u.port with
    | some p => ":" ++ toString p
    | none => "")

/-- What a request asks for. -/
def targetOf (u : Url) : String := String.ofList (u.pathChars ++ marked '?' u.query)

/-- A request as bytes. -/
def Request.toBytes (r : Request) : List UInt8 :=
  let body := r.body.getD []
  line (r.method.name ++ " " ++ targetOf r.url ++ " HTTP/1.1") ++
    line ("host: " ++ hostField r.url) ++ headerLines (r.header ++ lengthFields body) ++
    line "" ++ body

/-- An answer as bytes. -/
def Response.toBytes (r : Response) : List UInt8 :=
  line ("HTTP/1.1 " ++ statusText r.status) ++ headerLines (r.header ++ lengthFields r.body) ++
    line "" ++ r.body

/-- The answer that all bytes of a connection make. -/
def Response.ofBytes? (bs : List UInt8) : Option Response := do
  let (h, rest) ← head? bs
  let status ← (h.words[1]?).bind fun w => numeral? 10 w.toList
  let (body, isWhole) := bodyOf h.header rest
  return { status, header := h.header, body, isWhole }

end Tutor.Http
