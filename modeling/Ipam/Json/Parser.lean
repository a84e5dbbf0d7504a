import Ipam.Json
import Ipam.Text.Decimal
import Ipam.Text.Percent

/-!
# Reading JSON

The strict grammar of JSON: no comments, no trailing commas, no leading zeros or plus signs, no raw
control characters in strings, and nothing but blanks after the value.  Nesting may be of any depth.

* `Json.parse?` — the value of a text.

A string whose escapes leave half of a surrogate pair alone is accepted by the grammar; its value is
`none`, and only a reader that wants the characters refuses it.
-/

namespace Ipam.Json

open Text (digit? isDigit hexValue?)

/-! ## Blanks and numbers -/

/-- The four characters that may stand between the tokens of a JSON text. -/
def isSeparator (c : Char) : Bool :=
  c = ' ' || c = '\t' || c = '\n' || c = '\r'

/-- The text from its first character that is not a separator on. -/
def skip (cs : List Char) : List Char :=
  cs.dropWhile isSeparator

/-- A non-empty run of digits and the text after it. -/
def takeDigits? (cs : List Char) : Option (List Char × List Char) :=
  match cs.takeWhile isDigit with
  | [] => none
  | ds => some (ds, cs.dropWhile isDigit)

/-- The integer part of a number: a single zero or digits that do not start with one. -/
def takeWhole? : List Char → Option (List Char × List Char)
  | '0' :: rest => some (['0'], rest)
  | cs => takeDigits? cs

/-- The fraction of a number, when there is one. -/
def takeFraction? : List Char → Option (List Char × List Char)
  | '.' :: rest => (takeDigits? rest).map fun (ds, rest) => ('.' :: ds, rest)
  | cs => some ([], cs)

/-- The sign of an exponent, when there is one. -/
def takeExponentSign : List Char → List Char × List Char
  | '+' :: rest => (['+'], rest)
  | '-' :: rest => (['-'], rest)
  | cs => ([], cs)

/-- The exponent of a number, when there is one. -/
def takeExponent? : List Char → Option (List Char × List Char)
  | c :: rest =>
    if c = 'e' ∨ c = 'E' then
      let (sign, rest) := takeExponentSign rest
      (takeDigits? rest).map fun (ds, rest) => (c :: sign ++ ds, rest)
    else
      some ([], c :: rest)
  | [] => some ([], [])

/-- The spelling of a number without its sign. -/
def takeUnsigned? (cs : List Char) : Option (List Char × List Char) := do
  let (whole, cs) ← takeWhole? cs
  let (fraction, cs) ← takeFraction? cs
  let (exponent, cs) ← takeExponent? cs
  return (whole ++ fraction ++ exponent, cs)

/-- The spelling of a number. -/
def takeNumber? : List Char → Option (List Char × List Char)
  | '-' :: rest => (takeUnsigned? rest).map fun (ds, rest) => ('-' :: ds, rest)
  | cs => takeUnsigned? cs

/-! ## Strings -/

/-- The UTF-16 unit of four hexadecimal digits. -/
def unit? (a b c d : Char) : Option Nat := do
  return ((((← hexValue? a) * 16 + (← hexValue? b)) * 16 + (← hexValue? c)) * 16 + (← hexValue? d))

/-- Whether a unit is the first half of a pair. -/
def isHighHalf (n : Nat) : Bool :=
  0xD800 ≤ n && n < 0xDC00

/-- Whether a unit is the second half of a pair. -/
def isLowHalf (n : Nat) : Bool :=
  0xDC00 ≤ n && n < 0xE000

/-- The character of a pair of halves. -/
def joinHalves (high low : Nat) : Char :=
  Char.ofNat (0x10000 + (high - 0xD800) * 0x400 + (low - 0xDC00))

/-- The character of an escape of one letter. -/
def simpleEscape? : Char → Option Char
  | '"' => some '"'
  | '\\' => some '\\'
  | '/' => some '/'
  | 'b' => some '\x08'
  | 'f' => some '\x0c'
  | 'n' => some '\n'
  | 'r' => some '\r'
  | 't' => some '\t'
  | _ => none

/-- What one character or escape of a string contributes. -/
inductive Piece where
  /-- A character. -/
  | char (c : Char)
  /-- A UTF-16 unit, given by its number. -/
  | unit (n : Nat)

/-- The pieces of a string from the character after its opening quote on, and the text after it. -/
def takePieces? : List Char → Option (List Piece × List Char)
  | [] => none
  | '"' :: rest => some ([], rest)
  | '\\' :: 'u' :: a :: b :: c :: d :: rest => do
    let unit ← unit? a b c d
    let (pieces, rest) ← takePieces? rest
    return (.unit unit :: pieces, rest)
  | '\\' :: c :: rest => do
    let c ← simpleEscape? c
    let (pieces, rest) ← takePieces? rest
    return (.char c :: pieces, rest)
  | c :: rest => do
    if c.toNat < 0x20 then none
    let (pieces, rest) ← takePieces? rest
    return (.char c :: pieces, rest)

/-- The characters of some pieces.  `pending` is a first half that waits for its second one; there
are none when a half stands alone. -/
def joinPieces? : (pending : Option Nat) → List Piece → Option (List Char)
  | none, [] => some []
  | some _, [] => none
  | none, .char c :: rest => (joinPieces? none rest).map (c :: ·)
  | some _, .char _ :: _ => none
  | none, .unit n :: rest =>
    if isHighHalf n then joinPieces? (some n) rest
    else if isLowHalf n then none
    else (joinPieces? none rest).map (Char.ofNat n :: ·)
  | some high, .unit n :: rest =>
    if isLowHalf n then (joinPieces? none rest).map (joinHalves high n :: ·) else none

/-- Reads a string with its quotes. -/
def takeString? : List Char → Option (Json.Text × List Char)
  | '"' :: rest =>
    (takePieces? rest).map fun (pieces, rest) =>
      ((joinPieces? none pieces).map String.ofList, rest)
  | _ => none

/-! ## Values -/

mutual

/-- Reads a value.  `fuel` bounds the nesting and the number of items together. -/
def takeValue? (fuel : Nat) (cs : List Char) : Option (Json × List Char) :=
  match fuel with
  | 0 => none
  | fuel + 1 =>
    match cs with
    | 'n' :: 'u' :: 'l' :: 'l' :: rest => some (.null, rest)
    | 't' :: 'r' :: 'u' :: 'e' :: rest => some (.bool true, rest)
    | 'f' :: 'a' :: 'l' :: 's' :: 'e' :: rest => some (.bool false, rest)
    | '"' :: rest =>
      (takeString? ('"' :: rest)).map fun (text, rest) => (.string text, rest)
    | '[' :: rest =>
      match skip rest with
      | ']' :: rest => some (.array [], rest)
      | rest => (takeItems? fuel rest).map fun (items, rest) => (.array items, rest)
    | '\x7b' :: rest =>
      match skip rest with
      | '\x7d' :: rest => some (.object [], rest)
      | rest => (takeMembers? fuel rest).map fun (members, rest) => (.object members, rest)
    | cs => (takeNumber? cs).map fun (ds, rest) => (.number (String.ofList ds), rest)

/-- Reads the items of an array up to its closing bracket. -/
def takeItems? (fuel : Nat) (cs : List Char) : Option (List Json × List Char) :=
  match fuel with
  | 0 => none
  | fuel + 1 => do
    let (item, rest) ← takeValue? fuel cs
    match skip rest with
    | ']' :: rest => return ([item], rest)
    | ',' :: rest =>
      let (items, rest) ← takeItems? fuel (skip rest)
      return (item :: items, rest)
    | _ => none

/-- Reads the members of an object up to its closing brace. -/
def takeMembers? (fuel : Nat) (cs : List Char) :
    Option (List (Json.Text × Json) × List Char) :=
  match fuel with
  | 0 => none
  | fuel + 1 => do
    let (name, rest) ← takeString? cs
    match skip rest with
    | ':' :: rest =>
      let (value, rest) ← takeValue? fuel (skip rest)
      match skip rest with
      | '\x7d' :: rest => return ([(name, value)], rest)
      | ',' :: rest =>
        let (members, rest) ← takeMembers? fuel (skip rest)
        return ((name, value) :: members, rest)
      | _ => none
    | _ => none

end

/-- The value of a JSON text.  Every step of the reader takes at least one character or descends
into an array that it has just opened, so twice the length is fuel enough. -/
def parse? (text : String) : Option Json := do
  let cs := text.toList
  let (value, rest) ← takeValue? (2 * cs.length + 2) (skip cs)
  if skip rest = [] then some value else none

end Ipam.Json
