/-!
# Percent encoding

Names that go into a query string are written with every UTF-8 byte escaped, except those of
letters, digits and the four marks `-`, `_`, `.` and `~`.

* `encodePercent` — the written form.
* `decodePercent?` — the text that a written form denotes, when its escapes are well formed and the
  bytes are UTF-8.
-/

namespace Ipam.Text

/-! ## Writing -/

/-- Whether a byte stands for itself. -/
def isUnreserved (b : UInt8) : Bool :=
  (0x41 ≤ b && b ≤ 0x5A) || (0x61 ≤ b && b ≤ 0x7A) || (0x30 ≤ b && b ≤ 0x39)
    || b == 0x2D || b == 0x5F || b == 0x2E || b == 0x7E

/-- The hexadecimal digit of a value below sixteen, in upper case. -/
def hexDigit (n : Nat) : Char :=
  if n < 10 then Char.ofNat (0x30 + n) else Char.ofNat (0x41 + (n - 10))

/-- One byte in written form. -/
def encodeByte (b : UInt8) : List Char :=
  if isUnreserved b then
    [Char.ofNat b.toNat]
  else
    ['%', hexDigit (b.toNat / 16), hexDigit (b.toNat % 16)]

/-- The written form of a text. -/
def encodePercent (s : String) : List Char :=
  s.toUTF8.toList.flatMap encodeByte

/-! ## Reading -/

/-- The value of a hexadecimal digit of either case. -/
def hexValue? (c : Char) : Option Nat :=
  if '0' ≤ c ∧ c ≤ '9' then some (c.toNat - 0x30)
  else if 'A' ≤ c ∧ c ≤ 'F' then some (c.toNat - 0x41 + 10)
  else if 'a' ≤ c ∧ c ≤ 'f' then some (c.toNat - 0x61 + 10)
  else none

/-- The bytes that a written form denotes.  A percent sign must be followed by two hexadecimal
digits, and any other character must be ASCII. -/
def decodeBytes? : List Char → Option (List UInt8)
  | [] => some []
  | '%' :: a :: b :: rest => do
    let high ← hexValue? a
    let low ← hexValue? b
    return UInt8.ofNat (16 * high + low) :: (← decodeBytes? rest)
  | c :: rest => do
    if c = '%' ∨ 0x80 ≤ c.toNat then none
    return UInt8.ofNat c.toNat :: (← decodeBytes? rest)

/-- The text that a written form denotes. -/
def decodePercent? (cs : List Char) : Option String :=
  (decodeBytes? cs).bind fun bytes => String.fromUTF8? (ByteArray.mk bytes.toArray)

end Ipam.Text
