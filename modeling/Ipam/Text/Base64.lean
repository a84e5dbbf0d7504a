/-!
# Base64

Credentials travel in the Base64 alphabet, padded to whole groups of four characters.

* `encodeBase64` — the written form of some bytes.
-/

namespace Ipam.Text

/-- The character of a value below 64. -/
def base64Char (n : Nat) : Char :=
  if n < 26 then Char.ofNat (0x41 + n)
  else if n < 52 then Char.ofNat (0x61 + (n - 26))
  else if n < 62 then Char.ofNat (0x30 + (n - 52))
  else if n = 62 then '+'
  else '/'

/-- The four characters of a group of 24 bits. -/
def base64Group (n : Nat) : List Char :=
  [base64Char ((n >>> 18) % 64), base64Char ((n >>> 12) % 64), base64Char ((n >>> 6) % 64),
    base64Char (n % 64)]

/-- The written form of some bytes. -/
def encodeBase64 : List UInt8 → List Char
  | [] => []
  | [a] => (base64Group (a.toNat <<< 16)).take 2 ++ ['=', '=']
  | [a, b] => (base64Group (a.toNat <<< 16 + b.toNat <<< 8)).take 3 ++ ['=']
  | a :: b :: c :: rest =>
    base64Group (a.toNat <<< 16 + b.toNat <<< 8 + c.toNat) ++ encodeBase64 rest

end Ipam.Text
