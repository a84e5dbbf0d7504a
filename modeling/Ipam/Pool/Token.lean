/-!
# Placeholder tokens

A free row of a pool carries a token that nobody owns, so that the reference of a row is never empty
and no two rows of a pool share one.  Where tokens come from is a parameter of the store.

* `TokenSource` — an endless supply of tokens, numbered in the order in which they are drawn.
* `Token.isWellFormed` — the lower-case text of a version 4 UUID.
* `Token.numbered` — a supply of such texts that never repeats within its first 2⁴⁸ tokens.
-/

namespace Ipam.Pool

/-- A supply of placeholder tokens, by the number of tokens drawn before. -/
abbrev TokenSource := Nat → String

namespace Token

/-- A hexadecimal digit in lower case. -/
def isHexDigit (c : Char) : Bool :=
  ('0' ≤ c && c ≤ '9') || ('a' ≤ c && c ≤ 'f')

/-- What may stand at each place of a token: hexadecimal digits in groups of 8, 4, 4, 4 and 12, with
the version and the variant in front of the third and the fourth group. -/
def layout : List (Char → Bool) :=
  let hex (n : Nat) : List (Char → Bool) := List.replicate n isHexDigit
  let mark (c : Char) : List (Char → Bool) := [fun d => d = c]
  let variant : List (Char → Bool) := [fun d => ['8', '9', 'a', 'b'].contains d]
  hex 8 ++ mark '-' ++ hex 4 ++ mark '-' ++ mark '4' ++ hex 3 ++ mark '-' ++ variant ++ hex 3
    ++ mark '-' ++ hex 12

/-- Whether a text is the lower-case text of a version 4 UUID. -/
def isWellFormed (s : String) : Bool :=
  let cs := s.toList
  cs.length = layout.length && (layout.zip cs).all fun (test, c) => test c

/-- The lowest `width` hexadecimal digits of a number. -/
def hexDigits (width n : Nat) : List Char :=
  (List.range width).map fun i => Nat.digitChar ((n >>> (4 * (width - 1 - i))) % 16)

/-- The token with a given number. -/
def numbered : TokenSource := fun n =>
  String.ofList ("00000000-0000-4000-8000-".toList ++ hexDigits 12 n)

end Token

end Ipam.Pool
