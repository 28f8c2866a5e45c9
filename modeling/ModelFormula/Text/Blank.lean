/-!
# Blank characters

Two sets of characters that are dropped around a number.

* `Text.isWhiteSpace` — the Unicode property `White_Space`.
* `Text.isBlank` — that property and the four information separators.
* `Text.trim` — a text without such characters at its ends.
-/

set_option autoImplicit false

namespace ModelFormula.Text

/-- The Unicode property `White_Space`. -/
def isWhiteSpace (c : Char) : Bool :=
  let n := c.toNat
  (0x9 ≤ n && n ≤ 0xD) || n == 0x20 || n == 0x85 || n == 0xA0 || n == 0x1680 ||
    (0x2000 ≤ n && n ≤ 0x200A) || n == 0x2028 || n == 0x2029 || n == 0x202F || n == 0x205F ||
    n == 0x3000

/-- White space, or one of the information separators `U+001C` to `U+001F`. -/
def isBlank (c : Char) : Bool :=
  isWhiteSpace c || (0x1C ≤ c.toNat && c.toNat ≤ 0x1F)

/-- Drops the characters of a set at both ends. -/
def trim (inSet : Char → Bool) (cs : List Char) : List Char :=
  ((cs.dropWhile inSet).reverse.dropWhile inSet).reverse

end ModelFormula.Text
