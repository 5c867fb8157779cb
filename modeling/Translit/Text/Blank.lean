import Translit.Text.Basic

/-
  Blank characters and trimming.

  Three sets of characters count as blank in different
  places.  Patterns and indentation use the six ASCII blanks.
  The end of a line also loses NUL characters.  Diagnostics
  trim every character of the Unicode property White_Space.

  Key definitions include:
    * `isBlank`
    * `isPadding`
    * `isWhiteSpace`
    * `Text.unindented`
    * `Text.stripped`
    * `Text.trimmed`
-/

------------------------------------------------------------
-- Classes
------------------------------------------------------------

namespace Translit

/-
  The ASCII blanks: space, tab, line feed, vertical tab,
  form feed and carriage return.
-/
def isBlank
    (c : Char) : Bool :=
  c == ' ' || c == '\t' || c == '\n' ||
    c == '\x0b' || c == '\x0c' || c == '\r'

/- Characters dropped at the end of a line. -/
def isPadding
    (c : Char) : Bool :=
  isBlank c || c == '\x00'

/- The Unicode property White_Space. -/
def isWhiteSpace
    (c : Char) : Bool :=
  isBlank c || c == '\u0085' || c == '\u00a0' ||
    c == '\u1680' || ('\u2000' ≤ c && c ≤ '\u200a') ||
    c == '\u2028' || c == '\u2029' || c == '\u202f' ||
    c == '\u205f' || c == '\u3000'

end Translit

------------------------------------------------------------
-- Trimming
------------------------------------------------------------

namespace Translit

namespace Text

/- Drop the longest tail whose characters satisfy `p`. -/
def dropTail
    (p : Char → Bool)
    (t : Text) : Text :=
  (t.reverse.dropWhile p).reverse

/- The text without its leading ASCII blanks. -/
def unindented
    (t : Text) : Text :=
  t.dropWhile isBlank

/- The text without padding at its end. -/
def stripped
    (t : Text) : Text :=
  dropTail isPadding t

/- The text without white space at either end. -/
def trimmed
    (t : Text) : Text :=
  dropTail isWhiteSpace (t.dropWhile isWhiteSpace)

end Text

end Translit
