/-
  Text as a list of characters.

  Everything the library reads and writes is a list of
  characters, so that scanning is recursion on the data.
  Strings appear only at the edges.

  Key definitions include:
    * `Text`
    * `Text.replaceAll`
    * `Text.decimal`
    * `Text.utf8`
    * `Text.ofUtf8?`
-/

------------------------------------------------------------
-- Text
------------------------------------------------------------

namespace Translit

/- A text is a list of characters. -/
abbrev Text :=
  List Char

/- String literals stand for their characters. -/
instance : Coe String Text where
  coe := String.toList

end Translit

------------------------------------------------------------
-- Replacement
------------------------------------------------------------

namespace Translit

namespace Text

/-
  Replace every occurrence of `target` by `new`, after
  dropping the first `skip` characters.  Dropping is how the
  rest of an occurrence is passed over, so occurrences are
  found from left to right and never overlap.
-/
def replaceFrom
    (target new : Text) :
    Nat → Text → Text
| _, [] => []
| skip + 1, _ :: rest => replaceFrom target new skip rest
| 0, c :: rest =>
    if target.isPrefixOf (c :: rest) then
      new ++ replaceFrom target new (target.length - 1) rest
    else
      c :: replaceFrom target new 0 rest

/-
  Replace every occurrence of a non-empty `target` by `new`,
  from left to right.
-/
def replaceAll
    (target new : Text)
    (t : Text) : Text :=
  replaceFrom target new 0 t

end Text

end Translit

------------------------------------------------------------
-- Numbers
------------------------------------------------------------

namespace Translit

namespace Text

/- The decimal digits of a number, without leading zeros. -/
def decimal
    (n : Nat) : Text :=
  Nat.toDigits 10 n

/- The lower-case hexadecimal digits of a number. -/
def hexadecimal
    (n : Nat) : Text :=
  Nat.toDigits 16 n

end Text

end Translit

------------------------------------------------------------
-- Bytes
------------------------------------------------------------

namespace Translit

/- Stored data, one byte at a time. -/
abbrev Bytes :=
  List UInt8

namespace Text

/- The UTF-8 form of a text. -/
def utf8
    (t : Text) : Bytes :=
  t.flatMap String.utf8EncodeChar

/- The number of bytes in the UTF-8 form of a text. -/
def utf8Length
    (t : Text) : Nat :=
  t.utf8.length

/- Read bytes as UTF-8, if they are well formed. -/
def ofUtf8?
    (bytes : Bytes) : Option Text :=
  (String.fromUTF8? ⟨bytes.toArray⟩).map String.toList

end Text

end Translit
