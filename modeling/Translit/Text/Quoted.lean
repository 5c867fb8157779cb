import Translit.Text.Basic
import Translit.Text.Printable

/-
  Quoted text, as debug diagnostics show it.

  Quoted text stands between double quotes and fits on one
  line.  A double quote and a backslash take a backslash,
  NUL, tab, line feed and carriage return have short names,
  and any other hidden character is written as its code
  point in hexadecimal.

  Key definitions include:
    * `Quoted.escape`
    * `Text.quoted`
-/

------------------------------------------------------------
-- Escapes
------------------------------------------------------------

namespace Translit

namespace Quoted

/- The escape of a character that has no short name. -/
def codePoint
    (c : Char) : Text :=
  "\\u\x7b" ++ Text.hexadecimal c.toNat ++ "\x7d"

/- The form of one character inside quotes. -/
def escape
    (c : Char) : Text :=
  match c with
  | '"' => "\\\""
  | '\\' => "\\\\"
  | '\x00' => "\\0"
  | '\t' => "\\t"
  | '\n' => "\\n"
  | '\r' => "\\r"
  | c => if isShown c then [c] else codePoint c

end Quoted

namespace Text

/- The text in double quotes, with its characters escaped. -/
def quoted
    (t : Text) : Text :=
  '"' :: t.flatMap Quoted.escape ++ ['"']

end Text

end Translit
