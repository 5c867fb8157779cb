import Mathlib.Data.List.Basic
import Translit.Text.Quoted

/-
  Quoted text can be read back and stays on its line.

  A reader walks through quoted text character by character.
  It stops at the first quote that is not escaped and gives
  the text and whatever follows that quote.  So the end of a
  quoted text is found in any surroundings, and two texts
  that are quoted alike are the same.  What is written
  between quotes never holds a control character.

  Key definitions include:
    * `Quoted.readDigits`
    * `Quoted.read?`
    * `Text.unquote?`

  Main declarations:
    * `Text.exists_of_mem_toDigits`
    * `Quoted.readDigits_hexadecimal`
    * `Quoted.read?_escape`
    * `Text.unquote?_quoted`
    * `Text.not_isControl_of_mem_quoted`
-/

------------------------------------------------------------
-- Digits
------------------------------------------------------------

namespace Translit

namespace Text

/- The digits of a number are digits of its base. -/
theorem exists_of_mem_toDigits
    {base n : Nat}
    {c : Char}
    (hBase : 1 < base)
    (hDigit : c ∈ Nat.toDigits base n) :
    ∃ d < base, c = Nat.digitChar d := by
  induction n using Nat.strongRecOn with
  | ind n ih =>
      rw [Nat.toDigits_eq_if hBase] at hDigit
      split at hDigit
      · next hSmall =>
          exact ⟨n, hSmall, List.mem_singleton.mp hDigit⟩
      · next hLarge =>
          have hLess : n / base < n := by
            apply Nat.div_lt_self _ hBase
            omega
          rcases List.mem_append.mp hDigit with hFront | hLast
          · exact ih (n / base) hLess hFront
          · exact
              ⟨n % base, Nat.mod_lt n (by omega),
                List.mem_singleton.mp hLast⟩

theorem isDigit_of_mem_decimal
    {n : Nat}
    {c : Char}
    (hDigit : c ∈ decimal n) :
    c.isDigit :=
  Nat.isDigit_of_mem_toDigits (by omega) (by omega) hDigit

/- Digits of numbers are no control characters. -/
theorem not_isControl_digitChar
    {d : Nat}
    (hSmall : d < 16) :
    isControl (Nat.digitChar d) = false := by
  have hAll :
      ∀ e < 16, isControl (Nat.digitChar e) = false := by
    decide
  exact hAll d hSmall

theorem not_isControl_of_mem_decimal
    {n : Nat}
    {c : Char}
    (hDigit : c ∈ decimal n) :
    isControl c = false := by
  rcases exists_of_mem_toDigits (by omega) hDigit with
    ⟨d, hSmall, rfl⟩
  exact not_isControl_digitChar (by omega)

theorem not_isControl_of_mem_hexadecimal
    {n : Nat}
    {c : Char}
    (hDigit : c ∈ hexadecimal n) :
    isControl c = false := by
  rcases exists_of_mem_toDigits (by omega) hDigit with
    ⟨d, hSmall, rfl⟩
  exact not_isControl_digitChar hSmall

end Text

namespace Quoted

/- The value of a hexadecimal digit. -/
def digitValue
    (c : Char) : Nat :=
  if c.toNat < 'a'.toNat then
    c.toNat - '0'.toNat
  else
    c.toNat - 'a'.toNat + 10

/- The value of digits behind others of value `n`. -/
def readDigits
    (n : Nat)
    (digits : Text) : Nat :=
  digits.foldl (fun value c => 16 * value + digitValue c) n

theorem digitValue_digitChar
    {d : Nat}
    (hSmall : d < 16) :
    digitValue (Nat.digitChar d) = d := by
  have hAll :
      ∀ e < 16, digitValue (Nat.digitChar e) = e := by
    decide
  exact hAll d hSmall

/- Numbers are read as they are written. -/
theorem readDigits_hexadecimal
    (n : Nat) :
    readDigits 0 (Text.hexadecimal n) = n := by
  induction n using Nat.strongRecOn with
  | ind n ih =>
      rw [Text.hexadecimal, Nat.toDigits_eq_if (by omega)]
      split
      · next hSmall =>
          simp [readDigits, digitValue_digitChar hSmall]
      · next hLarge =>
          have hFront :
              readDigits 0 (Nat.toDigits 16 (n / 16)) =
                n / 16 :=
            ih (n / 16) (by omega)
          have hLast :
              digitValue (Nat.digitChar (n % 16)) = n % 16 :=
            digitValue_digitChar (by omega)
          rw [readDigits, List.foldl_append]
          rw [readDigits] at hFront
          rw [hFront, List.foldl_cons, List.foldl_nil, hLast]
          omega

/- A digit does not end the number. -/
theorem digitChar_ne_brace
    {d : Nat}
    (hSmall : d < 16) :
    Nat.digitChar d ≠ '\x7d' := by
  have hAll : ∀ e < 16, Nat.digitChar e ≠ '\x7d' := by
    decide
  exact hAll d hSmall

end Quoted

end Translit

------------------------------------------------------------
-- Reading
------------------------------------------------------------

namespace Translit

namespace Quoted

/-
  Where a reader is: between characters, behind a backslash,
  behind the letter of a code point, or inside the number of
  a code point, with its value so far.
-/
inductive Place
| text
| escape
| letter
| code (value : Nat)
deriving DecidableEq

/- The character that a short escape stands for. -/
def named? : Char → Option Char
| '"' => some '"'
| '\\' => some '\\'
| '0' => some '\x00'
| 't' => some '\t'
| 'n' => some '\n'
| 'r' => some '\r'
| _ => none

/- Put a character in front of what is read after it. -/
def prepend
    (c : Char) :
    Option (Text × Text) → Option (Text × Text)
| none => none
| some (t, rest) => some (c :: t, rest)

/-
  Read up to the quote that ends a quoted text.  The result
  is the text and what follows the quote.
-/
def read? : Place → Text → Option (Text × Text)
| _, [] => none
| .text, c :: rest =>
    if c = '"' then some ([], rest)
    else if c = '\\' then read? .escape rest
    else prepend c (read? .text rest)
| .escape, c :: rest =>
    if c = 'u' then
      read? .letter rest
    else
      match named? c with
      | some d => prepend d (read? .text rest)
      | none => none
| .letter, c :: rest =>
    if c = '\x7b' then read? (.code 0) rest else none
| .code value, c :: rest =>
    if c = '\x7d' then
      prepend (Char.ofNat value) (read? .text rest)
    else
      read? (.code (16 * value + digitValue c)) rest

/- The number of a code point is read digit by digit. -/
theorem read?_code
    {digits : Text}
    (value : Nat)
    (rest : Text)
    (hDigits : '\x7d' ∉ digits) :
    read? (.code value) (digits ++ '\x7d' :: rest) =
      prepend (Char.ofNat (readDigits value digits))
        (read? .text rest) := by
  induction digits generalizing value with
  | nil => simp [read?, readDigits]
  | cons c digits ih =>
      rw [List.mem_cons, not_or] at hDigits
      rw [List.cons_append, read?,
        if_neg (Ne.symm hDigits.1), ih _ hDigits.2]
      rfl

theorem read?_codePoint
    (c : Char)
    (rest : Text) :
    read? .text (codePoint c ++ rest) =
      prepend c (read? .text rest) := by
  have hDigits : '\x7d' ∉ Text.hexadecimal c.toNat := by
    intro hMember
    rcases Text.exists_of_mem_toDigits (by omega) hMember with
      ⟨d, hSmall, hEq⟩
    exact digitChar_ne_brace hSmall hEq.symm
  have hForm :
      codePoint c ++ rest =
        '\\' :: 'u' :: '\x7b' ::
          (Text.hexadecimal c.toNat ++ '\x7d' :: rest) := by
    simp [codePoint]
  have hOpen :
      ∀ t : Text,
        read? .text ('\\' :: 'u' :: '\x7b' :: t) =
          read? (.code 0) t := by
    intro t
    simp [read?]
  rw [hForm, hOpen, read?_code 0 rest hDigits,
    readDigits_hexadecimal, Char.ofNat_toNat]

/- An escaped character is read as itself. -/
theorem read?_escape
    (c : Char)
    (rest : Text) :
    read? .text (escape c ++ rest) =
      prepend c (read? .text rest) := by
  unfold escape
  split
  case h_7 hQuote hSlash _ _ _ _ =>
    split
    · have hPlain : c ≠ '"' ∧ c ≠ '\\' :=
        ⟨hQuote, hSlash⟩
      simp [read?, hPlain]
    · exact read?_codePoint c rest
  -- The characters with short names.
  all_goals simp [read?, named?]

/- The first quote that is not escaped ends the text. -/
theorem read?_flatMap_escape
    (t rest : Text) :
    read? .text (t.flatMap escape ++ '"' :: rest) =
      some (t, rest) := by
  induction t with
  | nil => simp [read?]
  | cons c t ih =>
      rw [List.flatMap_cons, List.append_assoc, read?_escape,
        ih]
      rfl

end Quoted

namespace Text

/-
  Read a quoted text at the front of a text.  The result is
  that text without its quotes and what follows them.
-/
def unquote? : Text → Option (Text × Text)
| '"' :: rest => Quoted.read? .text rest
| _ => none

/- Quoted text is read as it was, whatever follows it. -/
theorem unquote?_quoted
    (t rest : Text) :
    unquote? (t.quoted ++ rest) = some (t, rest) := by
  have hForm :
      t.quoted ++ rest =
        '"' :: (t.flatMap Quoted.escape ++ '"' :: rest) := by
    simp [quoted]
  rw [hForm]
  exact Quoted.read?_flatMap_escape t rest

end Text

end Translit

------------------------------------------------------------
-- Control Characters
------------------------------------------------------------

namespace Translit

/- A fixed text without control characters. -/
theorem Text.not_isControl_of_all
    {t : Text}
    {c : Char}
    (hAll : t.all fun d => !isControl d)
    (hMember : c ∈ t) :
    isControl c = false := by
  simpa using List.all_eq_true.mp hAll c hMember

namespace Quoted

theorem not_isControl_of_mem_codePoint
    {c d : Char}
    (hMember : d ∈ codePoint c) :
    isControl d = false := by
  rw [codePoint] at hMember
  rcases List.mem_append.mp hMember with hFront | hEnd
  · rcases List.mem_append.mp hFront with hOpen | hDigit
    · exact Text.not_isControl_of_all (by decide) hOpen
    · exact Text.not_isControl_of_mem_hexadecimal hDigit
  · rw [List.mem_singleton.mp hEnd]
    decide

/- A character is shown as itself only if it is no control. -/
theorem not_isControl_of_isShown
    {c : Char}
    (hShown : isShown c) :
    isControl c = false := by
  rw [isShown, Bool.and_eq_true, Bool.not_eq_true'] at hShown
  exact hShown.1

theorem not_isControl_of_mem_escape
    {c d : Char}
    (hMember : d ∈ escape c) :
    isControl d = false := by
  unfold escape at hMember
  split at hMember
  case h_7 =>
    split at hMember
    · next hShown =>
        rw [List.mem_singleton.mp hMember]
        exact not_isControl_of_isShown hShown
    · exact not_isControl_of_mem_codePoint hMember
  -- A short escape is a backslash and a visible character.
  all_goals
    simp only [String.reduceToList, List.mem_cons,
      List.not_mem_nil, or_false] at hMember
    rcases hMember with rfl | rfl <;> decide

end Quoted

namespace Text

/- Quoted text holds no control characters. -/
theorem not_isControl_of_mem_quoted
    {t : Text}
    {c : Char}
    (hMember : c ∈ t.quoted) :
    isControl c = false := by
  rw [quoted] at hMember
  rcases List.mem_append.mp hMember with hFront | hQuote
  · rcases List.mem_cons.mp hFront with rfl | hText
    · decide
    · rcases List.mem_flatMap.mp hText with
        ⟨d, _, hEscape⟩
      exact Quoted.not_isControl_of_mem_escape hEscape
  · rw [List.mem_singleton.mp hQuote]
    decide

end Text

end Translit
