import Translit.Proofs.Pattern.Indentation
import Translit.Proofs.Rule.Gating

/-
  What the lines of a form look like.

  A reading of a form cuts a line into indentation, keyword
  or name, gaps and the rest.  The cuts are given here once
  for the common forms and for the rules that have a form of
  their own.

  Main declarations:
    * `Form.exists_of_reads_keyword`
    * `Form.exists_of_reads_lone`
    * `Rule.exists_of_applies_require`
    * `Rule.exists_of_applies_assignment`
    * `Rule.exists_of_applies_constant`
-/

------------------------------------------------------------
-- Names
------------------------------------------------------------

namespace Translit

namespace CharClass

variable {c : Char}

theorem name_of_capital
    (hCapital : CharClass.capital.holds c) :
    CharClass.name.holds c := by
  simp only [holds, Bool.or_eq_true] at hCapital ⊢
  tauto

theorem name_of_nameStart
    (hStart : CharClass.nameStart.holds c) :
    CharClass.name.holds c := by
  simp only [holds, Bool.or_eq_true] at hStart ⊢
  tauto

end CharClass

end Translit

------------------------------------------------------------
-- Readings Of The Common Forms
------------------------------------------------------------

namespace Translit

namespace Form

variable {w t rest : Text}
variable {found : Captures}

/- A keyword stands behind the indentation. -/
theorem exists_of_reads_keyword
    {steps : Pattern}
    (hReads :
      Pattern.Reads (keyword w ++ steps) t found rest) :
    ∃ indent tail,
      t = indent ++ (w ++ tail) ∧
        (∀ c ∈ indent, isBlank c) ∧
        Pattern.Reads steps tail found rest := by
  rcases Pattern.exists_of_reads_cons hReads with
    ⟨indent, middle, _, rfl, hIndent, hReads, rfl⟩
  rcases Pattern.exists_of_reads_cons hReads with
    ⟨word, tail, _, rfl, hWord, hReads, rfl⟩
  have hWord : word = w := List.mem_singleton.mp hWord
  rw [hWord]
  exact ⟨indent, tail, rfl, hIndent.2, hReads⟩

/- Only blanks follow a keyword that stands alone. -/
theorem exists_of_reads_lone
    (hReads : Pattern.Reads (lone w) t found rest) :
    ∃ indent gap,
      t = indent ++ (w ++ gap) ∧
        (∀ c ∈ indent, isBlank c) ∧
        ∀ c ∈ gap, isBlank c := by
  rcases exists_of_reads_keyword hReads with
    ⟨indent, tail, rfl, hIndent, hReads⟩
  rcases Pattern.exists_of_reads_cons hReads with
    ⟨gap, middle, _, rfl, hGap, hReads, _⟩
  rcases Pattern.exists_of_reads_cons hReads with
    ⟨empty, last, _, rfl, hFinish, _, _⟩
  rcases hFinish with ⟨rfl, rfl⟩
  exact ⟨indent, gap, by simp, hIndent, hGap.2⟩

/- The sign and the value of an assignment. -/
theorem exists_of_reads_value
    (hReads :
      Pattern.Reads
        [ .pass .blanks, .pass (.word "="), .pass .blanks,
          .keep .body .restOfLine ] t found rest) :
    ∃ gap value,
      t = gap ++ '=' :: value ∧ ∀ c ∈ gap, isBlank c := by
  rcases Pattern.exists_of_reads_cons hReads with
    ⟨gap, middle, _, rfl, hGap, hReads, _⟩
  rcases Pattern.exists_of_reads_cons hReads with
    ⟨sign, value, _, rfl, hSign, _, _⟩
  have hEquals : sign = ['='] := List.mem_singleton.mp hSign
  rw [hEquals]
  exact ⟨gap, value, rfl, hGap.2⟩

end Form

end Translit

------------------------------------------------------------
-- Lines Of Single Rules
------------------------------------------------------------

namespace Translit

namespace Rule

variable {line : Text}

/- A requirement has a quote behind its keyword and a gap. -/
theorem exists_of_applies_require
    (hApplies : Rule.require.applies line) :
    ∃ indent gap quote tail,
      line =
          indent ++
            ("require".toList ++ (gap ++ quote :: tail)) ∧
        (∀ c ∈ indent, isBlank c) ∧
        (∀ c ∈ gap, isBlank c) ∧
        CharClass.quote.holds quote := by
  rcases (applies_iff _ _).mp hApplies with
    ⟨found, rest, hReads⟩
  rcases Form.exists_of_reads_keyword hReads with
    ⟨indent, middle, rfl, hIndent, hReads⟩
  rcases Pattern.exists_of_reads_cons hReads with
    ⟨gap, middle, _, rfl, hGap, hReads, _⟩
  rcases Pattern.exists_of_reads_cons hReads with
    ⟨taken, tail, _, rfl, hQuote, _, _⟩
  rcases hQuote with ⟨quote, hQuote, rfl⟩
  exact
    ⟨indent, gap, quote, tail, rfl, hIndent, hGap.2, hQuote⟩

/- An assignment is a name and, after a gap, a sign. -/
theorem exists_of_applies_assignment
    (hApplies : Rule.assignment.applies line) :
    ∃ indent name gap value,
      line = indent ++ (name ++ (gap ++ '=' :: value)) ∧
        (∀ c ∈ indent, isBlank c) ∧
        (∀ c ∈ name, CharClass.name.holds c) ∧
        ∀ c ∈ gap, isBlank c := by
  rcases (applies_iff _ _).mp hApplies with
    ⟨found, rest, hReads⟩
  rcases Pattern.exists_of_reads_cons hReads with
    ⟨indent, middle, _, rfl, hIndent, hReads, _⟩
  rcases Pattern.exists_of_reads_cons hReads with
    ⟨start, middle, _, rfl, hStart, hReads, _⟩
  rcases Pattern.exists_of_reads_cons hReads with
    ⟨name, middle, _, rfl, hName, hReads, _⟩
  rcases Form.exists_of_reads_value hReads with
    ⟨gap, value, rfl, hGap⟩
  rcases hStart with ⟨c, hStart, rfl⟩
  refine ⟨indent, c :: name, gap, value, rfl, hIndent.2, ?_,
    hGap⟩
  intro d hMember
  rcases List.mem_cons.mp hMember with hEq | hTail
  · subst hEq
    exact CharClass.name_of_nameStart hStart
  · exact hName.2 d hTail

/- A constant is an assignment to a name of capitals. -/
theorem exists_of_applies_constant
    (hApplies : Rule.constant.applies line) :
    ∃ indent first name gap value,
      line =
          indent ++ (first :: name ++ (gap ++ '=' :: value)) ∧
        (∀ c ∈ indent, isBlank c) ∧
        (∀ c ∈ first :: name, CharClass.capital.holds c) ∧
        ∀ c ∈ gap, isBlank c := by
  rcases (applies_iff _ _).mp hApplies with
    ⟨found, rest, hReads⟩
  rcases Pattern.exists_of_reads_cons hReads with
    ⟨indent, middle, _, rfl, hIndent, hReads, _⟩
  rcases Pattern.exists_of_reads_cons hReads with
    ⟨name, middle, _, rfl, hName, hReads, _⟩
  rcases Form.exists_of_reads_value hReads with
    ⟨gap, value, rfl, hGap⟩
  cases name with
  | nil => exact absurd hName.1 (by decide)
  | cons first name =>
      exact
        ⟨indent, first, name, gap, value, rfl, hIndent.2,
          hName.2, hGap⟩

end Rule

end Translit
