import Mathlib.Data.List.Basic
import Translit.Proofs.Conversion.Marker
import Translit.Proofs.Pattern.Indentation

/-
  Indentation does not change a verdict.

  Gates, patterns and trimming each have a notion of blanks
  of their own.  They agree on what may stand in front of a
  line: with more indentation the same gates are open and
  the same rules apply with the same captures.  Only rules
  that write the line itself write the indentation too.

  Main declarations:
    * `Gate.admits_append`
    * `Rule.match?_append`
    * `Rule.convert?_append`
    * `Table.search_eq_of_answers`
    * `Table.firstOutput_append`
    * `Table.judge_indented`
-/

------------------------------------------------------------
-- Lines
------------------------------------------------------------

namespace Translit

namespace Text

/- Stripping stops in a line that is not all padding. -/
theorem stripped_append_of_ne_nil
    {line : Text}
    (front : Text)
    (hLine : line.stripped ≠ []) :
    (front ++ line).stripped = front ++ line.stripped := by
  have hRest : line.reverse.dropWhile isPadding ≠ [] := by
    simpa [stripped, dropTail] using hLine
  unfold stripped dropTail
  rw [List.reverse_append, List.dropWhile_append,
    if_neg (by simpa using hRest), List.reverse_append,
    List.reverse_reverse]

end Text

variable {indent : Text}

namespace Gate

/- Blanks bear no marks. -/
theorem any_mark_append
    (mark : Mark)
    (line : Text)
    (hIndent : ∀ c ∈ indent, isBlank c) :
    (indent ++ line).any mark.holds =
      line.any mark.holds := by
  have hNone : indent.any mark.holds = false := by
    rw [List.any_eq_false]
    intro c hMember
    have hOther : !mark.holds c := by
      apply of_isBlank (hIndent c hMember)
      cases mark <;> decide
    simpa using hOther
  rw [List.any_append, hNone, Bool.false_or]

/- Indentation opens and closes no gate. -/
theorem admits_append
    (gate : Gate)
    (line : Text)
    (hIndent : ∀ c ∈ indent, isBlank c) :
    gate.admits (indent ++ line) = gate.admits line := by
  simp only [admits, marksIn, startsLine,
    any_mark_append _ line hIndent,
    Text.unindented_append line hIndent]

end Gate

namespace Rule

/- All rules but the catch-all pass over indentation. -/
theorem isIndented_form
    {rule : Rule}
    (hRule : rule ≠ .manual) :
    rule.form.isIndented := by
  have hForm : rule.form.isIndented = (rule != .manual) := by
    cases rule <;> decide
  simpa [hForm] using hRule

/- Only copied lines show in the output themselves. -/
theorem output_eq_of_not_copying
    {rule : Rule}
    (first second : Text)
    (found : Captures)
    (hRule : rule ∉ copying) :
    rule.output first found = rule.output second found := by
  cases rule with
  | comment => exact absurd (by decide) hRule
  | manual => exact absurd (by decide) hRule
  | _ => rfl

/- A rule applies to a line however it is indented. -/
theorem applies_append
    (rule : Rule)
    (line : Text)
    (hIndent : ∀ c ∈ indent, isBlank c) :
    rule.applies (indent ++ line) = rule.applies line := by
  by_cases hRule : rule = .manual
  · subst hRule
    simp
  · rw [applies, applies,
      Pattern.match?_append_of_isIndented line
        (isIndented_form hRule) hIndent]

/- A rule that does not copy the line loses the indentation. -/
theorem convert?_append
    {rule : Rule}
    (line : Text)
    (hRule : rule ∉ copying)
    (hIndent : ∀ c ∈ indent, isBlank c) :
    rule.convert? (indent ++ line) = rule.convert? line := by
  have hManual : rule ≠ .manual := by
    intro hEq
    subst hEq
    exact hRule (by decide)
  rw [convert?, convert?,
    Pattern.match?_append_of_isIndented line
      (isIndented_form hManual) hIndent]
  apply congrArg (Option.map · _)
  funext found
  exact output_eq_of_not_copying _ _ _ hRule

end Rule

end Translit

------------------------------------------------------------
-- Tables
------------------------------------------------------------

namespace Translit

namespace Table

/-
  A walk asks its line for nothing but gates and patterns.
  Lines that give the same answers have the same winner, and
  as many rules are tried and skipped for them.
-/
theorem search_eq_of_answers
    {first second : Text}
    (table : Table)
    (hGates :
      ∀ rule : Rule,
        rule.gate.admits first = rule.gate.admits second)
    (hApplies :
      ∀ rule : Rule,
        rule.applies first = rule.applies second) :
    (search first table).winner =
        (search second table).winner ∧
      (search first table).tried =
        (search second table).tried ∧
      (search first table).skipped =
        (search second table).skipped := by
  induction table with
  | nil => exact ⟨rfl, rfl, rfl⟩
  | cons rule rules ih =>
      rcases ih with ⟨hWinner, hTried, hSkipped⟩
      have hBoth :
          (rule.convert? first).isSome =
            (rule.convert? second).isSome := by
        simpa using hApplies rule
      simp only [search, hGates rule]
      split
      · cases hFirst : rule.convert? first with
        | some output =>
            rw [hFirst] at hBoth
            rcases Option.isSome_iff_exists.mp hBoth.symm with
              ⟨other, hSecond⟩
            simp [hSecond, Verdict.won]
        | none =>
            rw [hFirst] at hBoth
            have hSecond : rule.convert? second = none := by
              apply Option.not_isSome_iff_eq_none.mp
              rw [← hBoth]
              simp
            simp [hSecond, Verdict.afterTry, hWinner, hTried,
              hSkipped]
      · simp [Verdict.afterSkip, hWinner, hTried, hSkipped]

variable {indent : Text}

theorem ruleFor?_append
    (table : Table)
    (line : Text)
    (hIndent : ∀ c ∈ indent, isBlank c) :
    table.ruleFor? (indent ++ line) = table.ruleFor? line := by
  unfold ruleFor?
  congr 1
  funext rule
  exact rule.applies_append line hIndent

theorem firstOutput_append_of_not_copying
    {table : Table}
    {line : Text}
    {rule : Rule}
    (hRule : table.ruleFor? line = some rule)
    (hCopying : rule ∉ Rule.copying)
    (hIndent : ∀ c ∈ indent, isBlank c) :
    table.firstOutput (indent ++ line) =
      table.firstOutput line := by
  have hIndented :
      table.ruleFor? (indent ++ line) = some rule := by
    rw [ruleFor?_append table line hIndent, hRule]
  have hOutput := convert?_of_ruleFor? hIndented
  rw [Rule.convert?_append line hCopying hIndent,
    convert?_of_ruleFor? hRule, Option.some_inj] at hOutput
  exact hOutput.symm

/- What is written for an indented line, by its rule. -/
theorem firstOutput_append
    (table : Table)
    (line : Text)
    (hIndent : ∀ c ∈ indent, isBlank c) :
    table.firstOutput (indent ++ line) =
      match table.ruleFor? line with
      | some .comment => indent ++ table.firstOutput line
      | some .manual => manualMarker ++ indent ++ line
      | none => manualMarker ++ indent ++ line
      | some _ => table.firstOutput line := by
  have hSame := ruleFor?_append table line hIndent
  cases hRule : table.ruleFor? line with
  | none =>
      rw [firstOutput_of_ruleFor?_eq_none (hSame.trans hRule),
        manualLine, List.append_assoc]
  | some rule =>
      have hIndented := hSame.trans hRule
      cases rule with
      | comment =>
          rw [firstOutput_of_comment hIndented,
            firstOutput_of_comment hRule]
      | manual =>
          rw [firstOutput_of_manual hIndented,
            List.append_assoc]
      | _ =>
          exact firstOutput_append_of_not_copying hRule
            (by decide) hIndent

/-
  Indentation changes neither the winner of a line nor how
  many rules are tried and skipped for it.  What is written
  is the same, too, unless the line itself is written: then
  its indentation is written with it, in front of a comment
  and behind the marker of a line that is left to be
  converted by hand.
-/
theorem judge_indented
    (table : Table)
    (line : Text)
    (hLine : line.stripped ≠ [])
    (hIndent : ∀ c ∈ indent, isBlank c) :
    (table.judge (indent ++ line)).winner =
        (table.judge line).winner ∧
      (table.judge (indent ++ line)).tried =
        (table.judge line).tried ∧
      (table.judge (indent ++ line)).skipped =
        (table.judge line).skipped ∧
      (table.judge (indent ++ line)).output =
        match (table.judge line).winner.bind (table[·]?) with
        | some .comment =>
            indent ++ (table.judge line).output
        | some .manual =>
            manualMarker ++ indent ++ line.stripped
        | none => manualMarker ++ indent ++ line.stripped
        | some _ => (table.judge line).output := by
  have hStripped :
      (indent ++ line).stripped = indent ++ line.stripped :=
    Text.stripped_append_of_ne_nil indent hLine
  have hWalk :=
    search_eq_of_answers table
      (fun rule =>
        rule.gate.admits_append line.stripped hIndent)
      (fun rule => rule.applies_append line.stripped hIndent)
  have hOutput :=
    firstOutput_append table line.stripped hIndent
  rw [← hStripped] at hWalk
  rcases hWalk with ⟨hWinner, hTried, hSkipped⟩
  refine ⟨hWinner, hTried, hSkipped, ?_⟩
  rw [winner_judge, bind_winner?, output_judge, output_judge,
    hStripped]
  exact hOutput

/- A comment behind a line feed and a tab keeps both. -/
theorem judge_indented_comment :
    Text.stripped "# a " ≠ [] ∧
      (∀ c ∈ ['\n', '\t'], isBlank c) ∧
      standard.judge "# a " = ⟨some 1, "# a", 1, 1⟩ ∧
      (standard.judge (['\n', '\t'] ++ "# a ")).winner =
        some 1 ∧
      (standard.judge (['\n', '\t'] ++ "# a ")).output =
        ['\n', '\t'] ++ "# a" := by
  have hLine : Text.stripped "# a " ≠ [] := by
    decide
  have hIndent : ∀ c ∈ ['\n', '\t'], isBlank c := by
    simp [isBlank]
  have hPlain :
      standard.judge "# a " = ⟨some 1, "# a", 1, 1⟩ := by
    decide
  rcases judge_indented standard "# a " hLine hIndent with
    ⟨hWinner, _, _, hOutput⟩
  rw [hPlain] at hWinner hOutput
  exact ⟨hLine, hIndent, hPlain, hWinner, hOutput⟩

end Table

end Translit
