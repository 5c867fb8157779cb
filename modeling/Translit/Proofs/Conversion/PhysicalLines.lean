import Translit.Conversion
import Translit.Proofs.Rule.Output
import Translit.Proofs.Run.WinningRule
import Translit.Proofs.Text.Lines

/-
  The physical lines of a converted document.

  Every line of a document is converted to one entry, and an
  entry is one physical line, unless the line is a constant,
  which takes two.  So line feeds stand between the entries
  and inside the constants, and nowhere else.

  Main declarations:
    * `Table.exists_of_ruleFor?`
    * `Table.count_lineFeed_firstOutput`
    * `Table.count_lineFeed_entries_run`
    * `count_lineFeed_convert`
-/

------------------------------------------------------------
-- Entries
------------------------------------------------------------

namespace Translit

namespace Table

/- What is written for a line stems from a reading of it. -/
theorem exists_of_ruleFor?
    {table : Table}
    {line : Text}
    {rule : Rule}
    (hRule : table.ruleFor? line = some rule) :
    ∃ found rest,
      rule.form.Reads line found rest ∧
        table.firstOutput line = rule.output line found :=
  Rule.exists_of_convert?_eq_some
    (convert?_of_ruleFor? hRule)

/- What is written for a line is one line, or a constant. -/
theorem count_lineFeed_firstOutput
    {line : Text}
    (table : Table)
    (hLine : '\n' ∉ line) :
    (table.firstOutput line).count '\n' =
      if table.ruleFor? line = some .constant then 1
      else 0 := by
  cases hRule : table.ruleFor? line with
  | none =>
      have hMarked : '\n' ∉ manualLine line :=
        List.not_mem_append (by decide) hLine
      rw [firstOutput_of_ruleFor?_eq_none hRule,
        List.count_eq_zero.mpr hMarked]
      rfl
  | some rule =>
      rcases exists_of_ruleFor? hRule with
        ⟨found, rest, hReads, hOutput⟩
      rw [hOutput, Rule.count_lineFeed_output
        (fun _ => hLine) hReads]
      simp only [Option.some_inj]

/- Line feeds in the entries of a run, line by line. -/
theorem count_lineFeed_entries_run
    (table : Table)
    (keepRecords : Bool)
    (document : Text) :
    (table.run keepRecords document).entries.map
        (List.count '\n') =
      (Text.lines document).map fun line =>
        if table.ruleFor? line.stripped = some .constant
        then 1 else 0 := by
  rw [entries_run, List.map_map]
  apply List.map_congr_left
  intro line hLine
  exact count_lineFeed_firstOutput table
    (Text.lineFeed_notMem_stripped hLine)

end Table

end Translit

------------------------------------------------------------
-- Documents
------------------------------------------------------------

namespace Translit

/-
  A converted document has a line feed between every two
  entries and one in each constant.  In a run of any table
  the entries of constants have one line feed, and all other
  entries have none.
-/
theorem count_lineFeed_convert
    (document : Text) :
    (convert document).count '\n' =
        (Text.lines document).length - 1 +
          Table.standard.linesOf .constant document ∧
      ∀ (table : Table) (keepRecords : Bool),
        (table.run keepRecords document).entries.map
            (List.count '\n') =
          (Text.lines document).map fun line =>
            if table.ruleFor? line.stripped = some .constant
            then 1 else 0 := by
  constructor
  · have hEntries :
        (Table.standard.run false document).entries.length =
          (Text.lines document).length := by
      rw [Table.entries_run, List.length_map]
    rw [convert, Run.text, Text.count_lineFeed_joinLines,
      hEntries, Table.count_lineFeed_entries_run,
      sum_map_ite_one]
    rfl
  · intro table keepRecords
    exact Table.count_lineFeed_entries_run table keepRecords
      document

end Translit
