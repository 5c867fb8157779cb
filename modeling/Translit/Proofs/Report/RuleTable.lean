import Mathlib.Algebra.BigOperators.Group.List.Basic
import Mathlib.Algebra.GroupWithZero.Nat
import Mathlib.Data.List.DropRight
import Mathlib.Data.List.Forall2
import Mathlib.Order.Bounds.Defs
import Translit.Proofs.Conversion.Diagnostics
import Translit.Proofs.Report.Colours
import Translit.Proofs.Run.LineEndings

/-
  The table of rules in a report.

  A rule that has won lines has a row, and no other rule has
  one.  The column of names is as wide as the longest name
  has bytes.  No text has more characters than bytes, so each
  name fits, and all counts start at the same place.

  The counts that the rows show for a document add up to the
  line count of the summary, which is the number of lines of
  the document.  The report of a document never breaks off.

  Key definitions include:
    * `Report.IsRow`
    * `Report.IsRuleTable`
    * `Report.countShown?`
    * `Report.layout`

  Main declarations:
    * `Report.isGreatest_nameWidth`
    * `Report.isRuleTable_ruleRows`
    * `Report.render_lines_eq_layout`
    * `Report.printOn_eq_layout`
    * `Report.lineCount_convertWith`
    * `Report.isShowable_convertWith`
    * `Report.rule_table_aligned`
-/

------------------------------------------------------------
-- Characters And Bytes
------------------------------------------------------------

namespace Translit

namespace Text

/- Every character takes at least one byte. -/
theorem length_le_utf8Length
    (t : Text) :
    t.length ≤ t.utf8Length := by
  induction t with
  | nil => exact Nat.le_refl 0
  | cons c t ih =>
      have hByte : 0 < c.utf8Size := c.utf8Size_pos
      rw [List.length_cons, utf8Length_cons]
      omega

/- Every line takes at least one character. -/
theorem length_lines_le
    (document : Text) :
    (lines document).length ≤ document.length := by
  induction document using lineInduction with
  | single line hLine =>
      rw [lines_of_lineFeed_notMem hLine]
      cases line with
      | nil => exact Nat.le_refl 0
      | cons c line => simp [lastLine]
  | feed line rest hLine ih =>
      rw [lines_cons rest hLine, List.length_cons,
        List.length_append, List.length_cons]
      omega

end Text

end Translit

------------------------------------------------------------
-- Rows
------------------------------------------------------------

namespace Translit

namespace Report

/-
  A row holds the whole name, with spaces behind it up to the
  width in characters, and the count.  Two spaces stand in
  front of each of them.
-/
def IsRow
    (width : Nat)
    (hit : RuleHit)
    (row : Text) : Prop :=
  ∃ padding : Nat,
    hit.rule.length + padding = width ∧
      row =
        "  " ++ (hit.rule ++ List.replicate padding ' ') ++
          "  " ++ Text.decimal hit.count

/-
  The rows of the table of rules: a notice if no rule has won
  a line, and otherwise a row for each one that has.
-/
inductive IsRuleTable
    (hits : List RuleHit) :
    List Text → Prop
| notice
    (hNone : fired hits = []) :
    IsRuleTable hits ["  No lines translated"]
| rows
    {width : Nat}
    {rows : List Text}
    (hWidth :
      IsGreatest
        {n | ∃ hit ∈ fired hits, hit.rule.utf8Length = n}
        width)
    (hRows : List.Forall₂ (IsRow width) (fired hits) rows) :
    IsRuleTable hits rows

/- The number behind the last space of a row, if it has one. -/
def countShown?
    (row : Text) : Option Nat :=
  let word := row.rtakeWhile (· != ' ')
  if word ≠ [] ∧ word.all Char.isDigit then
    some (Nat.ofDigitChars 10 word 0)
  else
    none

/- The last word of a row starts behind its last space. -/
theorem rtakeWhile_space
    (front : Text)
    {word : Text}
    (hWord : ' ' ∉ word) :
    (front ++ ' ' :: word).rtakeWhile (· != ' ') = word := by
  have hLetters :
      ∀ c ∈ word.reverse, (c != ' ') = true := by
    intro c hMember
    rw [bne_iff_ne]
    rintro rfl
    exact hWord (List.mem_reverse.mp hMember)
  rw [List.rtakeWhile, List.reverse_append,
    List.reverse_cons, List.append_assoc,
    List.takeWhile_append_of_pos hLetters]
  simp

section

variable {width : Nat}
variable {hit : RuleHit}
variable {row : Text}

/- A name is not cut. -/
theorem IsRow.isPrefix_drop
    (hRow : IsRow width hit row) :
    hit.rule <+: row.drop 2 := by
  rcases hRow with ⟨padding, _, rfl⟩
  exact ⟨List.replicate padding ' ' ++ "  " ++
    Text.decimal hit.count, by simp⟩

/- Where the count starts depends on the width alone. -/
theorem IsRow.drop_eq_decimal
    (hRow : IsRow width hit row) :
    row.drop (width + 4) = Text.decimal hit.count := by
  rcases hRow with ⟨padding, hWidth, rfl⟩
  have hSpaces : "  ".toList.length = 2 := rfl
  apply List.drop_left'
  simp only [List.length_append, List.length_replicate]
  omega

/- The count that a row shows is the one it stands for. -/
theorem IsRow.countShown?_eq
    (hRow : IsRow width hit row) :
    countShown? row = some hit.count := by
  have hDigits :
      ∀ c ∈ Text.decimal hit.count, c.isDigit :=
    fun _ => Text.isDigit_of_mem_decimal
  have hWord :
      row.rtakeWhile (· != ' ') =
        Text.decimal hit.count := by
    have hSpace : ' ' ∉ Text.decimal hit.count := by
      intro hMember
      exact absurd (hDigits ' ' hMember) (by decide)
    rcases hRow with ⟨padding, _, rfl⟩
    have hLast :=
      rtakeWhile_space
        ("  " ++ (hit.rule ++ List.replicate padding ' ') ++
          " ") hSpace
    simpa using hLast
  have hSome : Text.decimal hit.count ≠ [] :=
    Nat.toDigits_ne_nil
  have hNumber :
      Nat.ofDigitChars 10 (Text.decimal hit.count) 0 =
        hit.count :=
    Nat.ofDigitChars_ten_toDigits
  simp only [countShown?, hWord, hNumber]
  exact if_pos ⟨hSome, List.all_eq_true.mpr hDigits⟩

end

/- Rows show the counts of their rules, one by one. -/
theorem filterMap_countShown?
    {width : Nat}
    {hits : List RuleHit}
    {rows : List Text}
    (hRows : List.Forall₂ (IsRow width) hits rows) :
    rows.filterMap countShown? = hits.map RuleHit.count := by
  induction hRows with
  | nil => rfl
  | cons hRow _ ih =>
      rw [List.filterMap_cons_some hRow.countShown?_eq, ih,
        List.map_cons]

end Report

end Translit

------------------------------------------------------------
-- The Table Of Rules
------------------------------------------------------------

namespace Translit

namespace Report

/- The text of a line without colours. -/
def shown
    (line : Line) : Text :=
  line.flatMap (·.render ⟨false⟩)

/- The width of the names is the largest number of bytes. -/
theorem isGreatest_nameWidth
    {hits : List RuleHit}
    (hSome : hits ≠ []) :
    IsGreatest {n | ∃ hit ∈ hits, hit.rule.utf8Length = n}
      (nameWidth hits) := by
  have hUpper :
      ∀ hit ∈ hits,
        hit.rule.utf8Length ≤ nameWidth hits :=
    (nameWidth_le_iff hits _).mp (Nat.le_refl _)
  constructor
  · rcases List.mem_cons.mp
        (List.max?_mem (max?_eq_nameWidth hits)) with
      hZero | hLength
    · rcases List.exists_mem_of_ne_nil hits hSome with
        ⟨hit, hHit⟩
      have hLe := hUpper hit hHit
      exact ⟨hit, hHit, by omega⟩
    · rcases List.mem_map.mp hLength with ⟨hit, hHit, hEq⟩
      exact ⟨hit, hHit, hEq⟩
  · rintro n ⟨hit, hHit, rfl⟩
    exact hUpper hit hHit

/- A name with no more bytes than the width fits. -/
theorem isRow_shown_ruleRow
    {width : Nat}
    {hit : RuleHit}
    (hFits : hit.rule.utf8Length ≤ width) :
    IsRow width hit (shown (ruleRow width hit)) := by
  have hLength := Text.length_le_utf8Length hit.rule
  refine ⟨width - hit.rule.length, by omega, ?_⟩
  simp [shown, ruleRow, rowLine, padTo]

theorem isRuleTable_ruleRows
    (hits : List RuleHit) :
    IsRuleTable hits ((ruleRows hits).map shown) := by
  by_cases hNone : fired hits = []
  · have hRows :
        (ruleRows hits).map shown =
          ["  No lines translated"] := by
      rw [ruleRows, hNone]
      rfl
    rw [hRows]
    exact .notice hNone
  · have hRows :
        ruleRows hits =
          (fired hits).map
            (ruleRow (nameWidth (fired hits))) := by
      simp [ruleRows, hNone]
    have hWidth := isGreatest_nameWidth hNone
    apply IsRuleTable.rows hWidth
    rw [hRows, List.map_map, List.forall₂_map_right_iff,
      List.forall₂_same]
    intro hit hHit
    exact isRow_shown_ruleRow (hWidth.2 ⟨hit, hHit, rfl⟩)

example :
    (ruleRows [⟨"日本語", 1⟩, ⟨"else", 0⟩, ⟨"é", 12⟩]).map
        shown =
      [ "  日本語        1",
        "  é          12" ] := by
  decide

section

variable {hits : List RuleHit}
variable {rows : List Text}

/- All counts start at one place, and no name is cut. -/
theorem IsRuleTable.exists_offset
    (hTable : IsRuleTable hits rows) :
    ∃ offset, ∀ entry ∈ (fired hits).zip rows,
      entry.1.rule <+: entry.2.drop 2 ∧
        entry.2.drop offset =
          Text.decimal entry.1.count := by
  cases hTable with
  | notice hNone => simp [hNone]
  | @rows width _ hWidth hRows =>
      refine ⟨width + 4, ?_⟩
      rintro ⟨hit, row⟩ hEntry
      have hRow : IsRow width hit row :=
        List.forall₂_zip hRows hEntry
      exact ⟨hRow.isPrefix_drop, hRow.drop_eq_decimal⟩

/- The counts shown are those of the rules that have won. -/
theorem IsRuleTable.filterMap_countShown?_eq
    (hTable : IsRuleTable hits rows) :
    rows.filterMap countShown? =
      (fired hits).map RuleHit.count := by
  cases hTable with
  | notice hNone =>
      rw [hNone]
      decide
  | rows hWidth hRows => exact filterMap_countShown? hRows

end

/- A rule without lines adds nothing to the counts. -/
theorem sum_count_fired
    (hits : List RuleHit) :
    ((fired hits).map RuleHit.count).sum =
      (hits.map RuleHit.count).sum := by
  induction hits with
  | nil => rfl
  | cons hit hits ih =>
      by_cases hFired : hit.count > 0
      · rw [fired, List.filter_cons_of_pos (by simpa),
          ← fired, List.map_cons, List.map_cons,
          List.sum_cons, List.sum_cons, ih]
      · have hZero : hit.count = 0 := by omega
        rw [fired, List.filter_cons_of_neg (by simpa),
          ← fired, ih, List.map_cons, List.sum_cons, hZero,
          Nat.zero_add]

end Report

end Translit

------------------------------------------------------------
-- Reports As Text
------------------------------------------------------------

namespace Translit

namespace Report

/- Texts one after the other, each with a line feed. -/
def terminated
    (texts : List Text) : Text :=
  texts.flatMap (· ++ ['\n'])

/-
  The text of a report, around the line count of its summary
  and the rows of its rules.
-/
def layout
    (details : Details)
    (elapsed : Elapsed)
    (mode : Mode)
    (lineCount : Nat)
    (rows : List Text) : Text :=
  terminated (details.records.map (·.render mode)) ++
    "\n━━━ Summary ━━━\n  " ++ Text.decimal lineCount ++
    " lines  │  " ++ Text.decimal details.manual ++
    " need manual translation\n  patterns tried: " ++
    Text.decimal details.tried ++
    "  skipped by trigger: " ++
    Text.decimal details.skipped ++
    "\n\n━━━ Rules ━━━\n" ++ terminated rows ++
    "\n━━━ Timing ━━━\n  Total: " ++ elapsed.render ++
    "\n\n"

theorem render_eq_terminated
    (report : List Line) :
    render ⟨false⟩ report =
      terminated (report.map shown) := by
  rw [render_eq_flatMap, terminated, List.flatMap_map]
  simp only [render_line]
  rfl

theorem render_heading
    (title : Text) :
    render ⟨false⟩ (heading title) =
      "\n━━━ " ++ title ++ " ━━━\n" := by
  simp [render, chunks, lineChunks, heading]

theorem render_manualSpan
    (manual : Nat) :
    (manualSpan manual).render ⟨false⟩ =
      Text.decimal manual ++ " need manual translation" := by
  unfold manualSpan
  split
  · rfl
  · next hZero =>
      have hNone : manual = 0 := by omega
      rw [hNone]
      rfl

theorem render_summary
    (details : Details) :
    render ⟨false⟩ (summary details) =
      "  " ++ Text.decimal (lineCount details.hits) ++
        " lines  │  " ++ Text.decimal details.manual ++
        " need manual translation\n  patterns tried: " ++
        Text.decimal details.tried ++
        "  skipped by trigger: " ++
        Text.decimal details.skipped ++ "\n" := by
  simp [render, chunks, lineChunks, summary, countLine,
    gatingLine, render_manualSpan]

/- Without colours a report is written section by section. -/
theorem render_lines_eq_layout
    (details : Details)
    (elapsed : Elapsed)
    (mode : Mode) :
    render ⟨false⟩ (lines details elapsed mode) =
      layout details elapsed mode (lineCount details.hits)
        ((ruleRows details.hits).map shown) := by
  have hTotal :
      render ⟨false⟩ (timing elapsed) =
        "  Total: " ++ elapsed.render ++ "\n\n" := by
    simp [render, chunks, lineChunks, timing]
  rw [render_lines_plain, lines]
  simp only [render_append, render_heading, render_summary,
    render_eq_terminated (ruleRows _), hTotal]
  simp [layout, terminated, render, chunks]

/- A report that can be shown is printed as this text. -/
theorem printOn_eq_layout
    {details : Details}
    (elapsed : Elapsed)
    (mode : Mode)
    (hShowable : IsShowable details.hits) :
    printOn .unlimited ⟨false⟩ details elapsed mode =
      (.ok (),
        (layout details elapsed mode (lineCount details.hits)
          ((ruleRows details.hits).map shown)).utf8) := by
  rw [printOn_unlimited, (ending_eq_ok_iff _).mpr hShowable,
    reached_eq_lines elapsed mode hShowable,
    render_lines_eq_layout]

end Report

end Translit

------------------------------------------------------------
-- Line Counts
------------------------------------------------------------

namespace Translit

namespace Report

/- Every line of a document is counted for one rule. -/
theorem sum_count_convertWith
    (options : Options)
    (document : Text) :
    ((convertWith options document).details.hits.map
        RuleHit.count).sum =
      (Text.lines document).length := by
  have hCounts :
      (convertWith options document).details.hits.map
          RuleHit.count =
        (Table.standard.run options.mode?.isSome
          document).tally.hits := by
    rw [hits_convertWith, Table.hits_run_standard,
      List.map_map]
    rfl
  have hNone :
      (Table.standard.winners document).count none = 0 :=
    Table.count_none_winners_of_mem document (by decide)
  have hSum :=
    Table.sum_hits_run Table.standard options.mode?.isSome
      document
  rw [hCounts]
  omega

/- The line count of a summary is the number of lines. -/
theorem lineCount_convertWith
    (options : Options)
    (document : Text) :
    lineCount (convertWith options document).details.hits =
      (Text.lines document).length := by
  rw [lineCount, ← List.sum_eq_foldr, sum_count_convertWith]

/-
  The report of a document can be shown, if its bytes can be
  counted with a word: the names of the rules are short.
-/
theorem isShowable_convertWith
    (options : Options)
    {document : Text}
    (hSize : document.utf8Length < UInt64.size) :
    IsShowable (convertWith options document).details.hits := by
  constructor
  · have hLines := Text.length_lines_le document
    have hBytes := Text.length_le_utf8Length document
    rw [lineCount_convertWith]
    omega
  · intro hit hFired
    have hMember := List.mem_of_mem_filter hFired
    rw [hits_convertWith] at hMember
    rcases List.mem_map.mp hMember with ⟨rule, hRule, rfl⟩
    have hLabels :
        ∀ rule ∈ Table.standard,
          Text.utf8Length rule.label ≤ maxWidth := by
      decide
    exact hLabels rule hRule

/-
  The table of rules is complete, in order and aligned, in
  every report that can be shown.  Its rows are one for each
  rule that has won lines, with the width that `IsRuleTable`
  asks for, so that all counts start at the same place and no
  name is cut.  The report of a document can be shown; the
  counts in it add up to the line count of its summary, and
  that is the number of lines.  A document in memory has no
  more bytes than a word can count.
-/
theorem rule_table_aligned
    (details : Details)
    (elapsed : Elapsed)
    (mode : Mode)
    (options : Options)
    (document : Text) :
    (IsShowable details.hits →
      ∃ rows,
        printOn .unlimited ⟨false⟩ details elapsed mode =
            (.ok (),
              (layout details elapsed mode
                (lineCount details.hits) rows).utf8) ∧
          IsRuleTable details.hits rows ∧
          ∃ offset, ∀ entry ∈ (fired details.hits).zip rows,
            entry.1.rule <+: entry.2.drop 2 ∧
              entry.2.drop offset =
                Text.decimal entry.1.count) ∧
      (document.utf8Length < UInt64.size →
        ∃ rows,
          printOn .unlimited ⟨false⟩
              (convertWith options document).details elapsed
              mode =
              (.ok (),
                (layout
                  (convertWith options document).details
                  elapsed mode (Text.lines document).length
                  rows).utf8) ∧
            IsRuleTable
              (convertWith options document).details.hits
              rows ∧
            (rows.filterMap countShown?).sum =
              (Text.lines document).length) := by
  constructor
  · intro hShowable
    have hTable := isRuleTable_ruleRows details.hits
    exact ⟨_, printOn_eq_layout elapsed mode hShowable,
      hTable, hTable.exists_offset⟩
  · intro hSize
    have hTable :=
      isRuleTable_ruleRows
        (convertWith options document).details.hits
    refine ⟨_, ?_, hTable, ?_⟩
    · rw [← lineCount_convertWith options document]
      exact printOn_eq_layout elapsed mode
        (isShowable_convertWith options hSize)
    · rw [hTable.filterMap_countShown?_eq, sum_count_fired,
        sum_count_convertWith]

/- Details with names that have more bytes than characters. -/
def multibyte : Details where
  mode := none
  records := []
  hits := [⟨"日本語", 1⟩, ⟨"else", 0⟩, ⟨"é", 12⟩]
  manual := 0
  tried := 13
  skipped := 0

theorem rule_table_aligned_multibyte :
    IsShowable multibyte.hits ∧
      Text.utf8Length "x\nelse\nx" < UInt64.size ∧
      (∃ rows,
        printOn .unlimited ⟨false⟩ multibyte .zero .verbose =
            (.ok (),
              (layout multibyte .zero .verbose 13
                rows).utf8) ∧
          IsRuleTable multibyte.hits rows) ∧
      ∃ rows,
        printOn .unlimited ⟨false⟩
            (convertWith ⟨false, false⟩
              "x\nelse\nx").details .zero .verbose =
            (.ok (),
              (layout
                (convertWith ⟨false, false⟩
                  "x\nelse\nx").details .zero .verbose 3
                rows).utf8) ∧
          (rows.filterMap countShown?).sum = 3 := by
  have hShowable : IsShowable multibyte.hits := by
    decide
  have hSize :
      Text.utf8Length "x\nelse\nx" < UInt64.size := by
    decide
  rcases rule_table_aligned multibyte .zero .verbose
      ⟨false, false⟩ "x\nelse\nx" with
    ⟨hDetails, hDocument⟩
  rcases hDetails hShowable with ⟨rows, hText, hTable, _⟩
  rcases hDocument hSize with ⟨shownRows, hShown, _, hSum⟩
  exact ⟨hShowable, hSize, ⟨rows, hText, hTable⟩,
    ⟨shownRows, hShown, hSum⟩⟩

/- Details of two rules, whose counts add up to no word. -/
def overflowing : Details where
  mode := none
  records := []
  hits := [⟨"a", 18446744073709551615⟩, ⟨"b", 1⟩]
  manual := 0
  tried := 0
  skipped := 0

/-
  A name of 65536 bytes has no row, and counts that add up to
  no word have no summary: the report breaks off behind the
  heading.
-/
theorem rule_table_broken :
    printOn .unlimited ⟨false⟩ (wide 65536) .zero .verbose =
        (.error .broken,
          Text.utf8
            (render ⟨false⟩
              (heading "Summary" ++
                (summary (wide 65536) ++
                  heading "Rules")))) ∧
      printOn .unlimited ⟨false⟩ overflowing .zero .verbose =
        (.error .broken,
          Text.utf8 (render ⟨false⟩ (heading "Summary"))) := by
  constructor
  · have hCount :
        lineCount (wide 65536).hits < UInt64.size := by
      decide
    have hWide : ¬ IsShowable (wide 65536).hits := by
      rw [isShowable_wide_iff]
      decide
    have hWidth :
        ¬ nameWidth (fired (wide 65536).hits) ≤ maxWidth :=
      fun hFits =>
        hWide ((isShowable_iff _).mpr ⟨hCount, hFits⟩)
    have hShown : (wide 65536).records = [] := rfl
    rw [printOn_unlimited, ending, if_neg hWide, reached,
      if_pos hCount, if_neg hWidth, hShown, List.map_nil,
      List.nil_append, List.append_nil]
  · have hCount :
        ¬ lineCount overflowing.hits < UInt64.size := by
      decide
    have hShown : overflowing.records = [] := rfl
    rw [printOn_unlimited, ending,
      if_neg fun hShowable => hCount hShowable.count, reached,
      if_neg hCount, hShown, List.map_nil, List.nil_append,
      List.append_nil]

end Report

end Translit
