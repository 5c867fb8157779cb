import Mathlib.Data.List.Basic
import Translit.Report.Basic

/-
  The text of a report.

  A report is a list of lines, and its text is made of theirs.
  It can be shown to its end if the counts of its rules add up
  to a word and the names of those that have won lines fit
  their column.  Otherwise it breaks off in front of the line
  that cannot be made.

  Key definitions include:
    * `Report.lines`
    * `Report.chunks`
    * `Report.render`
    * `Report.IsShowable`
    * `Report.reached`

  Main declarations:
    * `Report.render_eq_flatMap`
    * `Report.lineCount?_eq`
    * `Report.nameWidth_le_iff`
    * `Report.reached_isPrefix_lines`
    * `Report.reached_eq_lines`
-/

------------------------------------------------------------
-- Lines
------------------------------------------------------------

namespace Translit

namespace Report

/- The number of lines: the sum of those each rule has won. -/
def lineCount
    (hits : List RuleHit) : Nat :=
  (hits.map RuleHit.count).foldr (· + ·) 0

/- The counts of lines and of rules tried and skipped. -/
def summary
    (details : Details) : List Line :=
  [ countLine (lineCount details.hits) details.manual,
    gatingLine details.tried details.skipped ]

/- The row of a rule that has won lines. -/
def ruleRow
    (width : Nat)
    (hit : RuleHit) : Line :=
  rowLine (padTo width hit.rule) hit.count

/- One row for each rule that has won lines. -/
def ruleRows
    (hits : List RuleHit) : List Line :=
  if (fired hits).isEmpty then [noticeLine]
  else (fired hits).map (ruleRow (nameWidth (fired hits)))

/- All lines of a report. -/
def lines
    (details : Details)
    (elapsed : Elapsed)
    (mode : Mode) : List Line :=
  details.records.map (recordLine mode) ++
    heading "Summary" ++ summary details ++
    heading "Rules" ++ ruleRows details.hits ++
    heading "Timing" ++ timing elapsed

end Report

end Translit

------------------------------------------------------------
-- Text
------------------------------------------------------------

namespace Translit

namespace Report

/- What is written for one line, span by span. -/
def lineChunks
    (palette : Palette)
    (line : Line) : List Text :=
  line.map (·.render palette) ++ [['\n']]

/- The parts of a report, in the order they are written. -/
def chunks
    (palette : Palette)
    (report : List Line) : List Text :=
  report.flatMap (lineChunks palette)

/- The text of a report. -/
def render
    (palette : Palette)
    (report : List Line) : Text :=
  (chunks palette report).flatten

theorem render_append
    (palette : Palette)
    (first second : List Line) :
    render palette (first ++ second) =
      render palette first ++ render palette second := by
  simp [render, chunks]

/- The text of a report, line by line. -/
theorem render_eq_flatMap
    (palette : Palette)
    (report : List Line) :
    render palette report =
      report.flatMap fun line => render palette [line] := by
  induction report with
  | nil => rfl
  | cons line report ih =>
      rw [← List.singleton_append, render_append, ih,
        List.flatMap_append, List.flatMap_singleton]

/- The text of a line, span by span. -/
theorem render_line
    (palette : Palette)
    (line : Line) :
    render palette [line] =
      line.flatMap (·.render palette) ++ ['\n'] := by
  simp [render, chunks, lineChunks, List.flatMap_def]

end Report

end Translit

------------------------------------------------------------
-- Counts And Names
------------------------------------------------------------

namespace Translit

namespace Report

theorem lineCount_cons
    (hit : RuleHit)
    (hits : List RuleHit) :
    lineCount (hit :: hits) = hit.count + lineCount hits :=
  rfl

/- Words are added up from any word on. -/
theorem foldlM_addWord?
    (hits : List RuleHit)
    {total : Nat}
    (hTotal : total < UInt64.size) :
    hits.foldlM (fun n hit => addWord? n hit.count) total =
      if total + lineCount hits < UInt64.size then
        some (total + lineCount hits)
      else
        none := by
  induction hits generalizing total with
  | nil => exact (if_pos hTotal).symm
  | cons hit hits ih =>
      rw [List.foldlM_cons, lineCount_cons, ← Nat.add_assoc,
        addWord?]
      by_cases hNext : total + hit.count < UInt64.size
      · rw [if_pos hNext]
        exact ih hNext
      · rw [if_neg hNext, if_neg (by omega)]
        rfl

/- The sum of the counts is there if it is a word. -/
theorem lineCount?_eq
    (hits : List RuleHit) :
    lineCount? hits =
      if lineCount hits < UInt64.size then
        some (lineCount hits)
      else
        none := by
  have hZero : 0 < UInt64.size := by
    decide
  have hSum := foldlM_addWord? hits hZero
  rw [Nat.zero_add] at hSum
  exact hSum

/- The fold over the names starts from an empty column. -/
theorem max?_eq_nameWidth
    (hits : List RuleHit) :
    (0 :: hits.map fun hit => hit.rule.utf8Length).max? =
      some (nameWidth hits) :=
  List.max?_cons'

/- The column of names is no wider than all names are. -/
theorem nameWidth_le_iff
    (hits : List RuleHit)
    (width : Nat) :
    nameWidth hits ≤ width ↔
      ∀ hit ∈ hits, hit.rule.utf8Length ≤ width := by
  rw [List.max?_le_iff (max?_eq_nameWidth hits)]
  simp

/-
  Whether the rules of a report can be shown: the sum of the
  counts is a word, and the names that have a row fit it.
-/
structure IsShowable
    (hits : List RuleHit) : Prop where
  count : lineCount hits < UInt64.size
  names :
    ∀ hit ∈ fired hits, hit.rule.utf8Length ≤ maxWidth

theorem isShowable_iff
    (hits : List RuleHit) :
    IsShowable hits ↔
      lineCount hits < UInt64.size ∧
        nameWidth (fired hits) ≤ maxWidth := by
  rw [nameWidth_le_iff]
  constructor
  · intro hShowable
    exact ⟨hShowable.count, hShowable.names⟩
  · rintro ⟨hCount, hNames⟩
    exact ⟨hCount, hNames⟩

instance
    (hits : List RuleHit) : Decidable (IsShowable hits) :=
  decidable_of_iff _ (isShowable_iff hits).symm

end Report

end Translit

------------------------------------------------------------
-- Where A Report Breaks Off
------------------------------------------------------------

namespace Translit

namespace Report

/- The lines of a report, up to where it breaks off. -/
def reached
    (details : Details)
    (elapsed : Elapsed)
    (mode : Mode) : List Line :=
  details.records.map (recordLine mode) ++
    (heading "Summary" ++
      if lineCount details.hits < UInt64.size then
        summary details ++
          (heading "Rules" ++
            if nameWidth (fired details.hits) ≤ maxWidth then
              ruleRows details.hits ++
                (heading "Timing" ++ timing elapsed)
            else [])
      else [])

/- What is reached is the front of the report. -/
theorem reached_isPrefix_lines
    (details : Details)
    (elapsed : Elapsed)
    (mode : Mode) :
    reached details elapsed mode <+:
      lines details elapsed mode := by
  unfold reached lines
  simp only [List.append_assoc, List.prefix_append_right_inj]
  split_ifs
  · exact List.prefix_rfl
  · simp
  · exact List.nil_prefix

/- A report that can be shown is reached to its end. -/
theorem reached_eq_lines
    {details : Details}
    (elapsed : Elapsed)
    (mode : Mode)
    (hShowable : IsShowable details.hits) :
    reached details elapsed mode =
      lines details elapsed mode := by
  rw [isShowable_iff] at hShowable
  unfold reached lines
  rw [if_pos hShowable.1, if_pos hShowable.2]
  simp only [List.append_assoc]

end Report

end Translit
