import Translit.Conversion
import Translit.Proofs.Run.Statistics
import Translit.Proofs.Text.Lines

/-
  Runs over joined documents.

  Lines are judged one by one, so a run over two documents
  with a line feed between them is the two runs put together:
  entries and records follow each other, counts are added,
  and the second document's lines are numbered on.

  Key definitions include:
    * `Tally.add`
    * `Run.append`

  Main declarations:
    * `Tally.ofVerdicts_append`
    * `Table.records_run_append`
    * `Table.run_append`
    * `Table.run_append_lineFeed`
-/

------------------------------------------------------------
-- Runs Together
------------------------------------------------------------

namespace Translit

namespace Tally

/- The counts of two runs, added field by field. -/
def add
    (first second : Tally) : Tally where
  lines := first.lines + second.lines
  manual := first.manual + second.manual
  hits := List.zipWith (· + ·) first.hits second.hits
  tried := first.tried + second.tried
  skipped := first.skipped + second.skipped

/- The counts of more verdicts are added. -/
theorem ofVerdicts_append
    (table : Table)
    (first second : List Verdict) :
    ofVerdicts table (first ++ second) =
      (ofVerdicts table first).add
        (ofVerdicts table second) := by
  have hHits :
      (ofVerdicts table (first ++ second)).hits =
        List.zipWith (· + ·) (ofVerdicts table first).hits
          (ofVerdicts table second).hits := by
    simp [ofVerdicts, List.zipWith_map]
  rw [Tally.mk.injEq]
  refine ⟨?_, ?_, hHits, ?_, ?_⟩
  · exact List.length_append
  · exact List.countP_append
  · simp [ofVerdicts, add]
  · simp [ofVerdicts, add]

end Tally

namespace Record

/- The record with its line numbered on behind `n` others. -/
def later
    (n : Nat)
    (record : Record) : Record :=
  { record with number := record.number + n }

end Record

namespace Run

/- One run and then another. -/
def append
    (first second : Run) : Run where
  entries := first.entries ++ second.entries
  tally := first.tally.add second.tally
  records :=
    first.records ++
      second.records.map (Record.later first.tally.lines)

end Run

end Translit

------------------------------------------------------------
-- Concatenation
------------------------------------------------------------

namespace Translit

namespace Table

/- Lines behind `n` others have later records. -/
theorem map_recordOf_zipIdx
    (table : Table)
    (n : Nat)
    (judged : List (Text × Verdict)) :
    ((judged.zipIdx (1 + n)).map fun j =>
        table.recordOf j.2 j.1.1 j.1.2) =
      (((judged.zipIdx 1).map fun j =>
        table.recordOf j.2 j.1.1 j.1.2)).map
        (Record.later n) := by
  rw [Nat.add_comm, ← List.map_snd_add_zipIdx_eq_zipIdx,
    List.map_map, List.map_map]
  rfl

theorem records_run_append
    (table : Table)
    (keepRecords : Bool)
    (front back : Text) :
    (table.run keepRecords (front ++ '\n' :: back)).records =
      (table.run keepRecords (front ++ ['\n'])).records ++
        (table.run keepRecords back).records.map
          (Record.later
            (Text.lines (front ++ ['\n'])).length) := by
  cases keepRecords with
  | false => rfl
  | true =>
      simp only [run, if_true]
      rw [Text.lines_append, List.map_append,
        List.zipIdx_append, List.map_append,
        List.length_map, map_recordOf_zipIdx]

/- A run over joined documents is the two runs together. -/
theorem run_append
    (table : Table)
    (keepRecords : Bool)
    (front back : Text) :
    table.run keepRecords (front ++ '\n' :: back) =
      (table.run keepRecords (front ++ ['\n'])).append
        (table.run keepRecords back) := by
  have hEntries :
      (table.run keepRecords
          (front ++ '\n' :: back)).entries =
        (table.run keepRecords (front ++ ['\n'])).entries ++
          (table.run keepRecords back).entries := by
    rw [entries_run, entries_run, entries_run,
      Text.lines_append, List.map_append]
  have hTally :
      (table.run keepRecords (front ++ '\n' :: back)).tally =
        (table.run keepRecords (front ++ ['\n'])).tally.add
          (table.run keepRecords back).tally := by
    rw [tally_run, tally_run, tally_run, Text.lines_append,
      List.map_append, Tally.ofVerdicts_append]
  have hRecords :=
    records_run_append table keepRecords front back
  rw [← lines_run table keepRecords] at hRecords
  rw [Run.append, ← hEntries, ← hTally, ← hRecords]

end Table

/- The converted documents stand one below the other. -/
theorem convert_append
    (front : Text)
    {back : Text}
    (hBack : back ≠ []) :
    convert (front ++ '\n' :: back) =
      convert (front ++ ['\n']) ++ '\n' :: convert back := by
  have hEntries :
      ∀ document : Text, document ≠ [] →
        (Table.standard.run false document).entries ≠ [] := by
    intro document hDocument
    rw [Table.entries_run]
    simpa using hDocument
  unfold convert Run.text
  rw [Table.run_append]
  apply Text.joinLines_append
  · exact hEntries _ (by simp)
  · exact hEntries back hBack

namespace Table

/-
  Running a table respects joining documents at a line end,
  and so does conversion.
-/
theorem run_append_lineFeed
    (table : Table)
    (keepRecords : Bool)
    (front back : Text) :
    table.run keepRecords (front ++ '\n' :: back) =
        (table.run keepRecords (front ++ ['\n'])).append
          (table.run keepRecords back) ∧
      (back ≠ [] →
        convert (front ++ '\n' :: back) =
          convert (front ++ ['\n']) ++
            '\n' :: convert back) := by
  constructor
  · exact run_append table keepRecords front back
  · intro hBack
    exact convert_append front hBack

/- Neither a carriage return nor an empty line is lost. -/
theorem run_append_lineFeed_blank :
    ("\nend".toList : Text) ≠ [] ∧
      convert "else\r\n\nend" =
        convert "else\r\n" ++ '\n' :: convert "\nend" :=
  have hBack : ("\nend".toList : Text) ≠ [] := by
    decide
  ⟨hBack,
    (run_append_lineFeed standard false "else\r"
      "\nend").2 hBack⟩

end Table

end Translit
