import Translit.Proofs.Run.Statistics

/-
  The catch-all behind a table.

  A table marks the lines that it leaves unmatched without
  any rule.  With the catch-all behind it, that rule wins
  these lines instead: it writes the same marker, and each
  of them costs one more try.

  Key definitions include:
    * `Verdict.caught`
    * `Table.unmatched`

  Main declarations:
    * `Table.judge_append_manual`
    * `Table.winners_append_manual`
    * `Table.hits_run_append_manual`
    * `Table.run_append_manual`
-/

------------------------------------------------------------
-- One Line
------------------------------------------------------------

namespace Translit

/- The catch-all writes the marker in front of the line. -/
@[simp] theorem Rule.convert?_manual
    (line : Text) :
    Rule.manual.convert? line = some (manualLine line) := by
  have hSome := Rule.applies_manual line
  rcases Option.isSome_iff_exists.mp hSome with
    ⟨found, hMatch⟩
  rw [Rule.convert?, hMatch]
  rfl

namespace Verdict

/-
  What becomes of the verdict of `n` rules when the catch-all
  stands behind them.
-/
def caught
    (n : Nat)
    (verdict : Verdict) : Verdict :=
  match verdict.winner with
  | some _ => verdict
  | none =>
      { verdict with
        winner := some n
        tried := verdict.tried + 1 }

/- A failed rule in front only moves the catch-all on. -/
theorem caught_afterTry
    (n : Nat)
    (verdict : Verdict) :
    verdict.afterTry.caught (n + 1) =
      (verdict.caught n).afterTry := by
  cases hWinner : verdict.winner with
  | some i => simp [caught, afterTry, hWinner]
  | none => simp [caught, afterTry, hWinner]

theorem caught_afterSkip
    (n : Nat)
    (verdict : Verdict) :
    verdict.afterSkip.caught (n + 1) =
      (verdict.caught n).afterSkip := by
  cases hWinner : verdict.winner with
  | some i => simp [caught, afterSkip, hWinner]
  | none => simp [caught, afterSkip, hWinner]

@[simp] theorem winner_caught
    (n : Nat)
    (verdict : Verdict) :
    (verdict.caught n).winner =
      some (verdict.winner.getD n) := by
  cases hWinner : verdict.winner with
  | some i => simp [caught, hWinner]
  | none => simp [caught, hWinner]

@[simp] theorem output_caught
    (n : Nat)
    (verdict : Verdict) :
    (verdict.caught n).output = verdict.output := by
  unfold caught
  split <;> rfl

@[simp] theorem skipped_caught
    (n : Nat)
    (verdict : Verdict) :
    (verdict.caught n).skipped = verdict.skipped := by
  unfold caught
  split <;> rfl

/- Only an unmatched line costs another try. -/
theorem tried_caught
    (n : Nat)
    (verdict : Verdict) :
    (verdict.caught n).tried =
      verdict.tried +
        if verdict.winner = none then 1 else 0 := by
  cases hWinner : verdict.winner with
  | some i => simp [caught, hWinner]
  | none => simp [caught, hWinner]

end Verdict

namespace Table

/- A walk with the catch-all at the end of the table. -/
theorem search_append_manual
    (table : Table)
    (line : Text) :
    search line (table ++ [.manual]) =
      (search line table).caught table.length := by
  induction table with
  | nil =>
      rw [List.nil_append,
        search_cons_of_convert?_eq_some []
          (Rule.convert?_manual line)]
      rfl
  | cons rule rules ih =>
      rw [List.cons_append]
      simp only [search, ih, List.length_cons]
      split
      · cases rule.convert? line with
        | some output => rfl
        | none => exact (Verdict.caught_afterTry _ _).symm
      · exact (Verdict.caught_afterSkip _ _).symm

theorem judge_append_manual
    (table : Table)
    (line : Text) :
    judge (table ++ [.manual]) line =
      (table.judge line).caught table.length :=
  search_append_manual table line.stripped

end Table

end Translit

------------------------------------------------------------
-- Whole Documents
------------------------------------------------------------

namespace Translit

namespace Table

/- The number of lines that no rule of a table applies to. -/
def unmatched
    (table : Table)
    (document : Text) : Nat :=
  (Text.lines document).countP fun line =>
    !table.any fun rule => rule.applies line.stripped

theorem count_none_winners
    (table : Table)
    (document : Text) :
    (table.winners document).count none =
      table.unmatched document := by
  rw [winners, List.count_eq_countP, List.countP_map,
    unmatched]
  apply List.countP_congr
  intro line _
  simp [winner?]

/- The winner of a line that had none is the catch-all. -/
theorem winners_append_manual
    (table : Table)
    (document : Text) :
    winners (table ++ [.manual]) document =
      (table.winners document).map fun winner =>
        some (winner.getD table.length) := by
  rw [← map_winner_judge, ← map_winner_judge]
  simp [judge_append_manual]

/- The winners within the table keep their lines. -/
theorem count_some_winners_append_manual
    {table : Table}
    {i : Nat}
    (document : Text)
    (hLt : i < table.length) :
    (winners (table ++ [.manual]) document).count (some i) =
      (table.winners document).count (some i) := by
  rw [winners_append_manual, List.count_eq_countP,
    List.countP_map, List.count_eq_countP]
  apply List.countP_congr
  intro winner _
  cases winner with
  | some j => simp
  | none =>
      have hNe : table.length ≠ i := by
        omega
      simp [hNe]

/- The catch-all has exactly the unmatched lines. -/
theorem count_length_winners_append_manual
    (table : Table)
    (document : Text) :
    (winners (table ++ [.manual]) document).count
        (some table.length) =
      table.unmatched document := by
  rw [← count_none_winners, winners_append_manual,
    List.count_eq_countP, List.countP_map,
    List.count_eq_countP]
  apply List.countP_congr
  intro winner hMember
  cases winner with
  | none => simp
  | some j =>
      have hLt := lt_length_of_mem_winners hMember
      have hNe : j ≠ table.length := by
        omega
      simp [hNe]

theorem entries_run_append_manual
    (table : Table)
    (keepRecords : Bool)
    (document : Text) :
    (run (table ++ [.manual]) keepRecords
        document).entries =
      (table.run keepRecords document).entries := by
  simp only [run, judge_append_manual, List.map_map,
    Function.comp_def, Verdict.output_caught]

theorem hits_run_append_manual
    (table : Table)
    (keepRecords : Bool)
    (document : Text) :
    (run (table ++ [.manual]) keepRecords
        document).tally.hits =
      (table.run keepRecords document).tally.hits ++
        [table.unmatched document] := by
  rw [hits_run, hits_run, List.length_append,
    List.length_singleton, List.range_succ, List.map_append,
    List.map_singleton, count_length_winners_append_manual]
  congr 1
  apply List.map_congr_left
  intro i hMember
  exact count_some_winners_append_manual document
    (List.mem_range.mp hMember)

theorem manual_run_append_manual
    {table : Table}
    (keepRecords : Bool)
    (document : Text)
    (hLast : table.getLast? ≠ some .manual) :
    (run (table ++ [.manual]) keepRecords
        document).tally.manual =
      (table.run keepRecords document).tally.manual := by
  have hNone :
      (winners (table ++ [.manual]) document).count none =
        0 :=
    count_none_winners_of_mem document (by simp)
  have hCatchAll :
      (winners (table ++ [.manual]) document).count
          (some ((table ++ [Rule.manual]).length - 1)) =
        table.unmatched document := by
    rw [List.length_append, List.length_singleton,
      Nat.add_sub_cancel]
    exact count_length_winners_append_manual table document
  rw [manual_run_eq, manual_run_eq, hNone, hCatchAll,
    if_neg hLast, if_pos (by simp), count_none_winners]
  omega

theorem skipped_run_append_manual
    (table : Table)
    (keepRecords : Bool)
    (document : Text) :
    (run (table ++ [.manual]) keepRecords
        document).tally.skipped =
      (table.run keepRecords document).tally.skipped := by
  simp only [tally_run, Tally.ofVerdicts,
    judge_append_manual, List.map_map, Function.comp_def,
    Verdict.skipped_caught]

/- Each unmatched line costs one try more. -/
theorem tried_run_append_manual
    (table : Table)
    (keepRecords : Bool)
    (document : Text) :
    (run (table ++ [.manual]) keepRecords
        document).tally.tried =
      (table.run keepRecords document).tally.tried +
        table.unmatched document := by
  simp only [tally_run, Tally.ofVerdicts,
    judge_append_manual, List.map_map, Function.comp_def,
    Verdict.tried_caught, List.sum_map_add]
  rw [sum_map_ite_one, ← count_none_winners, winners,
    List.count_eq_countP, List.countP_map]
  congr 1
  apply List.countP_congr
  intro line _
  simp

/-
  The marker of unmatched lines and an explicit catch-all
  agree: behind a table that does not end with it, the
  catch-all changes neither what is written nor what is left
  for conversion by hand, it wins the unmatched lines, and
  it is tried for them alone.
-/
theorem run_append_manual
    (table : Table)
    (keepRecords : Bool)
    (document : Text)
    (hLast : table.getLast? ≠ some .manual) :
    (run (table ++ [.manual]) keepRecords
          document).entries =
        (table.run keepRecords document).entries ∧
      (run (table ++ [.manual]) keepRecords
          document).tally.manual =
        (table.run keepRecords document).tally.manual ∧
      (run (table ++ [.manual]) keepRecords
          document).tally.skipped =
        (table.run keepRecords document).tally.skipped ∧
      (run (table ++ [.manual]) keepRecords
          document).tally.hits =
        (table.run keepRecords document).tally.hits ++
          [table.unmatched document] ∧
      (run (table ++ [.manual]) keepRecords
          document).tally.tried =
        (table.run keepRecords document).tally.tried +
          table.unmatched document :=
  ⟨entries_run_append_manual table keepRecords document,
    manual_run_append_manual keepRecords document hLast,
    skipped_run_append_manual table keepRecords document,
    hits_run_append_manual table keepRecords document,
    tried_run_append_manual table keepRecords document⟩

/-
  Two of these three lines are unmatched, one of them empty.
-/
theorem run_append_manual_two :
    [Rule.elseBranch, .blockEnd].getLast? ≠
        some .manual ∧
      (run ([.elseBranch, .blockEnd] ++ [.manual]) false
          "a\n\nend").tally.hits =
        [0, 1] ++ [2] := by
  have hLast :
      [Rule.elseBranch, .blockEnd].getLast? ≠
        some .manual := by
    decide
  have hHits :
      (run [.elseBranch, .blockEnd] false
          "a\n\nend").tally.hits = [0, 1] := by
    decide
  have hUnmatched :
      unmatched [.elseBranch, .blockEnd] "a\n\nend" = 2 := by
    decide
  refine ⟨hLast, ?_⟩
  rw [(run_append_manual [.elseBranch, .blockEnd] false
    "a\n\nend" hLast).2.2.2.1, hHits, hUnmatched]

end Table

end Translit
