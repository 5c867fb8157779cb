import Mathlib.Algebra.BigOperators.Group.List.Basic
import Mathlib.Algebra.GroupWithZero.Nat
import Mathlib.Data.List.Count
import Mathlib.Data.List.Induction
import Translit.Proofs.Verdict.FirstMatch
import Translit.Run

/-
  The statistics of a run.

  A tally is built up line by line.  Here it is read off the
  list of all verdicts at once, and from there off the list
  of winners that each line would have without any gates.

  Key definitions include:
    * `Tally.ofVerdicts`
    * `Table.winners`

  Main declarations:
    * `Tally.count_ofVerdicts`
    * `Tally.foldl_count`
    * `Table.tally_run`
    * `Table.run_statistics`
-/

------------------------------------------------------------
-- Tallies Of Verdicts
------------------------------------------------------------

namespace Translit

namespace Tally

/- The counts of a list of verdicts. -/
def ofVerdicts
    (table : Table)
    (verdicts : List Verdict) : Tally where
  lines := verdicts.length
  manual := verdicts.countP (isManual table)
  hits :=
    (List.range table.length).map fun i =>
      (verdicts.map Verdict.winner).count (some i)
  tried := (verdicts.map Verdict.tried).sum
  skipped := (verdicts.map Verdict.skipped).sum

/- Raising one entry of a list given by its positions. -/
theorem modify_map_range
    (n i : Nat)
    (f : Nat → Nat) :
    ((List.range n).map f).modify i (· + 1) =
      (List.range n).map fun j =>
        f j + if i = j then 1 else 0 := by
  apply List.ext_getElem
  · simp
  · intro j hLeft hRight
    by_cases hEq : i = j
    · simp [hEq]
    · simp [hEq]

/- One more verdict is counted at the end of the list. -/
theorem count_ofVerdicts
    (table : Table)
    (verdicts : List Verdict)
    (verdict : Verdict) :
    count table (ofVerdicts table verdicts) verdict =
      ofVerdicts table (verdicts ++ [verdict]) := by
  have hManual :
      (if isManual table verdict then
          verdicts.countP (isManual table) + 1
        else verdicts.countP (isManual table)) =
        (verdicts ++ [verdict]).countP (isManual table) := by
    rw [List.countP_append, List.countP_singleton]
    split <;> rfl
  have hHits :
      (count table (ofVerdicts table verdicts)
          verdict).hits =
        (ofVerdicts table (verdicts ++ [verdict])).hits := by
    cases hWinner : verdict.winner with
    | none =>
        simp [count, ofVerdicts, hWinner]
    | some i =>
        simp only [count, ofVerdicts, hWinner,
          modify_map_range, List.map_append,
          List.count_append, List.map_cons, List.map_nil,
          List.count_singleton]
        simp
  have hTried :
      (verdicts.map Verdict.tried).sum + verdict.tried =
        ((verdicts ++ [verdict]).map Verdict.tried).sum := by
    simp
  have hSkipped :
      (verdicts.map Verdict.skipped).sum +
          verdict.skipped =
        ((verdicts ++ [verdict]).map
          Verdict.skipped).sum := by
    simp
  have hLines :
      verdicts.length + 1 =
        (verdicts ++ [verdict]).length := by
    simp
  rw [Tally.mk.injEq]
  exact ⟨hLines, hManual, hHits, hTried, hSkipped⟩

/- Counting verdicts one by one gives the counts of all. -/
theorem foldl_count
    (table : Table)
    (verdicts : List Verdict) :
    verdicts.foldl (count table) (zero table) =
      ofVerdicts table verdicts := by
  induction verdicts using List.reverseRecOn with
  | nil => simp [zero, ofVerdicts, List.map_const']
  | append_singleton verdicts verdict ih =>
      rw [List.foldl_append, ih]
      exact count_ofVerdicts table verdicts verdict

end Tally

end Translit

------------------------------------------------------------
-- Winners
------------------------------------------------------------

namespace Translit

/- The catch-all applies to every line. -/
@[simp] theorem Rule.applies_manual
    (line : Text) :
    Rule.manual.applies line := by
  apply (Rule.applies_iff _ _).mpr
  have hEnd :
      Pattern.Reads [.pass .finish] ([] ++ []) .empty [] :=
    .step ⟨rfl, rfl⟩ (.done [])
  have hAll :
      Pattern.Reads Rule.manual.form (line ++ []) .empty [] :=
    .step ⟨Nat.zero_le _, fun _ _ => rfl⟩ hEnd
  rw [List.append_nil] at hAll
  exact ⟨_, _, hAll⟩

/- Only the catch-all has a gate that asks for nothing. -/
theorem Rule.isOpen_gate_iff
    (rule : Rule) :
    rule.gate.isOpen ↔ rule = .manual := by
  cases rule <;> decide

namespace Table

/- The winner of each line of a document, gates or not. -/
def winners
    (table : Table)
    (document : Text) : List (Option Nat) :=
  (Text.lines document).map fun line =>
    table.winner? line.stripped

@[simp] theorem length_winners
    (table : Table)
    (document : Text) :
    (table.winners document).length =
      (Text.lines document).length := by
  simp [winners]

theorem map_winner_judge
    (table : Table)
    (document : Text) :
    ((Text.lines document).map table.judge).map
        Verdict.winner =
      table.winners document := by
  simp [winners]

/- The winner of a line is a position in the table. -/
theorem lt_length_of_mem_winners
    {table : Table}
    {document : Text}
    {i : Nat}
    (hMember : some i ∈ table.winners document) :
    i < table.length := by
  rcases List.mem_map.mp hMember with ⟨line, _, hWinner⟩
  exact (List.findIdx?_eq_some_iff_findIdx_eq.mp hWinner).1

/- A table with the catch-all leaves no line without one. -/
theorem none_notMem_winners
    {table : Table}
    (document : Text)
    (hManual : Rule.manual ∈ table) :
    none ∉ table.winners document := by
  intro hMember
  rcases List.mem_map.mp hMember with ⟨line, _, hWinner⟩
  have hNone :=
    List.findIdx?_eq_none_iff.mp hWinner .manual hManual
  simp at hNone

theorem count_none_winners_of_mem
    {table : Table}
    (document : Text)
    (hManual : Rule.manual ∈ table) :
    (table.winners document).count none = 0 :=
  List.count_eq_zero.mpr
    (none_notMem_winners document hManual)

/- The catch-all is the last rule, if that one is manual. -/
theorem catchAll?_eq
    (table : Table) :
    table.catchAll? =
      if table.getLast? = some .manual then
        some (table.length - 1)
      else
        none := by
  unfold catchAll?
  cases hLast : table.getLast? with
  | none => rfl
  | some rule => simp [Rule.isOpen_gate_iff]

end Table

end Translit

------------------------------------------------------------
-- Counting Winners
------------------------------------------------------------

namespace Translit

/- Counting is adding up ones. -/
theorem sum_map_ite_one
    {α : Type}
    (p : α → Prop)
    [DecidablePred p]
    (l : List α) :
    (l.map fun a => if p a then 1 else 0).sum =
      l.countP p := by
  rw [List.sum_map_ite, List.countP_eq_length_filter]
  simp

/- Each winner is counted at one position of the table. -/
theorem sum_map_count_some
    {n : Nat}
    {winners : List (Option Nat)}
    (hBound : ∀ i, some i ∈ winners → i < n) :
    ((List.range n).map fun i =>
        winners.count (some i)).sum +
        winners.count none =
      winners.length := by
  induction winners with
  | nil => simp
  | cons winner winners ih =>
      have hRest := ih fun i hMember =>
        hBound i (List.mem_cons_of_mem winner hMember)
      cases winner with
      | none =>
          have hStep :
              ∀ i : Nat,
                (none :: winners).count (some i) =
                  winners.count (some i) := by
            intro i
            simp
          simp only [hStep, List.count_cons_self,
            List.length_cons]
          omega
      | some i =>
          have hLt : i < n := hBound i (by simp)
          have hStep :
              ∀ j : Nat,
                (some i :: winners).count (some j) =
                  winners.count (some j) +
                    if j = i then 1 else 0 := by
            intro j
            by_cases hEq : j = i
            · simp [hEq]
            · simp [hEq, Ne.symm hEq]
          have hOnce :
              ((List.range n).map fun j =>
                if j = i then 1 else 0).sum = 1 := by
            rw [List.sum_map_ite, List.filter_eq,
              List.count_range, if_pos hLt]
            simp
          have hNone :
              (some i :: winners).count none =
                winners.count none := by
            simp
          simp only [hStep, List.sum_map_add, hOnce, hNone,
            List.length_cons]
          omega

/- Counting the lines left for conversion by hand. -/
theorem countP_isNone_or
    (last : Nat)
    (winners : List (Option Nat)) :
    winners.countP (fun w => w.isNone || w == some last) =
      winners.count none + winners.count (some last) := by
  induction winners with
  | nil => rfl
  | cons winner winners ih =>
      cases winner with
      | none =>
          simp only [List.countP_cons, List.count_cons, ih]
          simp
          omega
      | some i =>
          simp only [List.countP_cons, List.count_cons, ih]
          simp
          omega

end Translit

------------------------------------------------------------
-- Statistics
------------------------------------------------------------

namespace Translit

namespace Table

/- One entry is written for each line. -/
theorem entries_run
    (table : Table)
    (keepRecords : Bool)
    (document : Text) :
    (table.run keepRecords document).entries =
      (Text.lines document).map fun line =>
        table.firstOutput line.stripped := by
  simp [run]

/- The tally of a run is that of its verdicts. -/
theorem tally_run
    (table : Table)
    (keepRecords : Bool)
    (document : Text) :
    (table.run keepRecords document).tally =
      Tally.ofVerdicts table
        ((Text.lines document).map table.judge) := by
  rw [← Tally.foldl_count]
  simp [run, Function.comp_def]

theorem lines_run
    (table : Table)
    (keepRecords : Bool)
    (document : Text) :
    (table.run keepRecords document).tally.lines =
      (Text.lines document).length := by
  simp [tally_run, Tally.ofVerdicts]

theorem hits_run
    (table : Table)
    (keepRecords : Bool)
    (document : Text) :
    (table.run keepRecords document).tally.hits =
      (List.range table.length).map fun i =>
        (table.winners document).count (some i) := by
  rw [tally_run, Tally.ofVerdicts, map_winner_judge]

/- Every line is counted once, as a hit or as unmatched. -/
theorem sum_hits_run
    (table : Table)
    (keepRecords : Bool)
    (document : Text) :
    (table.run keepRecords document).tally.hits.sum +
        (table.winners document).count none =
      (Text.lines document).length := by
  rw [hits_run, ← length_winners table document]
  apply sum_map_count_some
  intro i hMember
  exact lt_length_of_mem_winners hMember

/- What was tried or skipped is what was walked over. -/
theorem tried_add_skipped_run
    (table : Table)
    (keepRecords : Bool)
    (document : Text) :
    (table.run keepRecords document).tally.tried +
        (table.run keepRecords document).tally.skipped =
      ((table.winners document).map table.reach).sum := by
  rw [tally_run, Tally.ofVerdicts, ← List.sum_map_add]
  simp only [winners, List.map_map, Function.comp_def,
    tried_add_skipped_judge]

theorem manual_run
    (table : Table)
    (keepRecords : Bool)
    (document : Text) :
    (table.run keepRecords document).tally.manual =
      (table.winners document).countP fun winner =>
        winner.isNone || winner == table.catchAll? := by
  rw [tally_run, ← map_winner_judge, List.countP_map]
  rfl

/-
  A line is left for conversion by hand if nothing has won
  it, or the last rule of a table that ends with the
  catch-all.
-/
theorem manual_run_eq
    (table : Table)
    (keepRecords : Bool)
    (document : Text) :
    (table.run keepRecords document).tally.manual =
      (table.winners document).count none +
        if table.getLast? = some .manual then
          (table.winners document).count
            (some (table.length - 1))
        else
          0 := by
  rw [manual_run, catchAll?_eq]
  split
  · exact countP_isNone_or _ _
  · rw [Nat.add_zero, List.count_eq_countP]
    congr 1
    funext winner
    cases winner with
    | none => rfl
    | some i => rfl

/-
  The counts of a run in terms of the first matches.  Under
  the standard table every line has a winner.
-/
theorem run_statistics
    (table : Table)
    (keepRecords : Bool)
    (document : Text) :
    (table.run keepRecords document).tally.lines =
        (Text.lines document).length ∧
      (table.run keepRecords document).tally.hits =
        ((List.range table.length).map fun i =>
          (table.winners document).count (some i)) ∧
      (table.run keepRecords document).tally.hits.sum +
          (table.winners document).count none =
        (Text.lines document).length ∧
      (table.run keepRecords document).tally.tried +
          (table.run keepRecords document).tally.skipped =
        ((table.winners document).map table.reach).sum ∧
      (table.run keepRecords document).tally.manual =
        ((table.winners document).count none +
          if table.getLast? = some .manual then
            (table.run keepRecords document).tally.hits.getD
              (table.length - 1) 0
          else
            0) ∧
      none ∉ standard.winners document ∧
      (standard.run keepRecords document).tally.hits.sum =
        (Text.lines document).length ∧
      (standard.run keepRecords document).tally.hits[18]? =
        some
          (standard.run keepRecords
            document).tally.manual := by
  have hNone : none ∉ standard.winners document :=
    none_notMem_winners document (by decide)
  have hUnmatched :
      (standard.winners document).count none = 0 :=
    List.count_eq_zero.mpr hNone
  refine
    ⟨lines_run table keepRecords document,
      hits_run table keepRecords document,
      sum_hits_run table keepRecords document,
      tried_add_skipped_run table keepRecords document,
      ?_, hNone, ?_, ?_⟩
  · rw [manual_run_eq]
    congr 1
    split
    · next hLast =>
        have hPos : table.length - 1 < table.length := by
          cases table with
          | nil => cases hLast
          | cons rule rules => simp
        simp [hits_run, hPos]
    · rfl
  · have hSum := sum_hits_run standard keepRecords document
    omega
  · have hLast : standard.getLast? = some .manual := rfl
    rw [manual_run_eq, hUnmatched, if_pos hLast, hits_run]
    simp [standard]

end Table

end Translit
