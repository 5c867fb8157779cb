import Translit.Event
import Translit.Proofs.Run.Statistics

/-
  The event log of a run.

  The log is written line by line and rule by rule, beside
  the verdicts and the counts.  Here the three accounts are
  compared: the log walks over the table as far as the
  verdict says, ends each line with what the run has kept of
  it, and holds as many events of a kind as were counted.

  Key definitions include:
    * `Event.step`
    * `Table.account`

  Main declarations:
    * `Table.steps_eq_map_step`
    * `Table.exists_steps_eq_concat`
    * `Table.suffix_of_log_eq_append`
    * `Table.countP_steps`
    * `Table.runEvents_replay`
-/

------------------------------------------------------------
-- Steps Over A Line
------------------------------------------------------------

namespace Translit

namespace Event

/- The event of coming to a rule: it is tried or skipped. -/
def step
    (number : Nat)
    (line : Text)
    (rule : Rule) : Event :=
  if rule.gate.admits line then .tried number rule
  else .skipped number rule

/- A step does not end a line. -/
theorem step_ne_done
    (number : Nat)
    (line : Text)
    (rule : Rule)
    (n : Nat)
    (name raw converted : Text) :
    step number line rule ≠ .done n name raw converted := by
  unfold step
  split
  · simp
  · simp

end Event

namespace Table

/- The walk stops at a rule that applies, which is tried. -/
theorem steps_cons_of_convert?_eq_some
    {rule : Rule}
    {line output : Text}
    (number : Nat)
    (rules : Table)
    (hConvert : rule.convert? line = some output) :
    steps number line (rule :: rules) =
      [.tried number rule] := by
  have hAdmits : rule.gate.admits line :=
    Rule.admits_of_applies
      (Rule.applies_of_convert?_eq_some hConvert)
  rw [steps, if_pos hAdmits, hConvert]
  rfl

/- Any other rule takes one step, and the walk goes on. -/
theorem steps_cons_of_convert?_eq_none
    {rule : Rule}
    {line : Text}
    (number : Nat)
    (rules : Table)
    (hConvert : rule.convert? line = none) :
    steps number line (rule :: rules) =
      Event.step number line rule ::
        steps number line rules := by
  rw [steps, Event.step, hConvert]
  split
  · rfl
  · rfl

/- There is one step for each rule up to the winner. -/
theorem steps_eq_map_step
    (table : Table)
    (number : Nat)
    (line : Text) :
    table.steps number line =
      (table.take (table.reach (table.winner? line))).map
        (Event.step number line) := by
  induction table with
  | nil => rfl
  | cons rule rules ih =>
      cases hConvert : rule.convert? line with
      | some output =>
          have hApplies :=
            Rule.applies_of_convert?_eq_some hConvert
          have hAdmits := Rule.admits_of_applies hApplies
          rw [steps_cons_of_convert?_eq_some number rules
            hConvert]
          simp [winner?, List.findIdx?_cons, hApplies, reach,
            Event.step, hAdmits]
      | none =>
          have hApplies :=
            Rule.applies_of_convert?_eq_none hConvert
          have hWinner :
              winner? (rule :: rules) line =
                (winner? rules line).map (· + 1) := by
            simp [winner?, List.findIdx?_cons, hApplies]
          rw [steps_cons_of_convert?_eq_none number rules
            hConvert, ih, hWinner, reach_cons,
            List.take_succ_cons, List.map_cons]

/- The last step of a walk with a winner is to try it. -/
theorem exists_steps_eq_concat
    {table : Table}
    {line : Text}
    {i : Nat}
    (number : Nat)
    (hWinner : table.winner? line = some i) :
    ∃ front rule,
      table[i]? = some rule ∧
        table.steps number line =
          front ++ [.tried number rule] := by
  rcases List.findIdx?_eq_some_iff_getElem.mp hWinner with
    ⟨hBound, hApplies, _⟩
  have hAdmits := Rule.admits_of_applies hApplies
  refine ⟨(table.take i).map (Event.step number line),
    table[i], List.getElem?_eq_getElem hBound, ?_⟩
  rw [steps_eq_map_step, hWinner, reach,
    List.take_succ_eq_append_getElem hBound,
    List.map_append, List.map_singleton, Event.step,
    if_pos hAdmits]

end Table

end Translit

------------------------------------------------------------
-- Lines Of A Log
------------------------------------------------------------

namespace Translit

namespace Table

/-
  The events of a line by its verdict: the rules up to the
  winner, and then the line with the entry written for it.
-/
def account
    (table : Table)
    (number : Nat)
    (raw entry : Text) : List Event :=
  let winner := (table.judge raw).winner
  (table.take (table.reach winner)).map
      (Event.step number raw.stripped) ++
    [.done number (table.winnerLabel winner) raw entry]

theorem lineEvents_eq_account
    (table : Table)
    (number : Nat)
    (raw : Text) :
    table.lineEvents number raw =
      table.account number raw (table.judge raw).output := by
  rw [lineEvents, account, winner_judge, steps_eq_map_step]

/- No step of a line ends one. -/
theorem done_notMem_steps
    (table : Table)
    (number : Nat)
    (line : Text)
    (n : Nat)
    (name raw converted : Text) :
    .done n name raw converted ∉
      table.steps number line := by
  rw [steps_eq_map_step]
  intro hMember
  rcases List.mem_map.mp hMember with ⟨rule, _, hStep⟩
  exact Event.step_ne_done _ _ _ _ _ _ _ hStep

/-
  Two ways to cut a list meet at the first element that is
  not in the front, or one of them cuts further behind.
-/
theorem cut_cases
    {front rest before after : List Event}
    {first event : Event}
    (hCut :
      front ++ first :: rest = before ++ event :: after)
    (hFront : event ∉ front) :
    (before = front ∧ first = event) ∨
      ∃ more,
        before = front ++ first :: more ∧
          rest = more ++ event :: after := by
  rcases List.append_eq_append_iff.mp hCut with
    ⟨more, hBefore, hRest⟩ | ⟨more, hEarlier, hRest⟩
  · cases more with
    | nil =>
        injection hRest with hFirst
        rw [List.append_nil] at hBefore
        exact .inl ⟨hBefore, hFirst⟩
    | cons other more =>
        injection hRest with hFirst hMore
        rw [hFirst]
        exact .inr ⟨more, hBefore, hMore⟩
  · cases more with
    | nil =>
        injection hRest with hFirst
        rw [List.append_nil] at hEarlier
        exact .inl ⟨hEarlier.symm, hFirst.symm⟩
    | cons other more =>
        injection hRest with hOther
        rw [hEarlier, hOther] at hFront
        simp at hFront

/-
  Where a line ends in a log, its steps stand right before.
  The induction is on the lines of the log.
-/
theorem suffix_of_log_eq_append
    (table : Table)
    {numbered : List (Text × Nat)}
    {before after : List Event}
    {number lines manual : Nat}
    {name raw converted : Text}
    (hLog :
      (numbered.flatMap fun line =>
          table.lineEvents line.2 line.1) ++
          [.finished lines manual] =
        before ++ .done number name raw converted :: after) :
    name = table.winnerLabel (table.judge raw).winner ∧
      table.steps number raw.stripped <:+ before := by
  induction numbered generalizing before with
  | nil =>
      have hMember :
          Event.done number name raw converted ∈
            [Event.finished lines manual] := by
        rw [List.flatMap_nil, List.nil_append] at hLog
        simp [hLog]
      simp at hMember
  | cons line numbered ih =>
      rw [List.flatMap_cons, lineEvents, List.append_assoc,
        List.append_assoc, List.singleton_append] at hLog
      rcases cut_cases hLog
          (done_notMem_steps _ _ _ _ _ _ _) with
        ⟨hBefore, hDone⟩ | ⟨more, hBefore, hMore⟩
      · injection hDone with hNumber hName hRaw
        subst hNumber hName hRaw
        rw [hBefore]
        exact ⟨rfl, List.suffix_rfl⟩
      · rcases ih hMore with ⟨hName, hSuffix⟩
        refine ⟨hName, hSuffix.trans ?_⟩
        rw [hBefore, List.append_cons]
        exact List.suffix_append _ more

end Table

end Translit

------------------------------------------------------------
-- Counting Events
------------------------------------------------------------

namespace Translit

namespace Event

/- Whether a rule was tried. -/
def isTry : Event → Bool
| .tried _ _ => true
| _ => false

/- Whether a rule was skipped. -/
def isSkip : Event → Bool
| .skipped _ _ => true
| _ => false

/- The message of a tried rule belongs to no other event. -/
theorem isTry_eq_message
    (event : Event) :
    event.isTry =
      decide (event.message = "trying rule".toList) := by
  cases event with
  | noCatchAll rules => rfl
  | skipped line rule => rfl
  | tried line rule => rfl
  | done line rule raw converted => rfl
  | finished lines manual => rfl

theorem isSkip_eq_message
    (event : Event) :
    event.isSkip =
      decide
        (event.message =
          "rule skipped by trigger".toList) := by
  cases event with
  | noCatchAll rules => rfl
  | skipped line rule => rfl
  | tried line rule => rfl
  | done line rule raw converted => rfl
  | finished lines manual => rfl

end Event

namespace Table

/- Steps over a line are as many as its verdict counts. -/
theorem countP_steps
    (table : Table)
    (number : Nat)
    (line : Text) :
    (table.steps number line).countP Event.isTry =
        (search line table).tried ∧
      (table.steps number line).countP Event.isSkip =
        (search line table).skipped := by
  induction table with
  | nil => exact ⟨rfl, rfl⟩
  | cons rule rules ih =>
      rcases ih with ⟨hTried, hSkipped⟩
      by_cases hAdmits : rule.gate.admits line
      · cases hConvert : rule.convert? line with
        | some output =>
            simp [steps, search, hAdmits, hConvert,
              Verdict.won, Event.isTry, Event.isSkip]
        | none =>
            simp [steps, search, hAdmits, hConvert,
              Verdict.afterTry, List.countP_cons,
              Event.isTry, Event.isSkip, hTried, hSkipped]
      · simp [steps, search, hAdmits, Verdict.afterSkip,
          List.countP_cons, Event.isTry, Event.isSkip,
          hTried, hSkipped]

/- Counting what only the steps of the lines hold. -/
theorem countP_runEvents
    (table : Table)
    (document : Text)
    (p : Event → Bool)
    (count : Verdict → Nat)
    (hSteps :
      ∀ number line,
        (table.steps number line).countP p =
          count (search line table))
    (hDone :
      ∀ number name raw converted,
        p (.done number name raw converted) = false)
    (hFinished :
      ∀ lines manual, p (.finished lines manual) = false) :
    (table.runEvents document).countP p =
      (((Text.lines document).map table.judge).map
        count).sum := by
  have hLine :
      ∀ line : Text × Nat,
        (table.lineEvents line.2 line.1).countP p =
          count (table.judge line.1) := by
    intro line
    simp [lineEvents, hSteps, hDone, judge]
  have hLines :
      (((Text.lines document).zipIdx 1).map fun line =>
          count (table.judge line.1)) =
        (((Text.lines document).map table.judge).map
          count) := by
    calc
      _ = (((Text.lines document).zipIdx 1).map
            Prod.fst).map fun line =>
              count (table.judge line) := by
          rw [List.map_map]
          rfl
      _ = _ := by
          rw [List.zipIdx_map_fst, List.map_map]
          rfl
  rw [runEvents, List.countP_append, List.countP_singleton,
    hFinished, List.countP_flatMap, ← hLines]
  simp only [Function.comp_def, hLine]
  rfl

/-
  The log replays the run.  For each line in order it comes
  to the rules of the table up to the winner, the last of
  which is tried, and ends with the entry of the line.  The
  counts of the run stand at its end, and those of tried and
  skipped rules are the numbers of their events.
-/
theorem runEvents_replay
    (table : Table)
    (keepRecords : Bool)
    (document : Text) :
    table.runEvents document =
        ((((Text.lines document).zip
            (table.run keepRecords document).entries).zipIdx
              1).flatMap fun line =>
          table.account line.2 line.1.1 line.1.2) ++
        [ .finished
            (table.run keepRecords document).tally.lines
            (table.run keepRecords document).tally.manual ] ∧
      (∀ before after number name raw converted,
        table.runEvents document =
          before ++ .done number name raw converted :: after →
        ∀ i, (table.judge raw).winner = some i →
          ∃ front rule,
            before = front ++ [.tried number rule] ∧
              table[i]? = some rule ∧ name = rule.label) ∧
      ((table.runEvents document).countP fun event =>
          event.message = "trying rule".toList) =
        (table.run keepRecords document).tally.tried ∧
      ((table.runEvents document).countP fun event =>
          event.message =
            "rule skipped by trigger".toList) =
        (table.run keepRecords document).tally.skipped := by
  refine ⟨?_, ?_, ?_, ?_⟩
  · have hPairs :
        (Text.lines document).zip
            (table.run keepRecords document).entries =
          (Text.lines document).map fun line =>
            (line, (table.judge line).output) := by
      simp only [entries_run, output_judge]
      exact List.map_prod_left_eq_zip.symm
    rw [hPairs, List.zipIdx_map, List.flatMap_map, runEvents]
    simp only [lineEvents_eq_account]
    rfl
  · intro before after number name raw converted hLog i
      hWinner
    rcases table.suffix_of_log_eq_append hLog with
      ⟨hName, front, hBefore⟩
    rw [winner_judge] at hWinner
    rcases exists_steps_eq_concat number hWinner with
      ⟨steps, rule, hRule, hSteps⟩
    refine ⟨front ++ steps, rule, ?_, hRule, ?_⟩
    · rw [← hBefore, hSteps, List.append_assoc]
    · rw [hName, winner_judge, hWinner, winnerLabel,
        Option.bind_some, hRule]
  · rw [tally_run]
    simp only [← Event.isTry_eq_message]
    apply countP_runEvents
    · intro number line
      exact (table.countP_steps number line).1
    · intro number name raw converted
      rfl
    · intro lines manual
      rfl
  · rw [tally_run]
    simp only [← Event.isSkip_eq_message]
    apply countP_runEvents
    · intro number line
      exact (table.countP_steps number line).2
    · intro number name raw converted
      rfl
    · intro lines manual
      rfl

/- A line with a winner and one without. -/
theorem runEvents_replay_assignment :
    runEvents [.require, .assignment] "x = 1\r\n?" =
        [ .skipped 1 .require, .tried 1 .assignment,
          .done 1 "assignment" "x = 1" "x = 1",
          .skipped 2 .require, .skipped 2 .assignment,
          .done 2 "<none>" "?"
            "# TODO: Manual translation needed: ?",
          .finished 2 1 ] ∧
      (judge [.require, .assignment] "x = 1").winner =
        some 1 ∧
      ∃ front rule,
        [ Event.skipped 1 .require,
            Event.tried 1 .assignment ] =
            front ++ [Event.tried 1 rule] ∧
          ([.require, .assignment] : Table)[1]? =
            some rule ∧
          "assignment".toList = rule.label := by
  have hLog :
      runEvents [.require, .assignment] "x = 1\r\n?" =
        [ .skipped 1 .require, .tried 1 .assignment ] ++
          .done 1 "assignment" "x = 1" "x = 1" ::
          [ .skipped 2 .require, .skipped 2 .assignment,
            .done 2 "<none>" "?"
              "# TODO: Manual translation needed: ?",
            .finished 2 1 ] := by
    decide
  have hWinner :
      (judge [.require, .assignment] "x = 1").winner =
        some 1 := by
    decide
  exact ⟨hLog, hWinner,
    (runEvents_replay [.require, .assignment] true
      "x = 1\r\n?").2.1 _ _ _ _ _ _ hLog 1 hWinner⟩

end Table

end Translit
