import Translit.Proofs.Rule.Gating
import Translit.Verdict

/-
  A verdict is the first match of a table.

  Gates only save work: the winner of a line and what is
  written for it are those of the first rule whose pattern
  matches, gates or no gates.  Each rule up to the winner is
  either tried or skipped, so the two counts together say
  how far the walk has come.

  Key definitions include:
    * `Table.winner?`
    * `Table.firstOutput`
    * `Table.reach`

  Main declarations:
    * `Table.search_cons_of_convert?_eq_some`
    * `Table.search_cons_of_convert?_eq_none`
    * `Table.winner_judge`
    * `Table.output_judge`
    * `Table.tried_add_skipped_judge`
    * `Table.judge_eq_ungated`
-/

------------------------------------------------------------
-- Search Without Gates
------------------------------------------------------------

namespace Translit

namespace Table

/- The position of the first rule that applies to a line. -/
def winner?
    (table : Table)
    (line : Text) : Option Nat :=
  table.findIdx? fun rule => rule.applies line

/-
  What the first rule that applies to a line writes, or the
  line marked for conversion by hand.
-/
def firstOutput
    (table : Table)
    (line : Text) : Text :=
  (table.findSome? fun rule => rule.convert? line).getD
    (manualLine line)

/- How many rules a walk looks at until it has a winner. -/
def reach
    (table : Table) : Option Nat → Nat
| some i => i + 1
| none => table.length

end Table

namespace Rule

/- A rule writes something for the lines it applies to. -/
@[simp] theorem isSome_convert?
    (rule : Rule)
    (line : Text) :
    (rule.convert? line).isSome = rule.applies line := by
  simp [convert?, applies]

theorem applies_of_convert?_eq_some
    {rule : Rule}
    {line output : Text}
    (hConvert : rule.convert? line = some output) :
    rule.applies line := by
  rw [← isSome_convert?, hConvert]
  rfl

theorem applies_of_convert?_eq_none
    {rule : Rule}
    {line : Text}
    (hConvert : rule.convert? line = none) :
    rule.applies line = false := by
  rw [← isSome_convert?, hConvert]
  rfl

end Rule

namespace Table

/- The first output is that of the first rule that applies. -/
theorem firstOutput_eq_find?
    (table : Table)
    (line : Text) :
    table.firstOutput line =
      ((table.find? fun rule => rule.applies line).bind
        fun rule => rule.convert? line).getD
        (manualLine line) := by
  unfold firstOutput
  congr 1
  induction table with
  | nil => rfl
  | cons rule rules ih =>
      cases hConvert : rule.convert? line with
      | some output =>
          have hApplies :=
            Rule.applies_of_convert?_eq_some hConvert
          simp [hConvert, hApplies]
      | none =>
          have hApplies :=
            Rule.applies_of_convert?_eq_none hConvert
          simp [hConvert, hApplies, ih]

end Table

end Translit

------------------------------------------------------------
-- One Step Of A Search
------------------------------------------------------------

namespace Translit

namespace Table

/- A rule that applies wins, as its gate cannot be closed. -/
theorem search_cons_of_convert?_eq_some
    {rule : Rule}
    {line output : Text}
    (rules : Table)
    (hConvert : rule.convert? line = some output) :
    search line (rule :: rules) = .won output := by
  have hAdmits : rule.gate.admits line :=
    Rule.admits_of_applies
      (Rule.applies_of_convert?_eq_some hConvert)
  simp [search, hAdmits, hConvert]

/- Any other rule is tried or skipped, and the walk goes on. -/
theorem search_cons_of_convert?_eq_none
    {rule : Rule}
    {line : Text}
    (rules : Table)
    (hConvert : rule.convert? line = none) :
    search line (rule :: rules) =
        (search line rules).afterTry ∨
      search line (rule :: rules) =
        (search line rules).afterSkip := by
  by_cases hAdmits : rule.gate.admits line
  · left
    simp [search, hAdmits, hConvert]
  · right
    simp [search, hAdmits]

end Table

end Translit

------------------------------------------------------------
-- Whole Searches
------------------------------------------------------------

namespace Translit

namespace Table

theorem winner_search
    (table : Table)
    (line : Text) :
    (search line table).winner = table.winner? line := by
  induction table with
  | nil => rfl
  | cons rule rules ih =>
      cases hConvert : rule.convert? line with
      | some output =>
          have hApplies :=
            Rule.applies_of_convert?_eq_some hConvert
          rw [search_cons_of_convert?_eq_some rules hConvert]
          simp [winner?, List.findIdx?_cons, hApplies,
            Verdict.won]
      | none =>
          have hApplies :=
            Rule.applies_of_convert?_eq_none hConvert
          rw [winner?, List.findIdx?_cons, hApplies]
          rcases search_cons_of_convert?_eq_none rules
              hConvert with hTry | hSkip
          · rw [hTry, Verdict.afterTry, ih]
            rfl
          · rw [hSkip, Verdict.afterSkip, ih]
            rfl

theorem output_search
    (table : Table)
    (line : Text) :
    (search line table).output =
      table.firstOutput line := by
  induction table with
  | nil => rfl
  | cons rule rules ih =>
      cases hConvert : rule.convert? line with
      | some output =>
          rw [search_cons_of_convert?_eq_some rules hConvert]
          simp [firstOutput, hConvert, Verdict.won]
      | none =>
          rw [firstOutput, List.findSome?_cons, hConvert]
          rcases search_cons_of_convert?_eq_none rules
              hConvert with hTry | hSkip
          · rw [hTry]
            exact ih
          · rw [hSkip]
            exact ih

/- Reaching on behind a rule that does not win. -/
theorem reach_cons
    (rule : Rule)
    (rules : Table)
    (winner : Option Nat) :
    reach (rule :: rules) (winner.map (· + 1)) =
      reach rules winner + 1 := by
  cases winner with
  | none => rfl
  | some i => rfl

/- Each rule that is looked at is tried or skipped. -/
theorem tried_add_skipped_search
    (table : Table)
    (line : Text) :
    (search line table).tried +
        (search line table).skipped =
      table.reach (table.winner? line) := by
  rw [← winner_search]
  induction table with
  | nil => rfl
  | cons rule rules ih =>
      cases hConvert : rule.convert? line with
      | some output =>
          rw [search_cons_of_convert?_eq_some rules hConvert]
          rfl
      | none =>
          rcases search_cons_of_convert?_eq_none rules
              hConvert with hTry | hSkip
          · rw [hTry, Verdict.afterTry]
            simp only [reach_cons]
            omega
          · rw [hSkip, Verdict.afterSkip]
            simp only [reach_cons]
            omega

end Table

end Translit

------------------------------------------------------------
-- Verdicts
------------------------------------------------------------

namespace Translit

namespace Table

@[simp] theorem winner_judge
    (table : Table)
    (line : Text) :
    (table.judge line).winner =
      table.winner? line.stripped :=
  winner_search table line.stripped

@[simp] theorem output_judge
    (table : Table)
    (line : Text) :
    (table.judge line).output =
      table.firstOutput line.stripped :=
  output_search table line.stripped

theorem tried_add_skipped_judge
    (table : Table)
    (line : Text) :
    (table.judge line).tried + (table.judge line).skipped =
      table.reach (table.winner? line.stripped) :=
  tried_add_skipped_search table line.stripped

/-
  Gates never change a verdict: the winner and the output
  are those of trying every pattern in table order.
-/
theorem judge_eq_ungated
    (table : Table)
    (line : Text) :
    (table.judge line).winner =
        (table.findIdx? fun rule =>
          rule.applies line.stripped) ∧
      (table.judge line).output =
        (table.findSome? fun rule =>
          rule.convert? line.stripped).getD
          (manualLine line.stripped) := by
  constructor
  · exact winner_judge table line
  · exact output_judge table line

end Table

end Translit
