import Mathlib.Data.List.Nodup
import Translit.Proofs.Rule.Overlap
import Translit.Proofs.Run.Statistics

/-
  The rule that wins a line.

  Verdicts name their winner by its position in the table.
  Here the winner is named by its rule: the first one that
  applies.  The standard table has no rule twice, so there
  both names count the same lines, and some rule wins every
  line.

  Key definitions include:
    * `Table.ruleFor?`
    * `Table.linesOf`

  Main declarations:
    * `Table.winnerLabel_winner?`
    * `Table.convert?_of_ruleFor?`
    * `Table.exists_ruleFor?_standard`
    * `Table.count_some_winners`
    * `Table.hits_run_standard`
    * `Table.manual_run_standard`
    * `Rule.label_injective`
-/

------------------------------------------------------------
-- Rules Of Lines
------------------------------------------------------------

namespace Translit

namespace Table

/- The first rule of a table that applies to a line. -/
def ruleFor?
    (table : Table)
    (line : Text) : Option Rule :=
  table.find? fun rule => rule.applies line

/- The number of lines of a document that a rule wins. -/
def linesOf
    (table : Table)
    (rule : Rule)
    (document : Text) : Nat :=
  (Text.lines document).countP fun line =>
    table.ruleFor? line.stripped = some rule

variable {table : Table}
variable {line : Text}
variable {rule : Rule}

/- The winner stands at its position in the table. -/
theorem bind_winner?
    (table : Table)
    (line : Text) :
    (table.winner? line).bind (table[·]?) =
      table.ruleFor? line :=
  List.find?_eq_bind_findIdx?_getElem?.symm

theorem winnerLabel_winner?
    (hRule : table.ruleFor? line = some rule) :
    table.winnerLabel (table.winner? line) = rule.label := by
  rw [winnerLabel, bind_winner?, hRule]

theorem applies_of_ruleFor?
    (hRule : table.ruleFor? line = some rule) :
    rule.applies line := by
  unfold ruleFor? at hRule
  have hApplies := List.find?_some hRule
  exact hApplies

theorem firstOutput_eq_ruleFor?
    (table : Table)
    (line : Text) :
    table.firstOutput line =
      ((table.ruleFor? line).bind fun rule =>
        rule.convert? line).getD (manualLine line) :=
  firstOutput_eq_find? table line

/- A line without a rule is marked. -/
theorem firstOutput_of_ruleFor?_eq_none
    (hNone : table.ruleFor? line = none) :
    table.firstOutput line = manualLine line := by
  rw [firstOutput_eq_ruleFor?, hNone]
  rfl

/- What is written for a line is the output of its rule. -/
theorem convert?_of_ruleFor?
    (hRule : table.ruleFor? line = some rule) :
    rule.convert? line = some (table.firstOutput line) := by
  have hSome : (rule.convert? line).isSome := by
    rw [Rule.isSome_convert?]
    exact applies_of_ruleFor? hRule
  rcases Option.isSome_iff_exists.mp hSome with
    ⟨output, hConvert⟩
  rw [firstOutput_eq_ruleFor?, hRule, Option.bind_some,
    hConvert]
  rfl

/- Some standard rule wins every line. -/
theorem exists_ruleFor?_standard
    (line : Text) :
    ∃ rule, standard.ruleFor? line = some rule := by
  apply Option.isSome_iff_exists.mp
  rw [ruleFor?, List.find?_isSome]
  exact ⟨.manual, Rule.mem_standard _,
    Rule.applies_manual line⟩

/- A table without repetitions has each rule once. -/
theorem winner?_eq_some_iff
    {i : Nat}
    (hNodup : table.Nodup)
    (hPlace : table[i]? = some rule) :
    table.winner? line = some i ↔
      table.ruleFor? line = some rule := by
  rw [← bind_winner?]
  cases hWinner : table.winner? line with
  | none => simp
  | some j =>
      have hLt : j < table.length :=
        (List.findIdx?_eq_some_iff_findIdx_eq.mp hWinner).1
      rw [Option.bind_some, ← hPlace,
        List.getElem?_inj hLt hNodup, Option.some_inj]

/- Lines are counted alike by position and by rule. -/
theorem count_some_winners
    {i : Nat}
    (document : Text)
    (hNodup : table.Nodup)
    (hPlace : table[i]? = some rule) :
    (table.winners document).count (some i) =
      table.linesOf rule document := by
  rw [winners, List.count_eq_countP, List.countP_map,
    linesOf]
  apply List.countP_congr
  intro line _
  simpa using winner?_eq_some_iff hNodup hPlace

/- The hits of the standard table, rule by rule. -/
theorem hits_run_standard
    (keepRecords : Bool)
    (document : Text) :
    (standard.run keepRecords document).tally.hits =
      standard.map fun rule =>
        standard.linesOf rule document := by
  rw [hits_run]
  apply List.ext_getElem
  · simp
  · intro i hLeft hRight
    have hLt : i < standard.length := by
      simpa using hRight
    rw [List.getElem_map, List.getElem_range,
      List.getElem_map]
    exact count_some_winners document nodup_standard
      (List.getElem?_eq_getElem hLt)

/- What is left for conversion by hand is what manual wins. -/
theorem manual_run_standard
    (keepRecords : Bool)
    (document : Text) :
    (standard.run keepRecords document).tally.manual =
      standard.linesOf .manual document := by
  have hNone :
      (standard.winners document).count none = 0 :=
    count_none_winners_of_mem document (by decide)
  have hLast : standard.getLast? = some .manual := rfl
  rw [manual_run_eq, hNone, if_pos hLast, Nat.zero_add]
  exact count_some_winners document nodup_standard rfl

end Table

end Translit

------------------------------------------------------------
-- Names Of Rules
------------------------------------------------------------

namespace Translit

namespace Rule

/- No two rules have the same name. -/
theorem label_injective :
    Function.Injective label := by
  have hNodup : (Table.standard.map label).Nodup := by
    decide
  intro first second hLabel
  exact List.inj_on_of_nodup_map hNodup (mem_standard first)
    (mem_standard second) hLabel

end Rule

end Translit
