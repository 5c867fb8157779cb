import Translit.Proofs.Rule.Overlap
import Translit.Proofs.Run.Statistics

/-
  Reordering the standard table.

  The order of two rules matters only where both apply to one
  line.  A table that keeps the catch-all last and every
  assignable rule on its side of the assignment therefore
  converts each document like the standard table.

  Key definitions include:
    * `Table.Reordering`

  Main declarations:
    * `Table.find?_eq_of_order`
    * `Table.Reordering.find?_applies_eq`
    * `Table.standard_overlap`
-/

------------------------------------------------------------
-- First Matches And Order
------------------------------------------------------------

namespace Translit

namespace Table

variable {table first second : Table}
variable {p : Rule → Bool}

/- The first match stands before every other match. -/
theorem idxOf_le_of_find?_eq_some
    {rule other : Rule}
    (hFind : table.find? p = some rule)
    (hOther : p other) :
    table.idxOf rule ≤ table.idxOf other := by
  induction table with
  | nil => cases hFind
  | cons head table ih =>
      rw [List.find?_cons] at hFind
      split at hFind
      · cases hFind
        simp
      · next hHead =>
          have hRule : p rule := List.find?_some hFind
          have hNe : ∀ r, p r → head ≠ r := by
            rintro r hR rfl
            rw [hHead] at hR
            cases hR
          rw [List.idxOf_cons_ne _ (hNe rule hRule),
            List.idxOf_cons_ne _ (hNe other hOther)]
          exact Nat.succ_le_succ (ih hFind)

/-
  Tables of the same rules have the same first match if they
  have all matches in the same order.
-/
theorem find?_eq_of_order
    (hMember : ∀ rule, rule ∈ first ↔ rule ∈ second)
    (hOrder :
      ∀ rule other, rule ≠ other → p rule → p other →
        first.idxOf rule < first.idxOf other →
          second.idxOf rule < second.idxOf other) :
    first.find? p = second.find? p := by
  cases hFirst : first.find? p with
  | none =>
      symm
      rw [List.find?_eq_none] at hFirst ⊢
      intro rule hRule
      exact hFirst rule ((hMember rule).mpr hRule)
  | some rule =>
      have hRule : p rule := List.find?_some hFirst
      have hIn : rule ∈ first :=
        List.mem_of_find?_eq_some hFirst
      cases hSecond : second.find? p with
      | none =>
          rw [List.find?_eq_none] at hSecond
          exact absurd hRule
            (hSecond rule ((hMember rule).mp hIn))
      | some other =>
          have hOther : p other := List.find?_some hSecond
          by_contra hNe
          have hNe : rule ≠ other := by
            rintro rfl
            exact hNe rfl
          have hLe := idxOf_le_of_find?_eq_some hFirst hOther
          have hLt : first.idxOf rule < first.idxOf other := by
            apply Nat.lt_of_le_of_ne hLe
            intro hEq
            exact hNe ((List.idxOf_inj hIn).mp hEq)
          have hAfter := hOrder rule other hNe hRule hOther hLt
          have hBefore :=
            idxOf_le_of_find?_eq_some hSecond hRule
          omega

/- Every other rule stands before the last one. -/
theorem idxOf_lt_of_getLast?_eq_some
    {rule last : Rule}
    (hNodup : table.Nodup)
    (hLast : table.getLast? = some last)
    (hRule : rule ∈ table)
    (hNe : rule ≠ last) :
    table.idxOf rule < table.idxOf last := by
  rcases List.getLast?_eq_some_iff.mp hLast with
    ⟨front, rfl⟩
  have hFront : rule ∈ front := by
    simpa [hNe] using hRule
  have hOut : last ∉ front := by
    intro hIn
    have hDisjoint := (List.nodup_append.mp hNodup).2.2
    exact hDisjoint last hIn last (by simp) rfl
  rw [List.idxOf_append_of_mem hFront,
    List.idxOf_append_of_notMem hOut]
  have hLt := List.idxOf_lt_length_of_mem hFront
  omega

end Table

end Translit

------------------------------------------------------------
-- Reorderings
------------------------------------------------------------

namespace Translit

namespace Table

/-
  A table that has the standard rules in another order, with
  the catch-all last and each assignable rule on the same
  side of the assignment as in the standard table.
-/
structure Reordering
    (table : Table) : Prop where
  perm : table.Perm standard
  last : table.getLast? = some .manual
  sides :
    ∀ rule ∈ Rule.assignable,
      table.idxOf rule < table.idxOf .assignment ↔
        standard.idxOf rule < standard.idxOf .assignment

instance
    (table : Table) :
    Decidable table.Reordering :=
  decidable_of_iff
    (table.Perm standard ∧
      table.getLast? = some .manual ∧
      ∀ rule ∈ Rule.assignable,
        table.idxOf rule < table.idxOf .assignment ↔
          standard.idxOf rule < standard.idxOf .assignment)
    ⟨fun h => ⟨h.1, h.2.1, h.2.2⟩,
      fun h => ⟨h.perm, h.last, h.sides⟩⟩

namespace Reordering

variable {table : Table}

theorem nodup
    (hTable : table.Reordering) :
    table.Nodup :=
  hTable.perm.nodup_iff.mpr nodup_standard

theorem mem
    (hTable : table.Reordering)
    (rule : Rule) :
    rule ∈ table :=
  hTable.perm.mem_iff.mpr (Rule.mem_standard rule)

/-
  Two rules that apply to one line stand in the order of the
  standard table.
-/
theorem idxOf_standard_lt
    (hTable : table.Reordering)
    {line : Text}
    {rule other : Rule}
    (hNe : rule ≠ other)
    (hRule : rule.applies line)
    (hOther : other.applies line)
    (hLt : table.idxOf rule < table.idxOf other) :
    standard.idxOf rule < standard.idxOf other := by
  -- The catch-all applies everywhere but stands last in both
  -- tables; other rules only meet at the assignment.
  by_cases hManual : rule = .manual
  · subst hManual
    have hBefore :=
      idxOf_lt_of_getLast?_eq_some hTable.nodup hTable.last
        (hTable.mem other) (Ne.symm hNe)
    omega
  by_cases hManual' : other = .manual
  · subst hManual'
    exact idxOf_lt_of_getLast?_eq_some nodup_standard rfl
      (Rule.mem_standard rule) hNe
  rcases Rule.overlap_cases hNe hManual hManual' hRule
      hOther with ⟨rfl, hSide⟩ | ⟨rfl, hSide⟩
  · have hSides := hTable.sides other hSide
    have hPlaces :
        standard.idxOf .assignment ≠
          standard.idxOf other := by
      intro hEq
      exact hNe
        ((List.idxOf_inj
          (Rule.mem_standard .assignment)).mp hEq)
    omega
  · exact (hTable.sides rule hSide).mp hLt

/- The first rule that applies to a line stays the same. -/
theorem find?_applies_eq
    (hTable : table.Reordering)
    (line : Text) :
    (table.find? fun rule => rule.applies line) =
      standard.find? fun rule => rule.applies line := by
  apply find?_eq_of_order
  · intro rule
    exact hTable.perm.mem_iff
  · intro rule other hNe hRule hOther hLt
    exact hTable.idxOf_standard_lt hNe hRule hOther hLt

/- Lines are left for the catch-all alone. -/
theorem isManual_eq
    (hTable : table.Reordering)
    (line : Text) :
    ((table.winner? line).isNone ||
        table.winner? line == table.catchAll?) =
      ((standard.find? fun rule => rule.applies line) ==
        some .manual) := by
  rw [← hTable.find?_applies_eq, catchAll?_eq,
    if_pos hTable.last, List.find?_eq_bind_findIdx?_getElem?]
  change _ = ((table.winner? line).bind (table[·]?) == _)
  cases hWinner : table.winner? line with
  | none =>
      have hNone :=
        List.findIdx?_eq_none_iff.mp hWinner .manual
          (hTable.mem .manual)
      simp at hNone
  | some i =>
      have hLt : i < table.length :=
        (List.findIdx?_eq_some_iff_findIdx_eq.mp hWinner).1
      have hEnd : table[table.length - 1]? = some .manual := by
        rw [← List.getLast?_eq_getElem?]
        exact hTable.last
      by_cases hPlace : i = table.length - 1
      · simp [hPlace, hEnd]
      · have hOther : table[i]? ≠ some .manual := by
          intro hManual
          rw [← hEnd] at hManual
          exact hPlace
            ((List.getElem?_inj hLt hTable.nodup).mp hManual)
        simp [hPlace, hOther]

end Reordering

end Table

end Translit

------------------------------------------------------------
-- Runs
------------------------------------------------------------

namespace Translit

namespace Table

namespace Reordering

variable {table : Table}

/- A reordered table writes what the standard one writes. -/
theorem entries_run_eq
    (hTable : table.Reordering)
    (keepRecords : Bool)
    (document : Text) :
    (table.run keepRecords document).entries =
      (standard.run keepRecords document).entries := by
  rw [entries_run, entries_run]
  apply List.map_congr_left
  intro line _
  rw [firstOutput_eq_find?, firstOutput_eq_find?,
    hTable.find?_applies_eq]

/- It leaves the same lines for conversion by hand. -/
theorem manual_run_eq_standard
    (hTable : table.Reordering)
    (keepRecords : Bool)
    (document : Text) :
    (table.run keepRecords document).tally.manual =
      (standard.run keepRecords document).tally.manual := by
  have hStandard : standard.Reordering := by
    decide
  rw [manual_run, manual_run, winners, winners,
    List.countP_map, List.countP_map]
  apply List.countP_congr
  intro line _
  simp only [Function.comp_apply, hTable.isManual_eq,
    hStandard.isManual_eq]

end Reordering

/-
  The overlap of the standard rules.  At most two rules
  beside the catch-all apply to a line, one of them the
  assignment and the other one assignable, and each
  assignable rule does so.  No reordering of the table that
  respects this changes what is written or counted as left
  for conversion by hand.
-/
theorem standard_overlap :
    (∀ line,
      (standard.filter fun rule =>
        rule != .manual && rule.applies line).length ≤ 2) ∧
      (∀ line first second,
        first ≠ second → first ≠ .manual →
          second ≠ .manual →
          first.applies line → second.applies line →
            (first = .assignment ∧
                second ∈ Rule.assignable) ∨
              (second = .assignment ∧
                first ∈ Rule.assignable)) ∧
      (∀ rule ∈ Rule.assignable, ∃ line,
        rule.applies line ∧ Rule.assignment.applies line) ∧
      ∀ table : Table, table.Reordering →
        ∀ keepRecords document,
          (table.run keepRecords document).entries =
              (standard.run keepRecords document).entries ∧
            (table.run keepRecords document).tally.manual =
              (standard.run keepRecords
                document).tally.manual := by
  refine ⟨length_filter_applies_le_two, ?_,
    Rule.exists_overlap, ?_⟩
  · intro line first second hNe hFirst hSecond hApplies
      hApplies'
    exact Rule.overlap_cases hNe hFirst hSecond hApplies
      hApplies'
  · intro table hTable keepRecords document
    exact
      ⟨hTable.entries_run_eq keepRecords document,
        hTable.manual_run_eq_standard keepRecords document⟩

/-
  The line `if =x` has two rules, and the standard rules can
  be turned around within the two sides of the assignment.
-/
theorem standard_overlap_reversed :
    Rule.ifBranch.applies "if =x" ∧
      Rule.assignment.applies "if =x" ∧
      Rule.ifBranch ∈ Rule.assignable ∧
      Reordering
        ((standard.take 14).reverse ++
          .assignment :: .exit :: .warn :: .print ::
          [.manual]) ∧
      ∀ keepRecords document,
        (run
            ((standard.take 14).reverse ++
              .assignment :: .exit :: .warn :: .print ::
              [.manual])
            keepRecords document).entries =
          (standard.run keepRecords document).entries := by
  have hIf : Rule.ifBranch.applies "if =x" := by
    decide
  have hAssignment : Rule.assignment.applies "if =x" := by
    decide
  have hTable :
      Reordering
        ((standard.take 14).reverse ++
          .assignment :: .exit :: .warn :: .print ::
          [.manual]) := by
    decide
  rcases standard_overlap.2.1 "if =x" .ifBranch .assignment
      (by decide) (by decide) (by decide) hIf hAssignment with
    ⟨hEq, _⟩ | ⟨_, hMember⟩
  · cases hEq
  · refine ⟨hIf, hAssignment, hMember, hTable, ?_⟩
    intro keepRecords document
    exact
      (standard_overlap.2.2.2 _ hTable keepRecords
        document).1

end Table

end Translit
