import Mathlib.Data.List.Permutation
import Translit.Proofs.Condition.Operators

/-
  Conditions in one pass, and what is left of operators.

  The three operators of a condition are apart.  So it does
  not matter which of them is replaced first: the result can
  be read off the runs of the text in one pass.  And as each
  of them may be taken for the last one, nothing in the
  result is left to replace.

  Key definitions include:
    * `Condition.symbols`
    * `Condition.convertRun`
    * `Condition.onePass`
    * `Condition.IsPlain`

  Main declarations:
    * `Condition.replaceEach_eq_onePass`
    * `Condition.convert_onePass`
    * `Condition.not_isInfix_convert`
    * `Condition.convert_isPlain`
-/

------------------------------------------------------------
-- One Pass
------------------------------------------------------------

namespace Translit

namespace Condition

/- The three operators of a condition. -/
def symbols : List Operator :=
  [ ⟨'&', 2, "and", by decide, by decide, by decide⟩,
    ⟨'|', 2, "or", by decide, by decide, by decide⟩,
    ⟨'!', 1, "not ", by decide, by decide, by decide⟩ ]

theorem operators_eq_map_step :
    operators = symbols.map Operator.step :=
  rfl

theorem pairwise_apart_symbols :
    symbols.Pairwise Operator.Apart := by
  decide

/-
  What a run of equal characters becomes.  Two signs of a
  conjunction or a disjunction make a word, and the last one
  of an odd number stays.
-/
def convertRun : Text → Text
| [] => []
| c :: tail =>
    let n := tail.length + 1
    if c = '&' then
      (List.replicate (n / 2) "and".toList).flatten ++
        if n % 2 = 1 then ['&'] else []
    else if c = '|' then
      (List.replicate (n / 2) "or".toList).flatten ++
        if n % 2 = 1 then ['|'] else []
    else if c = '!' then
      (List.replicate n "not ".toList).flatten
    else
      c :: tail

/- Convert a condition run by run, from left to right. -/
def onePass
    (t : Text) : Text :=
  (Text.runs t).flatMap convertRun

theorem onePass_replicate_append
    {c : Char}
    {rest : Text}
    (n : Nat)
    (hRest : rest.head? ≠ some c) :
    onePass (List.replicate (n + 1) c ++ rest) =
      convertRun (List.replicate (n + 1) c) ++
        onePass rest := by
  rw [onePass, Text.runs_replicate_append n hRest,
    List.flatMap_cons]
  rfl

/- The rest of a division by two, in signs. -/
theorem replicate_mod_two
    (n : Nat)
    (c : Char) :
    List.replicate (n % 2) c =
      if n % 2 = 1 then [c] else [] := by
  rcases Nat.mod_two_eq_zero_or_one n with hEven | hOdd
  · rw [hEven]
    rfl
  · rw [hOdd]
    rfl

/- The run of a sign is spelled out. -/
theorem convertRun_sign
    {op : Operator}
    (n : Nat)
    (hMember : op ∈ symbols) :
    convertRun (List.replicate (n + 1) op.sign) =
      op.spelled (n + 1) := by
  simp only [symbols, List.mem_cons, List.not_mem_nil,
    or_false] at hMember
  rcases hMember with rfl | rfl | rfl
  · simp [convertRun, List.replicate_succ, Operator.spelled,
      replicate_mod_two]
  · simp [convertRun, List.replicate_succ, Operator.spelled,
      replicate_mod_two]
  · simp [convertRun, List.replicate_succ, Operator.spelled,
      Nat.mod_one]

/- The run of any other character stays. -/
theorem convertRun_of_no_sign
    {c : Char}
    (n : Nat)
    (hOther : ∀ op ∈ symbols, op.sign ≠ c) :
    convertRun (List.replicate (n + 1) c) =
      List.replicate (n + 1) c := by
  simp only [symbols, List.forall_mem_cons] at hOther
  rcases hOther with ⟨hAnd, hOr, hNot, _⟩
  simp [convertRun, List.replicate_succ, hAnd.symm, hOr.symm,
    hNot.symm]

/- In whatever order, replacing does what one pass does. -/
theorem replaceEach_eq_onePass
    {ops : List Operator}
    (t : Text)
    (hOrder : ops.Perm symbols) :
    replaceEach (ops.map Operator.step) t = onePass t := by
  have hApart : ops.Pairwise Operator.Apart :=
    (hOrder.pairwise_iff Operator.Apart.symm).mpr
      pairwise_apart_symbols
  induction t using Text.runInduction with
  | nil => exact replaceEach_nil (ops.map Operator.step)
  | run c n rest hRest ih =>
      rw [onePass_replicate_append n hRest]
      by_cases hSign : ∃ op ∈ symbols, op.sign = c
      · rcases hSign with ⟨op, hMember, rfl⟩
        rw [replaceEach_run (n + 1) hApart
            (hOrder.mem_iff.mpr hMember) hRest,
          convertRun_sign n hMember, ih]
      · push Not at hSign
        have hRun :
            ∀ op ∈ ops,
              op.sign ∉ List.replicate (n + 1) c := by
          intro op hMember hCopy
          exact hSign op (hOrder.mem_iff.mp hMember)
            (List.eq_of_mem_replicate hCopy)
        rw [replaceEach_append_of_notMem rest hRun,
          convertRun_of_no_sign n hSign, ih]

/- Every order of the operators is one of their symbols. -/
theorem exists_of_perm_operators
    {steps : List (Text × Text)}
    (hOrder : steps.Perm operators) :
    ∃ ops : List Operator,
      ops.Perm symbols ∧ steps = ops.map Operator.step := by
  rw [operators_eq_map_step, ← List.mem_permutations,
    ← List.map_permutations, List.mem_map] at hOrder
  rcases hOrder with ⟨ops, hMember, rfl⟩
  exact ⟨ops, List.mem_permutations.mp hMember, rfl⟩

theorem convert_eq_onePass
    (t : Text) :
    convert t = onePass t :=
  replaceEach_eq_onePass t (List.Perm.refl symbols)

/-
  Conversion is one pass over the runs of the text, and the
  operators may be replaced in any order.
-/
theorem convert_onePass
    (t : Text) :
    convert t = onePass t ∧
      ∀ steps : List (Text × Text),
        steps.Perm operators →
          replaceEach steps t = convert t := by
  constructor
  · exact convert_eq_onePass t
  · intro steps hOrder
    rcases exists_of_perm_operators hOrder with
      ⟨ops, hSymbols, rfl⟩
    rw [convert_eq_onePass, replaceEach_eq_onePass t hSymbols]

/- The last operator first, on runs that touch each other. -/
theorem convert_onePass_reversed :
    operators.reverse.Perm operators ∧
      replaceEach operators.reverse "!&&&|||!!|&" =
        "not and&or|not not |&".toList := by
  have hOrder : operators.reverse.Perm operators :=
    List.reverse_perm operators
  refine ⟨hOrder, ?_⟩
  rw [(convert_onePass "!&&&|||!!|&").2 _ hOrder]
  rfl

end Condition

end Translit

------------------------------------------------------------
-- Plain Conditions
------------------------------------------------------------

namespace Translit

namespace Condition

/- A text without any of the operators. -/
structure IsPlain
    (t : Text) : Prop where
  conjunction : ¬ "&&".toList <:+: t
  disjunction : ¬ "||".toList <:+: t
  negation : '!' ∉ t

theorem isPlain_iff
    (t : Text) :
    IsPlain t ↔ ∀ op ∈ symbols, ¬ op.target <:+: t := by
  have hMark : ['!'] <:+: t ↔ '!' ∈ t :=
    List.singleton_infix_iff '!' t
  simp only [symbols, List.forall_mem_cons]
  constructor
  · intro hPlain
    exact
      ⟨hPlain.conjunction, hPlain.disjunction,
        hMark.not.mpr hPlain.negation, by simp⟩
  · rintro ⟨hAnd, hOr, hNot, _⟩
    exact ⟨hAnd, hOr, hMark.not.mp hNot⟩

/-
  No operator is left.  As the order does not matter, each of
  them may be taken for the one that is replaced last.
-/
theorem not_isInfix_convert
    {op : Operator}
    (t : Text)
    (hMember : op ∈ symbols) :
    ¬ op.target <:+: convert t := by
  rcases List.append_of_mem hMember with
    ⟨before, after, hSymbols⟩
  have hOrder :
      (before ++ after ++ [op]).Perm symbols := by
    rw [hSymbols]
    exact (List.perm_append_singleton op _).trans
      List.perm_middle.symm
  have hLast :
      convert t =
        op.rewrite
          (replaceEach ((before ++ after).map Operator.step)
            t) := by
    rw [convert_eq_onePass t,
      ← replaceEach_eq_onePass t hOrder, List.map_append,
      replaceEach, List.foldl_append]
    rfl
  rw [hLast]
  exact op.not_isInfix_rewrite _

/- Steps without an occurrence change nothing. -/
theorem replaceEach_of_not_isInfix
    {steps : List (Text × Text)}
    {t : Text}
    (hNone : ∀ step ∈ steps, ¬ step.1 <:+: t) :
    replaceEach steps t = t := by
  induction steps with
  | nil => rfl
  | cons step steps ih =>
      rw [List.forall_mem_cons] at hNone
      have hFirst :=
        Text.replaceAll_of_not_isInfix step.2 hNone.1
      calc
        _ = replaceEach steps
              (Text.replaceAll step.1 step.2 t) := rfl
        _ = replaceEach steps t := by rw [hFirst]
        _ = t := ih hNone.2

/- A plain text stays as it is. -/
theorem convert_of_isPlain
    {t : Text}
    (hPlain : IsPlain t) :
    convert t = t := by
  rw [isPlain_iff] at hPlain
  apply replaceEach_of_not_isInfix
  rw [operators_eq_map_step]
  intro step hStep
  rcases List.mem_map.mp hStep with ⟨op, hMember, rfl⟩
  exact hPlain op hMember

/-
  Conversion leaves no operator, so that a second conversion
  changes nothing, and only plain texts stay as they are.
-/
theorem convert_isPlain
    (t : Text) :
    IsPlain (convert t) ∧
      convert (convert t) = convert t ∧
      (convert t = t ↔ IsPlain t) := by
  have hPlain : IsPlain (convert t) :=
    (isPlain_iff (convert t)).mpr fun op hMember =>
      not_isInfix_convert t hMember
  refine ⟨hPlain, convert_of_isPlain hPlain, ?_⟩
  constructor
  · intro hSame
    rwa [hSame] at hPlain
  · exact convert_of_isPlain

end Condition

end Translit
