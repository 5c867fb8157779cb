import Translit.Condition
import Translit.Proofs.Text.Replacement

/-
  Operators that repeat a sign, one by one and together.

  An operator is spelled out inside the runs of its sign, run
  by run.  Operators are apart if neither has the other's
  sign, also not in its word.  Then each run is spelled out by
  one operator, and the others leave alone what it writes.

  Key definitions include:
    * `Condition.Operator`
    * `Condition.Operator.rewrite`
    * `Condition.Operator.spelled`
    * `Condition.Operator.Apart`

  Main declarations:
    * `Condition.Operator.rewrite_run`
    * `Condition.Operator.not_isInfix_rewrite`
    * `Condition.replaceEach_append_of_notMem`
    * `Condition.replaceEach_run`
-/

------------------------------------------------------------
-- Operators
------------------------------------------------------------

namespace Translit

namespace Condition

/-
  An operator is some copies of a sign.  Its word is not
  empty and does not hold the sign.
-/
structure Operator where
  sign : Char
  width : Nat
  word : Text
  width_pos : 0 < width
  word_ne_nil : word ≠ []
  sign_notMem_word : sign ∉ word

namespace Operator

/- The signs that are replaced. -/
def target
    (op : Operator) : Text :=
  List.replicate op.width op.sign

/- The operator as a step of replacement. -/
def step
    (op : Operator) : Text × Text :=
  (op.target, op.word)

/- Replace one operator everywhere. -/
def rewrite
    (op : Operator)
    (t : Text) : Text :=
  Text.replaceAll op.target op.word t

/-
  What a run of the sign becomes: words, and the signs that
  are too few for another word.
-/
def spelled
    (op : Operator)
    (n : Nat) : Text :=
  (List.replicate (n / op.width) op.word).flatten ++
    List.replicate (n % op.width) op.sign

variable (op : Operator)
variable {c : Char}
variable {t rest : Text}

theorem head?_target :
    op.target.head? = some op.sign := by
  rw [target, List.head?_replicate,
    if_neg op.width_pos.ne']

theorem target_ne_nil :
    op.target ≠ [] := by
  intro hNil
  have hHead := op.head?_target
  rw [hNil] at hHead
  cases hHead

/- Text without the sign is left alone. -/
theorem rewrite_append_of_notMem
    {front : Text}
    (t : Text)
    (hFront : op.sign ∉ front) :
    op.rewrite (front ++ t) = front ++ op.rewrite t :=
  Text.replaceAll_append_of_notMem op.word t
    op.head?_target hFront

theorem head?_rewrite_ne
    (hWord : c ∉ op.word)
    (hText : t.head? ≠ some c) :
    (op.rewrite t).head? ≠ some c :=
  Text.head?_replaceAll_ne op.target_ne_nil op.word_ne_nil
    hWord hText

theorem notMem_words
    (n : Nat)
    (hWord : c ∉ op.word) :
    c ∉ (List.replicate n op.word).flatten := by
  intro hMember
  rcases List.mem_flatten.mp hMember with
    ⟨word, hCopy, hInside⟩
  rw [List.eq_of_mem_replicate hCopy] at hInside
  exact hWord hInside

theorem notMem_spelled
    (n : Nat)
    (hSign : c ≠ op.sign)
    (hWord : c ∉ op.word) :
    c ∉ op.spelled n := by
  rw [spelled, List.mem_append, not_or]
  constructor
  · exact op.notMem_words _ hWord
  · intro hMember
    exact hSign (List.eq_of_mem_replicate hMember)

end Operator

end Condition

end Translit

------------------------------------------------------------
-- One Operator On Runs
------------------------------------------------------------

namespace Translit

namespace Condition

namespace Operator

variable (op : Operator)
variable {n : Nat}
variable {t rest : Text}

/- Too few signs are not an occurrence. -/
theorem not_isPrefix_few
    (hFew : n < op.width)
    (hRest : rest.head? ≠ some op.sign) :
    ¬ op.target <+: List.replicate n op.sign ++ rest := by
  rcases Nat.exists_eq_add_of_lt hFew with ⟨more, hWidth⟩
  have hTarget :
      op.target =
        List.replicate n op.sign ++
          op.sign :: List.replicate more op.sign := by
    rw [target, hWidth, Nat.add_assoc, List.replicate_add,
      List.replicate_succ]
  rw [hTarget, List.prefix_append_right_inj,
    List.cons_prefix_iff]
  rintro ⟨tail, rfl, _⟩
  exact hRest rfl

/- Too few signs are copied. -/
theorem rewrite_few
    (hFew : n < op.width)
    (hRest : rest.head? ≠ some op.sign) :
    op.rewrite (List.replicate n op.sign ++ rest) =
      List.replicate n op.sign ++ op.rewrite rest := by
  induction n with
  | zero => rfl
  | succ n ih =>
      have hNone := op.not_isPrefix_few hFew hRest
      calc
        _ = op.sign ::
              op.rewrite
                (List.replicate n op.sign ++ rest) :=
            Text.replaceAll_cons_of_not_isPrefix op.word hNone
        _ = _ := by
            rw [ih (Nat.lt_of_succ_lt hFew)]
            rfl

/- Full sets of signs are replaced one after the other. -/
theorem rewrite_sets
    (words : Nat)
    (t : Text) :
    op.rewrite
        (List.replicate (op.width * words) op.sign ++ t) =
      (List.replicate words op.word).flatten ++
        op.rewrite t := by
  induction words with
  | zero => rfl
  | succ words ih =>
      have hSplit :
          List.replicate (op.width * (words + 1)) op.sign =
            op.target ++
              List.replicate (op.width * words) op.sign := by
        rw [target, ← List.replicate_add, Nat.mul_succ,
          Nat.add_comm]
      calc
        _ = op.rewrite
              (op.target ++
                (List.replicate (op.width * words) op.sign ++
                  t)) := by
            rw [hSplit, List.append_assoc]
        _ = op.word ++
              op.rewrite
                (List.replicate (op.width * words) op.sign ++
                  t) :=
            Text.replaceAll_target_append op.word _
              op.target_ne_nil
        _ = _ := by
            rw [ih, List.replicate_succ, List.flatten_cons,
              List.append_assoc]

/-
  A run of the sign is spelled out by itself, as soon as
  another character follows.
-/
theorem rewrite_run
    (n : Nat)
    (hRest : rest.head? ≠ some op.sign) :
    op.rewrite (List.replicate n op.sign ++ rest) =
      op.spelled n ++ op.rewrite rest := by
  have hFew : n % op.width < op.width :=
    Nat.mod_lt n op.width_pos
  calc
    _ = op.rewrite
          (List.replicate (op.width * (n / op.width))
              op.sign ++
            (List.replicate (n % op.width) op.sign ++
              rest)) := by
        rw [← List.append_assoc, ← List.replicate_add,
          Nat.div_add_mod]
    _ = op.spelled n ++ op.rewrite rest := by
        rw [rewrite_sets, op.rewrite_few hFew hRest, spelled,
          List.append_assoc]

/- Too few signs bring no occurrence into a text. -/
theorem isInfix_of_few
    (hFew : n < op.width)
    (hRest : rest.head? ≠ some op.sign)
    (hInfix :
      op.target <:+: List.replicate n op.sign ++ rest) :
    op.target <:+: rest := by
  induction n with
  | zero => exact hInfix
  | succ n ih =>
      have hNone := op.not_isPrefix_few hFew hRest
      rw [List.replicate_succ, List.cons_append] at hInfix hNone
      have hTail :=
        (List.infix_cons_iff.mp hInfix).resolve_left hNone
      exact ih (Nat.lt_of_succ_lt hFew) hTail

/- A replaced operator does not occur any more. -/
theorem not_isInfix_rewrite
    (t : Text) :
    ¬ op.target <:+: op.rewrite t := by
  induction t using Text.runInduction with
  | nil =>
      intro hInfix
      exact op.target_ne_nil (List.infix_nil.mp hInfix)
  | run c n rest hRest ih =>
      intro hInfix
      by_cases hSign : c = op.sign
      · subst hSign
        have hHead :=
          op.head?_rewrite_ne op.sign_notMem_word hRest
        have hWords :=
          op.notMem_words ((n + 1) / op.width)
            op.sign_notMem_word
        rw [op.rewrite_run (n + 1) hRest, spelled,
          List.append_assoc] at hInfix
        have hFew :=
          Text.isInfix_of_append op.head?_target hWords hInfix
        exact ih
          (op.isInfix_of_few
            (Nat.mod_lt (n + 1) op.width_pos) hHead hFew)
      · have hRun : op.sign ∉ List.replicate (n + 1) c := by
          intro hMember
          exact hSign (List.eq_of_mem_replicate hMember).symm
        rw [op.rewrite_append_of_notMem rest hRun] at hInfix
        exact ih
          (Text.isInfix_of_append op.head?_target hRun
            hInfix)

end Operator

end Condition

end Translit

------------------------------------------------------------
-- Several Operators
------------------------------------------------------------

namespace Translit

namespace Condition

/- Neither of two operators touches the other. -/
structure Operator.Apart
    (a b : Operator) : Prop where
  sign_ne : a.sign ≠ b.sign
  left : a.sign ∉ b.word
  right : b.sign ∉ a.word

theorem Operator.Apart.symm
    {a b : Operator}
    (hApart : a.Apart b) :
    b.Apart a where
  sign_ne := hApart.sign_ne.symm
  left := hApart.right
  right := hApart.left

instance
    (a b : Operator) :
    Decidable (a.Apart b) :=
  decidable_of_iff
    (a.sign ≠ b.sign ∧ a.sign ∉ b.word ∧ b.sign ∉ a.word)
    ⟨fun h => ⟨h.1, h.2.1, h.2.2⟩,
      fun h => ⟨h.sign_ne, h.left, h.right⟩⟩

variable {ops : List Operator}

theorem replaceEach_nil
    (steps : List (Text × Text)) :
    replaceEach steps [] = [] := by
  induction steps with
  | nil => rfl
  | cons step steps ih => exact ih

/- Text without any of the signs is left alone. -/
theorem replaceEach_append_of_notMem
    {front : Text}
    (t : Text)
    (hFront : ∀ op ∈ ops, op.sign ∉ front) :
    replaceEach (ops.map Operator.step) (front ++ t) =
      front ++ replaceEach (ops.map Operator.step) t := by
  induction ops generalizing t with
  | nil => rfl
  | cons op ops ih =>
      have hOthers : ∀ other ∈ ops, other.sign ∉ front := by
        intro other hMember
        exact hFront other (List.mem_cons_of_mem op hMember)
      calc
        _ = replaceEach (ops.map Operator.step)
              (op.rewrite (front ++ t)) := rfl
        _ = replaceEach (ops.map Operator.step)
              (front ++ op.rewrite t) := by
            rw [op.rewrite_append_of_notMem t
              (hFront op (by simp))]
        _ = _ := ih (op.rewrite t) hOthers

/-
  The run of a sign is spelled out by its operator alone.
  Those before it copy the run and put no such sign behind
  it, and those after it copy what was spelled out.
-/
theorem replaceEach_run
    {op : Operator}
    {rest : Text}
    (n : Nat)
    (hApart : ops.Pairwise Operator.Apart)
    (hMember : op ∈ ops)
    (hRest : rest.head? ≠ some op.sign) :
    replaceEach (ops.map Operator.step)
        (List.replicate n op.sign ++ rest) =
      op.spelled n ++
        replaceEach (ops.map Operator.step) rest := by
  induction ops generalizing rest with
  | nil => cases hMember
  | cons first ops ih =>
      rw [List.pairwise_cons] at hApart
      rcases List.mem_cons.mp hMember with rfl | hLater
      · have hSpelled :
            ∀ other ∈ ops, other.sign ∉ op.spelled n := by
          intro other hOther
          have hPair := hApart.1 other hOther
          exact op.notMem_spelled n hPair.sign_ne.symm
            hPair.right
        calc
          _ = replaceEach (ops.map Operator.step)
                (op.rewrite
                  (List.replicate n op.sign ++ rest)) := rfl
          _ = replaceEach (ops.map Operator.step)
                (op.spelled n ++ op.rewrite rest) := by
              rw [op.rewrite_run n hRest]
          _ = _ := replaceEach_append_of_notMem _ hSpelled
      · have hPair := hApart.1 op hLater
        have hRun :
            first.sign ∉ List.replicate n op.sign := by
          intro hSign
          exact hPair.sign_ne (List.eq_of_mem_replicate hSign)
        calc
          _ = replaceEach (ops.map Operator.step)
                (first.rewrite
                  (List.replicate n op.sign ++ rest)) := rfl
          _ = replaceEach (ops.map Operator.step)
                (List.replicate n op.sign ++
                  first.rewrite rest) := by
              rw [first.rewrite_append_of_notMem rest hRun]
          _ = _ :=
              ih hApart.2 hLater
                (first.head?_rewrite_ne hPair.right hRest)

end Condition

end Translit
