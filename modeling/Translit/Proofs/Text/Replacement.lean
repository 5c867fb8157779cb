import Mathlib.Data.List.Infix
import Mathlib.Data.List.SplitBy
import Translit.Text.Basic

/-
  Replacement of every occurrence of a target.

  Three equations describe replacement: nothing is done to
  the empty text, an occurrence at the front is replaced, and
  any other first character is copied.  Text without an
  occurrence comes out as it is, and so does text without the
  first character of the target, whatever follows it.

  Runs of one character are counted here as well, since a
  target that repeats a character is found inside its runs.

  Key definitions include:
    * `Text.runs`

  Main declarations:
    * `Text.replaceAll_target_append`
    * `Text.replaceAll_cons_of_not_isPrefix`
    * `Text.replaceAll_append_of_notMem`
    * `Text.replaceAll_of_not_isInfix`
    * `Text.runInduction`
    * `Text.runs_replicate_append`
-/

------------------------------------------------------------
-- Equations
------------------------------------------------------------

namespace Translit

namespace Text

variable {target new t : Text}

/- Skipping is dropping. -/
theorem replaceFrom_eq_replaceAll
    (target new : Text)
    (skip : Nat)
    (t : Text) :
    replaceFrom target new skip t =
      replaceAll target new (t.drop skip) := by
  induction t generalizing skip with
  | nil => simp [replaceAll, replaceFrom]
  | cons c rest ih =>
      cases skip with
      | zero => rfl
      | succ skip => exact ih skip

/- An occurrence at the front is replaced. -/
theorem replaceAll_target_append
    (new t : Text)
    (hTarget : target ≠ []) :
    replaceAll target new (target ++ t) =
      new ++ replaceAll target new t := by
  cases target with
  | nil => exact absurd rfl hTarget
  | cons c tail =>
      have hFront :
          (c :: tail).isPrefixOf (c :: (tail ++ t)) := by
        simp
      rw [replaceAll, List.cons_append, replaceFrom,
        if_pos hFront, replaceFrom_eq_replaceAll]
      simp

/- Where no occurrence starts, a character is copied. -/
theorem replaceAll_cons_of_not_isPrefix
    {c : Char}
    (new : Text)
    (hFront : ¬ target <+: c :: t) :
    replaceAll target new (c :: t) =
      c :: replaceAll target new t := by
  have hNone : ¬ target.isPrefixOf (c :: t) := by
    rwa [List.isPrefixOf_iff_prefix]
  rw [replaceAll, replaceFrom, if_neg hNone]
  rfl

end Text

end Translit

------------------------------------------------------------
-- Text That Is Left Alone
------------------------------------------------------------

namespace Translit

namespace Text

variable {target t : Text}
variable {c : Char}

/-
  Text without the first character of the target is copied,
  as no occurrence can start in it.
-/
theorem replaceAll_append_of_notMem
    {front : Text}
    (new t : Text)
    (hHead : target.head? = some c)
    (hFront : c ∉ front) :
    replaceAll target new (front ++ t) =
      front ++ replaceAll target new t := by
  rcases List.head?_eq_some_iff.mp hHead with ⟨tail, rfl⟩
  induction front with
  | nil => rfl
  | cons d front ih =>
      have hNone : ¬ c :: tail <+: d :: (front ++ t) := by
        intro hPrefix
        exact List.ne_of_not_mem_cons hFront
          (List.cons_prefix_cons.mp hPrefix).1
      rw [List.cons_append,
        replaceAll_cons_of_not_isPrefix new hNone,
        ih (List.not_mem_of_not_mem_cons hFront),
        List.cons_append]

/- Text without an occurrence stays as it is. -/
theorem replaceAll_of_not_isInfix
    (new : Text)
    (hNone : ¬ target <:+: t) :
    replaceAll target new t = t := by
  induction t with
  | nil => rfl
  | cons c rest ih =>
      rw [List.infix_cons_iff, not_or] at hNone
      rw [replaceAll_cons_of_not_isPrefix new hNone.1,
        ih hNone.2]

/- An occurrence starts behind text without its first character. -/
theorem isInfix_of_append
    {front : Text}
    (hHead : target.head? = some c)
    (hFront : c ∉ front)
    (hInfix : target <:+: front ++ t) :
    target <:+: t := by
  rcases List.head?_eq_some_iff.mp hHead with ⟨tail, rfl⟩
  induction front with
  | nil => exact hInfix
  | cons d front ih =>
      rw [List.cons_append, List.infix_cons_iff] at hInfix
      rcases hInfix with hPrefix | hRest
      · exact absurd (List.cons_prefix_cons.mp hPrefix).1
          (List.ne_of_not_mem_cons hFront)
      · exact ih (List.not_mem_of_not_mem_cons hFront) hRest

/-
  Replacing brings no character to the front unless the new
  text holds it.
-/
theorem head?_replaceAll_ne
    {new : Text}
    (hTarget : target ≠ [])
    (hNonempty : new ≠ [])
    (hNew : c ∉ new)
    (hText : t.head? ≠ some c) :
    (replaceAll target new t).head? ≠ some c := by
  by_cases hFront : target <+: t
  · rcases hFront with ⟨rest, rfl⟩
    rw [replaceAll_target_append new rest hTarget,
      List.head?_append_of_ne_nil new hNonempty]
    intro hHead
    exact hNew (List.mem_of_head? hHead)
  · cases t with
    | nil => exact hText
    | cons d rest =>
        rw [replaceAll_cons_of_not_isPrefix new hFront]
        exact hText

end Text

end Translit

------------------------------------------------------------
-- Runs
------------------------------------------------------------

namespace Translit

namespace Text

/- The longest runs of one character, from left to right. -/
def runs
    (t : Text) : List Text :=
  t.splitBy (· == ·)

/- The run that a character starts can be cut off. -/
theorem exists_run
    (c : Char)
    (t : Text) :
    ∃ n rest,
      c :: t = List.replicate (n + 1) c ++ rest ∧
        rest.head? ≠ some c := by
  induction t with
  | nil => exact ⟨0, [], rfl, by simp⟩
  | cons d t ih =>
      by_cases hSame : d = c
      · subst hSame
        rcases ih with ⟨n, rest, hText, hRest⟩
        refine ⟨n + 1, rest, ?_, hRest⟩
        rw [List.replicate_succ, List.cons_append, hText]
      · exact ⟨0, d :: t, rfl, by simpa using hSame⟩

/- A text is empty, or a longest run and what follows it. -/
@[elab_as_elim] theorem runInduction
    {motive : Text → Prop}
    (nil : motive [])
    (run :
      ∀ (c : Char) (n : Nat) (rest : Text),
        rest.head? ≠ some c → motive rest →
          motive (List.replicate (n + 1) c ++ rest))
    (t : Text) :
    motive t := by
  cases t with
  | nil => exact nil
  | cons c tail =>
      rcases exists_run c tail with ⟨n, rest, hText, hRest⟩
      have hShorter : rest.length < (c :: tail).length := by
        rw [hText, List.length_append, List.length_replicate]
        omega
      rw [hText]
      exact run c n rest hRest (runInduction nil run rest)
termination_by t.length
decreasing_by exact hShorter

/- The first run is cut off where another character stands. -/
theorem runs_replicate_append
    {c : Char}
    {rest : Text}
    (n : Nat)
    (hRest : rest.head? ≠ some c) :
    runs (List.replicate (n + 1) c ++ rest) =
      List.replicate (n + 1) c :: runs rest := by
  have hApart :
      ∀ d ∈ (List.replicate (n + 1) c).getLast?,
        ∀ e ∈ rest.head?, (d == e) = false := by
    intro d hLast e hHead
    have hEq : d = c :=
      List.eq_of_mem_replicate (List.mem_of_getLast? hLast)
    rw [hEq, beq_eq_false_iff_ne]
    rintro rfl
    exact hRest hHead
  have hChain :
      (List.replicate (n + 1) c).IsChain
        fun d e => d == e := by
    apply List.isChain_replicate_of_rel
    simp
  rw [runs, List.splitBy_append hApart,
    List.splitBy_of_isChain (by simp) hChain]
  rfl

end Text

end Translit
