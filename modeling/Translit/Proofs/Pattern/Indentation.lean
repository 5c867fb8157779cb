import Mathlib.Data.List.TakeWhile
import Translit.Proofs.Pattern.Reading
import Translit.Proofs.Rule.Gating

/-
  Patterns that start with any indentation.

  A longest run gives characters back only for steps that
  accept them.  Steps that cannot start with a blank accept
  none of the indentation, so a pattern of blanks and such
  steps matches a text as the steps match the text without
  its indentation, with the same captures and the same rest.

  Key definitions include:
    * `CharClass.isSolid`
    * `Pattern.startsSolid`
    * `Pattern.isIndented`

  Main declarations:
    * `Piece.giveBack_of_rejects`
    * `Piece.take?_blanks`
    * `Pattern.match?_of_isBlank`
    * `Pattern.match?_indented`
    * `Pattern.match?_append_of_isIndented`
-/

------------------------------------------------------------
-- Blanks
------------------------------------------------------------

namespace Translit

/- What holds of the six blanks holds of every blank. -/
theorem of_isBlank
    {p : Char → Bool}
    {c : Char}
    (hBlank : isBlank c)
    (hAll :
      [' ', '\t', '\n', '\x0b', '\x0c', '\r'].all p) :
    p c := by
  apply List.all_eq_true.mp hAll
  simp only [isBlank, Bool.or_eq_true, beq_iff_eq] at hBlank
  simp only [List.mem_cons, List.not_mem_nil, or_false]
  tauto

/- The classes that no blank belongs to. -/
def CharClass.isSolid : CharClass → Bool
| .any => false
| .inLine => false
| .blank => false
| _ => true

namespace CharClass

variable {cls : CharClass}
variable {c : Char}

theorem holds_of_isBlank
    (hSolid : cls.isSolid)
    (hBlank : isBlank c) :
    cls.holds c = false := by
  have hNone : !cls.holds c := by
    apply of_isBlank hBlank
    cases cls with
    | any | inLine | blank => cases hSolid
    | quote | digit | capital | nameStart | name | method =>
        decide
  simpa using hNone

theorem isBlank_of_holds
    (hSolid : cls.isSolid)
    (hClass : cls.holds c) :
    isBlank c = false := by
  by_contra hBlank
  rw [Bool.not_eq_false] at hBlank
  rw [holds_of_isBlank hSolid hBlank] at hClass
  cases hClass

end CharClass

end Translit

------------------------------------------------------------
-- Runs That Give Nothing Back
------------------------------------------------------------

namespace Translit

namespace Piece

variable {α : Type}

/- What is refused in front of the rest stays taken. -/
theorem giveBack_of_rejects
    {cls : CharClass}
    {next : Text → Option α}
    {taken : Text}
    (spare : Nat)
    (rest : Text)
    (hRejects :
      ∀ c t, cls.holds c → next (c :: t) = none)
    (hTaken : ∀ c ∈ taken, cls.holds c) :
    giveBack next spare taken rest =
      (next rest).map fun a => (taken.reverse, a) := by
  induction taken generalizing spare rest with
  | nil => cases spare <;> rfl
  | cons c taken ih =>
      cases spare with
      | zero => rfl
      | succ spare =>
          cases hNext : next rest with
          | some a => simp [giveBack, hNext]
          | none =>
              -- The next character is given back in vain,
              -- and so are all others.
              have hFront : next (c :: rest) = none :=
                hRejects c rest (hTaken c (by simp))
              have hOthers : ∀ d ∈ taken, cls.holds d := by
                intro d hMember
                exact hTaken d (List.mem_cons_of_mem c hMember)
              simp [giveBack, hNext, ih spare _ hOthers,
                hFront]

/- Indentation is taken in full. -/
theorem take?_blanks
    {next : Text → Option α}
    (t : Text)
    (hRejects :
      ∀ c t, isBlank c → next (c :: t) = none) :
    blanks.take? next t =
      (next t.unindented).map fun a =>
        (t.takeWhile isBlank, a) := by
  have hTaken :
      ∀ c ∈ (t.takeWhile isBlank).reverse,
        CharClass.blank.holds c := by
    intro c hMember
    exact List.mem_takeWhile_imp (List.mem_reverse.mp hMember)
  have hBlank :
      ∀ c t, CharClass.blank.holds c → next (c :: t) = none :=
    hRejects
  have hGiven :=
    giveBack_of_rejects (t.takeWhile isBlank).length
      t.unindented hBlank hTaken
  rw [List.reverse_reverse] at hGiven
  exact hGiven

end Piece

end Translit

------------------------------------------------------------
-- Indented Patterns
------------------------------------------------------------

namespace Translit

/- Whether a piece takes something, and no blank first. -/
def Piece.startsSolid : Piece → Bool
| .words ws =>
    ws.all fun w => w.head?.any fun c => !isBlank c
| .one cls => cls.isSolid
| .run cls least _ => 0 < least && cls.isSolid
| .finish => false

theorem Piece.exists_head_of_takes
    {piece : Piece}
    {taken rest : Text}
    (hSolid : piece.startsSolid)
    (hTaken : piece.Takes taken rest) :
    ∃ c tail, taken = c :: tail ∧ isBlank c = false := by
  cases piece with
  | words ws =>
      have hHead := List.all_eq_true.mp hSolid taken hTaken
      cases taken with
      | nil => cases hHead
      | cons c tail =>
          exact ⟨c, tail, rfl, by simpa using hHead⟩
  | one cls =>
      rcases hTaken with ⟨c, hClass, rfl⟩
      have hHead := CharClass.isBlank_of_holds hSolid hClass
      exact ⟨c, [], rfl, hHead⟩
  | run cls least greed =>
      rcases hTaken with ⟨hLeast, hRun⟩
      simp only [startsSolid, Bool.and_eq_true,
        decide_eq_true_eq] at hSolid
      cases taken with
      | nil =>
          have hNone : least ≤ 0 := hLeast
          omega
      | cons c tail =>
          exact
            ⟨c, tail, rfl,
              CharClass.isBlank_of_holds hSolid.2
                (hRun c (by simp))⟩
  | finish => cases hSolid

namespace Pattern

/- Whether no text that a pattern reads starts with a blank. -/
def startsSolid : Pattern → Bool
| [] => false
| step :: _ => step.piece.startsSolid

/-
  Whether a pattern is any indentation, which is not kept,
  and then steps that do not start with a blank.
-/
def isIndented : Pattern → Bool
| ⟨.run .blank 0 .longest, none⟩ :: steps =>
    startsSolid steps
| _ => false

variable {steps : Pattern}

theorem match?_of_isBlank
    {c : Char}
    (t : Text)
    (hSolid : startsSolid steps)
    (hBlank : isBlank c) :
    match? steps (c :: t) = none := by
  cases steps with
  | nil => cases hSolid
  | cons step steps =>
      by_contra hMatch
      rcases Option.ne_none_iff_exists'.mp hMatch with
        ⟨⟨found, rest⟩, hSome⟩
      rcases exists_of_reads_cons
          (reads_of_match?_eq_some hSome) with
        ⟨taken, middle, _, hText, hTaken, _, _⟩
      rcases Piece.exists_head_of_takes hSolid hTaken with
        ⟨d, tail, rfl, hHead⟩
      rw [List.cons_append, List.cons.injEq] at hText
      rw [hText.1, hHead] at hBlank
      cases hBlank

/- Indentation does not matter to the steps behind it. -/
theorem match?_indented
    (t : Text)
    (hSolid : startsSolid steps) :
    match? (.pass .blanks :: steps) t =
      match? steps t.unindented := by
  have hBlanks :=
    Piece.take?_blanks t fun c rest hBlank =>
      match?_of_isBlank rest hSolid hBlank
  rw [match?]
  change (Piece.blanks.take? _ t).map _ = _
  rw [hBlanks, Option.map_map]
  cases match? steps t.unindented with
  | none => rfl
  | some found => rfl

theorem match?_append_of_isIndented
    {pattern : Pattern}
    {indent : Text}
    (t : Text)
    (hPattern : pattern.isIndented)
    (hIndent : ∀ c ∈ indent, isBlank c) :
    pattern.match? (indent ++ t) = pattern.match? t := by
  unfold isIndented at hPattern
  split at hPattern
  · next steps =>
      calc
        _ = match? steps (indent ++ t).unindented :=
            match?_indented _ hPattern
        _ = match? steps t.unindented := by
            rw [Text.unindented_append t hIndent]
        _ = _ := (match?_indented t hPattern).symm
  · cases hPattern

end Pattern

end Translit
