import Translit.Proofs.Pattern.Reading

/-
  Characters that captures never hold.

  A slot of the captures is filled by some steps of a pattern
  only.  If none of these steps can take a character, then
  the slot never holds it, whatever text is read.  This can
  be seen from the pattern alone, and `Pattern.avoids` is the
  test.

  Key definitions include:
    * `Captures.part`
    * `Piece.avoids`
    * `Pattern.avoids`

  Main declarations:
    * `Piece.notMem_of_takes`
    * `Pattern.notMem_part_of_reads`
-/

------------------------------------------------------------
-- Parts Of Captures
------------------------------------------------------------

namespace Translit

namespace Captures

/- What a slot remembers. -/
def part
    (captures : Captures) : Slot → Text
| .name => captures.name
| .body => captures.body

theorem part_keep_self
    (captures : Captures)
    (slot : Slot)
    (t : Text) :
    (captures.keep (some slot) t).part slot =
      t ++ captures.part slot := by
  cases slot <;> rfl

/- Filling one slot leaves the other one alone. -/
theorem part_keep_of_ne
    (captures : Captures)
    {slot : Slot}
    {filled : Option Slot}
    (t : Text)
    (hNe : filled ≠ some slot) :
    (captures.keep filled t).part slot =
      captures.part slot := by
  cases filled with
  | none => rfl
  | some other =>
      cases other with
      | name =>
          cases slot with
          | name => exact absurd rfl hNe
          | body => rfl
      | body =>
          cases slot with
          | name => rfl
          | body => exact absurd rfl hNe

end Captures

end Translit

------------------------------------------------------------
-- Avoided Characters
------------------------------------------------------------

namespace Translit

namespace Piece

/- Whether a piece can never take a character. -/
def avoids
    (c : Char) : Piece → Bool
| .words ws => ws.all fun w => !w.contains c
| .one cls => !cls.holds c
| .run cls _ _ => !cls.holds c
| .finish => true

theorem notMem_of_takes
    {piece : Piece}
    {c : Char}
    {taken rest : Text}
    (hAvoids : piece.avoids c)
    (hTaken : piece.Takes taken rest) :
    c ∉ taken := by
  cases piece with
  | words ws =>
      have hWord := List.all_eq_true.mp hAvoids taken hTaken
      simpa using hWord
  | one cls =>
      rcases hTaken with ⟨d, hClass, rfl⟩
      intro hMember
      rw [List.mem_singleton.mp hMember] at hAvoids
      simp [avoids, hClass] at hAvoids
  | run cls least greed =>
      intro hMember
      simp [avoids, hTaken.2 c hMember] at hAvoids
  | finish =>
      rw [hTaken.1]
      simp

end Piece

namespace Pattern

/- Whether no step that fills a slot takes a character. -/
def avoids
    (pattern : Pattern)
    (slot : Slot)
    (c : Char) : Bool :=
  pattern.all fun step =>
    step.slot != some slot || step.piece.avoids c

/- A slot holds none of the characters that are avoided. -/
theorem notMem_part_of_reads
    {pattern : Pattern}
    {slot : Slot}
    {c : Char}
    {t rest : Text}
    {found : Captures}
    (hAvoids : pattern.avoids slot c)
    (hReads : pattern.Reads t found rest) :
    c ∉ found.part slot := by
  induction hReads with
  | done rest =>
      cases slot with
      | name => exact List.not_mem_nil
      | body => exact List.not_mem_nil
  | @step step steps taken middle rest found hTaken hSteps
      ih =>
      rw [avoids, List.all_cons, Bool.and_eq_true] at hAvoids
      have hInner := ih hAvoids.2
      by_cases hSlot : step.slot = some slot
      · have hPiece : step.piece.avoids c := by
          simpa [hSlot] using hAvoids.1
        rw [hSlot, Captures.part_keep_self, List.mem_append]
        rintro (hFront | hBack)
        · exact Piece.notMem_of_takes hPiece hTaken hFront
        · exact hInner hBack
      · rw [Captures.part_keep_of_ne found taken hSlot]
        exact hInner

end Pattern

end Translit
