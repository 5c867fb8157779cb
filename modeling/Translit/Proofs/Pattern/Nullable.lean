import Translit.Proofs.Pattern.Preferred

/-
  Steps that may take nothing.

  Such steps read every text, so a longest run in front of
  them has no reason to give anything back.  A character
  that may be missing is taken exactly if it is there.

  Key definitions include:
    * `Piece.isNullable`

  Main declarations:
    * `Piece.takes_nil_of_isNullable`
    * `Pattern.isSome_captures?_of_isNullable`
    * `Pattern.captures?_name_eq_some_iff`
    * `Pattern.captures?_optional_eq_some_iff`
-/

------------------------------------------------------------
-- Nullable Steps
------------------------------------------------------------

namespace Translit

/- Whether a piece may take nothing from any text. -/
def Piece.isNullable : Piece → Bool
| .words ws => ws.contains []
| .one _ => false
| .run _ least _ => least == 0
| .finish => false

/- Then nothing is among what the piece may take. -/
theorem Piece.takes_nil_of_isNullable
    {piece : Piece}
    (rest : Text)
    (hNullable : piece.isNullable) :
    piece.Takes [] rest := by
  cases piece with
  | words ws => simpa [isNullable, Takes] using hNullable
  | run cls least greed =>
      simpa [isNullable, Takes] using hNullable
  | one cls => cases hNullable
  | finish => cases hNullable

namespace Pattern

variable {steps : Pattern}

/- Steps that may take nothing read every text. -/
theorem isSome_captures?_of_isNullable
    (hNullable : steps.all fun step => step.piece.isNullable)
    (t : Text) :
    (captures? steps t).isSome := by
  induction steps with
  | nil => simp
  | cons step steps ih =>
      rw [List.all_cons, Bool.and_eq_true] at hNullable
      rw [← List.nil_append t]
      apply isSome_captures?_cons
      · exact Piece.takes_nil_of_isNullable t hNullable.1
      · exact ih hNullable.2

/- Steps that read every text spare every class. -/
theorem spares_of_isNullable
    (cls : CharClass)
    (hNullable : steps.all fun step => step.piece.isNullable) :
    Spares steps cls :=
  fun _ t _ _ => isSome_captures?_of_isNullable hNullable t

/- A name at the end of a pattern goes as far as it can. -/
theorem captures?_name_eq_some_iff
    {cls : CharClass}
    {least : Nat}
    {t : Text}
    {found : Captures} :
    captures? [.keep .name (.run cls least .longest)] t =
        some found ↔
      ∃ name rest,
        t = name ++ rest ∧
          Text.IsLongest cls.holds name rest ∧
          least ≤ name.length ∧
          found = ⟨name, []⟩ := by
  have hSpares : Spares [] cls :=
    spares_of_isNullable cls List.all_nil
  have hRun :
      captures? [.keep .name (.run cls least .longest)] t =
          some found ↔
        ∃ name rest inner,
          t = name ++ rest ∧
            Text.IsLongest cls.holds name rest ∧
            least ≤ name.length ∧
            captures? [] rest = some inner ∧
            found = inner.keep (some .name) name :=
    captures?_run_eq_some_iff hSpares
  rw [hRun]
  simp

/- A character that may be missing is taken if it is there. -/
theorem captures?_optional_cons
    (c : Char)
    (rest : Text)
    (hNullable : steps.all fun step => step.piece.isNullable) :
    captures? (.pass (.optional c) :: steps) (c :: rest) =
      captures? steps rest := by
  have hSome := isSome_captures?_of_isNullable hNullable rest
  rw [isSome_captures?] at hSome
  rcases Option.isSome_iff_exists.mp hSome with
    ⟨found, hMatch⟩
  simp [captures?, match?, Step.pass, Piece.optional,
    Piece.take?, hMatch]

theorem captures?_optional_of_head?_ne
    {c : Char}
    {t : Text}
    (hHead : t.head? ≠ some c) :
    captures? (.pass (.optional c) :: steps) t =
      captures? steps t := by
  have hFront : ¬[c] <+: t := by
    rintro ⟨rest, rfl⟩
    exact hHead rfl
  have hTake :
      (Piece.optional c).take? (match? steps) t =
        (match? steps t).map fun a => ([], a) := by
    cases hMatch : match? steps t with
    | none =>
        simp [Piece.optional, Piece.take?, hFront, hMatch]
    | some found =>
        simp [Piece.optional, Piece.take?, hFront, hMatch]
  rw [captures?_cons]
  change Option.map _ ((Piece.optional c).take? _ t) = _
  rw [hTake, Option.map_map, captures?]
  congr 1

theorem captures?_optional_eq_some_iff
    {c : Char}
    {t : Text}
    {found : Captures}
    (hNullable : steps.all fun step => step.piece.isNullable) :
    captures? (.pass (.optional c) :: steps) t = some found ↔
      ∃ mark rest,
        t = mark ++ rest ∧
          (mark = [c] ∨ mark = [] ∧ rest.head? ≠ some c) ∧
          captures? steps rest = some found := by
  constructor
  · intro hFound
    by_cases hHead : t.head? = some c
    · rcases List.head?_eq_some_iff.mp hHead with ⟨rest, rfl⟩
      rw [captures?_optional_cons c rest hNullable] at hFound
      exact ⟨[c], rest, rfl, Or.inl rfl, hFound⟩
    · rw [captures?_optional_of_head?_ne hHead] at hFound
      exact ⟨[], t, rfl, Or.inr ⟨rfl, hHead⟩, hFound⟩
  · rintro ⟨mark, rest, rfl, rfl | ⟨rfl, hHead⟩, hFound⟩
    · exact
        (captures?_optional_cons c rest hNullable).trans hFound
    · exact
        (captures?_optional_of_head?_ne hHead).trans hFound

/- At the end of a pattern it captures nothing. -/
theorem captures?_optional_last
    (c : Char)
    (t : Text) :
    captures? [.pass (.optional c)] t = some ⟨[], []⟩ := by
  have hSome :
      (captures? [.pass (.optional c)] t).isSome := by
    apply isSome_captures?_of_isNullable
    simp [Step.pass, Piece.optional, Piece.isNullable]
  rcases Option.isSome_iff_exists.mp hSome with
    ⟨found, hFound⟩
  rcases (captures?_optional_eq_some_iff List.all_nil).mp
      hFound with
    ⟨_, rest, _, _, hNothing⟩
  rw [hFound, ← hNothing, captures?_nil]

end Pattern

end Translit
