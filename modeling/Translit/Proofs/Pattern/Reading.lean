import Mathlib.Data.List.Basic
import Mathlib.Data.List.TakeWhile
import Translit.Pattern

/-
  Readings: what it means for a text to have a pattern.

  A reading cuts a text into the parts that the steps of a
  pattern take, without saying which cut is preferred.  The
  matcher finds a reading exactly when there is one, so a
  fact about all readings holds of every match, and to see
  that a pattern matches it is enough to give one reading.

  Key definitions include:
    * `Piece.Takes`
    * `Pattern.Reads`

  Correctness of the matcher is proven by:
    * `Piece.next_eq_none_of_takeMore`
    * `Piece.exists_of_take?_eq_some`
    * `Piece.isSome_take?`
    * `Pattern.reads_of_match?_eq_some`
    * `Pattern.isSome_match?_iff`
-/

------------------------------------------------------------
-- Readings
------------------------------------------------------------

namespace Translit

/-
  Whether a piece may take `taken` when `rest` follows.  The
  greed of a run does not matter here.
-/
def Piece.Takes :
    Piece → Text → Text → Prop
| .words ws, taken, _ => taken ∈ ws
| .one cls, taken, _ => ∃ c, cls.holds c ∧ taken = [c]
| .run cls least _, taken, _ =>
    least ≤ taken.length ∧ ∀ c ∈ taken, cls.holds c
| .finish, taken, rest => taken = [] ∧ rest = []

/-
  The steps of a pattern can take parts of a text one after
  the other, with these captures and this rest.
-/
inductive Pattern.Reads :
    Pattern → Text → Captures → Text → Prop
| done (rest : Text) : Reads [] rest .empty rest
| step
    {step : Step}
    {steps : Pattern}
    {taken middle rest : Text}
    {found : Captures}
    (hTaken : step.piece.Takes taken middle)
    (hSteps : Reads steps middle found rest) :
    Reads (step :: steps) (taken ++ middle)
      (found.keep step.slot taken) rest

namespace Pattern

/- The first step of a pattern takes the front of a text. -/
theorem exists_of_reads_cons
    {step : Step}
    {steps : Pattern}
    {t rest : Text}
    {found : Captures}
    (hReads : Reads (step :: steps) t found rest) :
    ∃ taken middle inner,
      t = taken ++ middle ∧
        step.piece.Takes taken middle ∧
        Reads steps middle inner rest ∧
        found = inner.keep step.slot taken := by
  cases hReads with
  | step hTaken hSteps =>
      exact ⟨_, _, _, rfl, hTaken, hSteps, rfl⟩

end Pattern

end Translit

------------------------------------------------------------
-- Giving Back And Taking More
------------------------------------------------------------

namespace Translit

namespace Piece

variable {α : Type}

/-
  What is kept after giving back is a front of what was
  taken, at most `spare` characters shorter.
-/
theorem exists_of_giveBack_eq_some
    {next : Text → Option α}
    {spare : Nat}
    {taken rest kept : Text}
    {a : α}
    (hKept :
      giveBack next spare taken rest = some (kept, a)) :
    ∃ given,
      taken.reverse = kept ++ given ∧
        given.length ≤ spare ∧
        next (given ++ rest) = some a := by
  fun_induction giveBack next spare taken rest with
  | case1 taken rest =>
      rcases Option.map_eq_some_iff.mp hKept with
        ⟨b, hNext, hPair⟩
      cases hPair
      exact ⟨[], by simp, by simp, hNext⟩
  | case2 spare rest =>
      rcases Option.map_eq_some_iff.mp hKept with
        ⟨b, hNext, hPair⟩
      cases hPair
      exact ⟨[], by simp, by simp, hNext⟩
  | case3 spare c taken rest b hNext =>
      cases hKept
      exact ⟨[], by simp, by simp, hNext⟩
  | case4 spare c taken rest hNone ih =>
      rcases ih hKept with ⟨given, hSplit, hLength, hNext⟩
      refine ⟨given ++ [c], ?_, ?_, ?_⟩
      · simp [hSplit]
      · simpa using hLength
      · simpa using hNext

/- Giving back reaches every cut that it may reach. -/
theorem isSome_giveBack
    {next : Text → Option α}
    {spare : Nat}
    {taken rest kept given : Text}
    (hSplit : taken.reverse = kept ++ given)
    (hLength : given.length ≤ spare)
    (hNext : (next (given ++ rest)).isSome) :
    (giveBack next spare taken rest).isSome := by
  induction spare generalizing taken rest given with
  | zero =>
      have hGiven : given = [] := by
        simpa using hLength
      subst hGiven
      simpa [giveBack] using hNext
  | succ spare ih =>
      cases taken with
      | nil =>
          have hGiven : given = [] := by
            simp_all
          subst hGiven
          simpa [giveBack] using hNext
      | cons c taken =>
          -- The last character of `given` is given back
          -- first, so the cut moves from the right.
          rcases List.eq_nil_or_concat' given with
            hGiven | ⟨front, d, hGiven⟩
          · subst hGiven
            rcases Option.isSome_iff_exists.mp hNext with
              ⟨a, hSome⟩
            simp only [List.nil_append] at hSome
            simp [giveBack, hSome]
          · subst hGiven
            have hEnds :
                taken.reverse = kept ++ front ∧ c = d := by
              simpa [← List.append_assoc,
                List.append_inj_left'] using hSplit
            rcases hEnds with ⟨hFront, rfl⟩
            simp only [giveBack]
            cases next rest with
            | some a => rfl
            | none =>
                apply ih hFront
                · simpa using hLength
                · simpa using hNext

/-
  What is taken in the end is what was taken before and a
  run of at least `least` more characters.
-/
theorem exists_of_takeMore_eq_some
    {cls : CharClass}
    {next : Text → Option α}
    {least : Nat}
    {taken t kept : Text}
    {a : α}
    (hKept :
      takeMore cls next least taken t = some (kept, a)) :
    ∃ more rest,
      t = more ++ rest ∧
        kept = taken.reverse ++ more ∧
        least ≤ more.length ∧
        (∀ c ∈ more, cls.holds c) ∧
        next rest = some a := by
  fun_induction takeMore cls next least taken t with
  | case1 taken =>
      rcases Option.map_eq_some_iff.mp hKept with
        ⟨b, hNext, hPair⟩
      cases hPair
      exact ⟨[], [], by simp [hNext]⟩
  | case2 taken c rest b hNext =>
      cases hKept
      exact ⟨[], c :: rest, by simp [hNext]⟩
  | case3 taken c rest hNone hClass ih =>
      rcases ih hKept with
        ⟨more, last, hSplit, hJoin, _, hRun, hNext⟩
      exact
        ⟨c :: more, last, by simp [hSplit], by simp [hJoin],
          Nat.zero_le _, by simpa [hClass] using hRun, hNext⟩
  | case4 taken c rest hNone hClass => cases hKept
  | case5 least taken => cases hKept
  | case6 least taken c rest hClass ih =>
      rcases ih hKept with
        ⟨more, last, hSplit, hJoin, hLeast, hRun, hNext⟩
      exact
        ⟨c :: more, last, by simp [hSplit], by simp [hJoin],
          by simpa using hLeast, by simpa [hClass] using hRun,
          hNext⟩
  | case7 least taken c rest hClass => cases hKept

/-
  Taking more ends at the first cut that `next` accepts: it
  refuses every rest behind a shorter run.
-/
theorem next_eq_none_of_takeMore
    {cls : CharClass}
    {next : Text → Option α}
    {least : Nat}
    {taken t kept more rest : Text}
    {a : α}
    (hKept :
      takeMore cls next least taken t = some (kept, a))
    (hText : t = more ++ rest)
    (hLeast : least ≤ more.length)
    (hShorter :
      taken.length + more.length < kept.length) :
    next rest = none := by
  fun_induction takeMore cls next least taken t
    generalizing more with
  | case1 taken =>
      rcases Option.map_eq_some_iff.mp hKept with
        ⟨b, hNext, hPair⟩
      cases hPair
      rw [List.length_reverse] at hShorter
      omega
  | case2 taken c tail b hNext =>
      cases hKept
      rw [List.length_reverse] at hShorter
      omega
  | case3 taken c tail hNone hClass ih =>
      cases more with
      | nil => rwa [hText] at hNone
      | cons d more =>
          rw [List.cons_append, List.cons.injEq] at hText
          apply ih hKept hText.2 (Nat.zero_le _)
          simp only [List.length_cons] at hShorter ⊢
          omega
  | case4 taken c tail hNone hClass => cases hKept
  | case5 least taken => cases hKept
  | case6 least taken c tail hClass ih =>
      cases more with
      | nil => simp at hLeast
      | cons d more =>
          rw [List.cons_append, List.cons.injEq] at hText
          apply ih hKept hText.2 (by simpa using hLeast)
          simp only [List.length_cons] at hShorter ⊢
          omega
  | case7 least taken c tail hClass => cases hKept

/- Taking more reaches every cut inside a run. -/
theorem isSome_takeMore
    {cls : CharClass}
    {next : Text → Option α}
    {least : Nat}
    {taken more rest : Text}
    (hLeast : least ≤ more.length)
    (hRun : ∀ c ∈ more, cls.holds c)
    (hNext : (next rest).isSome) :
    (takeMore cls next least taken
      (more ++ rest)).isSome := by
  induction more generalizing least taken with
  | nil =>
      have hZero : least = 0 := by
        simpa using hLeast
      subst hZero
      rcases Option.isSome_iff_exists.mp hNext with
        ⟨a, hSome⟩
      cases rest with
      | nil => simp [takeMore, hSome]
      | cons c rest => simp [takeMore, hSome]
  | cons c more ih =>
      have hClass : cls.holds c := hRun c (by simp)
      have hMore : ∀ d ∈ more, cls.holds d := by
        intro d hMem
        exact hRun d (List.mem_cons_of_mem c hMem)
      cases least with
      | zero =>
          simp only [List.cons_append, takeMore]
          cases next (c :: (more ++ rest)) with
          | some a => rfl
          | none =>
              simpa [hClass] using
                ih (Nat.zero_le _) hMore
      | succ least =>
          simp only [List.cons_append, takeMore, hClass,
            if_true]
          exact ih (by simpa using hLeast) hMore

end Piece

end Translit

------------------------------------------------------------
-- Pieces
------------------------------------------------------------

namespace Translit

namespace Piece

variable {α : Type}

/-
  A piece takes the front of the text, as it may, and `next`
  accepts the rest.
-/
theorem exists_of_take?_eq_some
    {next : Text → Option α}
    {piece : Piece}
    {t taken : Text}
    {a : α}
    (hTake : piece.take? next t = some (taken, a)) :
    ∃ rest,
      t = taken ++ rest ∧
        piece.Takes taken rest ∧
        next rest = some a := by
  cases piece with
  | words ws =>
      rcases List.exists_of_findSome?_eq_some hTake with
        ⟨w, hMem, hWord⟩
      split at hWord
      · next hPrefix =>
          rcases List.isPrefixOf_iff_prefix.mp hPrefix with
            ⟨rest, rfl⟩
          rcases Option.map_eq_some_iff.mp hWord with
            ⟨b, hNext, hPair⟩
          cases hPair
          exact ⟨rest, rfl, hMem, by simpa using hNext⟩
      · cases hWord
  | one cls =>
      cases t with
      | nil => cases hTake
      | cons c rest =>
          simp only [take?] at hTake
          split at hTake
          · next hClass =>
              rcases Option.map_eq_some_iff.mp hTake with
                ⟨b, hNext, hPair⟩
              cases hPair
              exact ⟨rest, rfl, ⟨c, hClass, rfl⟩, hNext⟩
          · cases hTake
  | run cls least greed =>
      cases greed with
      | longest =>
          simp only [take?] at hTake
          split at hTake
          · cases hTake
          · next hEnough =>
              rcases exists_of_giveBack_eq_some hTake with
                ⟨given, hSplit, hLength, hNext⟩
              rw [List.reverse_reverse] at hSplit
              have hSum := congrArg List.length hSplit
              rw [List.length_append] at hSum
              refine ⟨_, ?_, ⟨?_, ?_⟩, hNext⟩
              · rw [← List.append_assoc, ← hSplit,
                  List.takeWhile_append_dropWhile]
              · omega
              · intro c hMem
                have hFront : c ∈ t.takeWhile cls.holds := by
                  rw [hSplit]
                  exact List.mem_append_left given hMem
                exact List.mem_takeWhile_imp hFront
      | shortest =>
          rcases exists_of_takeMore_eq_some hTake with
            ⟨more, rest, hSplit, hJoin, hLeast, hRun, hNext⟩
          rw [List.reverse_nil, List.nil_append] at hJoin
          subst hJoin
          exact ⟨rest, hSplit, ⟨hLeast, hRun⟩, hNext⟩
  | finish =>
      simp only [take?] at hTake
      split at hTake
      · next hEmpty =>
          rcases Option.map_eq_some_iff.mp hTake with
            ⟨b, hNext, hPair⟩
          cases hPair
          exact
            ⟨t, rfl, ⟨rfl, List.isEmpty_iff.mp hEmpty⟩,
              hNext⟩
      · cases hTake

/- A piece takes something whenever it may. -/
theorem isSome_take?
    {next : Text → Option α}
    {piece : Piece}
    {taken rest : Text}
    (hTaken : piece.Takes taken rest)
    (hNext : (next rest).isSome) :
    (piece.take? next (taken ++ rest)).isSome := by
  cases piece with
  | words ws =>
      rw [take?, List.findSome?_isSome_iff]
      refine ⟨taken, hTaken, ?_⟩
      have hPrefix :
          taken.isPrefixOf (taken ++ rest) = true := by
        simp
      simpa [hPrefix] using hNext
  | one cls =>
      rcases hTaken with ⟨c, hClass, rfl⟩
      simpa [take?, hClass] using hNext
  | run cls least greed =>
      rcases hTaken with ⟨hLeast, hRun⟩
      cases greed with
      | longest =>
          -- The longest run extends `taken`, and what it
          -- takes beyond that can be given back.
          have hLongest :
              (taken ++ rest).takeWhile cls.holds =
                taken ++ rest.takeWhile cls.holds :=
            List.takeWhile_append_of_pos hRun
          have hBeyond :
              (taken ++ rest).dropWhile cls.holds =
                rest.dropWhile cls.holds :=
            List.dropWhile_append_of_pos hRun
          simp only [take?, hLongest, hBeyond,
            List.length_append]
          rw [if_neg (by omega)]
          apply isSome_giveBack (List.reverse_reverse _)
          · omega
          · rw [List.takeWhile_append_dropWhile]
            exact hNext
      | shortest => exact isSome_takeMore hLeast hRun hNext
  | finish =>
      rcases hTaken with ⟨rfl, rfl⟩
      simpa [take?] using hNext

end Piece

end Translit

------------------------------------------------------------
-- Patterns
------------------------------------------------------------

namespace Translit

namespace Pattern

/- What a match finds is a reading. -/
theorem reads_of_match?_eq_some
    {pattern : Pattern}
    {t rest : Text}
    {found : Captures}
    (hMatch : pattern.match? t = some (found, rest)) :
    pattern.Reads t found rest := by
  induction pattern generalizing t found rest with
  | nil =>
      cases hMatch
      exact .done t
  | cons step steps ih =>
      rcases Option.map_eq_some_iff.mp hMatch with
        ⟨⟨taken, inner, last⟩, hTake, hPair⟩
      cases hPair
      rcases Piece.exists_of_take?_eq_some hTake with
        ⟨middle, rfl, hTaken, hNext⟩
      exact .step hTaken (ih hNext)

/- A text with a reading has a match. -/
theorem isSome_match?_of_reads
    {pattern : Pattern}
    {t rest : Text}
    {found : Captures}
    (hReads : pattern.Reads t found rest) :
    (pattern.match? t).isSome := by
  induction hReads with
  | done rest => rfl
  | step hTaken hSteps ih =>
      rw [match?, Option.isSome_map]
      exact Piece.isSome_take? hTaken ih

/- The matcher succeeds exactly on texts with a reading. -/
theorem isSome_match?_iff
    (pattern : Pattern)
    (t : Text) :
    (pattern.match? t).isSome ↔
      ∃ found rest, pattern.Reads t found rest := by
  constructor
  · intro hSome
    rcases Option.isSome_iff_exists.mp hSome with
      ⟨⟨found, rest⟩, hMatch⟩
    exact ⟨found, rest, reads_of_match?_eq_some hMatch⟩
  · rintro ⟨found, rest, hReads⟩
    exact isSome_match?_of_reads hReads

end Pattern

end Translit
