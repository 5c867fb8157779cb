import Mathlib.Data.List.Range
import Translit.Interpolation
import Translit.Proofs.Pattern.Reading

/-
  Interpolation markers by their positions.

  A marker is given by the position of its `#` and that of
  its closing brace, which is the first one that leaves room
  for an inner character.  The pattern of a marker finds just
  these: since its run is the shortest one, it ends at the
  first brace, and since it stays in the line, there is no
  line feed before it.

  Key definitions include:
    * `Text.between`
    * `Interpolation.IsMarker`
    * `Interpolation.closing?`

  Main declarations:
    * `Interpolation.closing?_eq_some_iff`
    * `Interpolation.IsMarker.drop_eq`
    * `Interpolation.inner?_of_isMarker`
    * `Interpolation.hasMarker_iff`
-/

------------------------------------------------------------
-- Parts Of A Text
------------------------------------------------------------

namespace Translit

namespace Text

/- The characters from one position up to another one. -/
def between
    (t : Text)
    (first last : Nat) : Text :=
  (t.take last).drop first

variable {t : Text}
variable {first last : Nat}

theorem mem_between
    {c : Char} :
    c ∈ t.between first last ↔
      ∃ i < last, first ≤ i ∧ t[i]? = some c := by
  rw [between, List.mem_iff_getElem?]
  simp only [List.getElem?_drop, List.getElem?_take]
  constructor
  · rintro ⟨i, hChar⟩
    split at hChar
    · next hLast => exact ⟨_, hLast, Nat.le_add_right _ _, hChar⟩
    · cases hChar
  · rintro ⟨i, hLast, hFirst, hChar⟩
    refine ⟨i - first, ?_⟩
    rw [Nat.add_sub_cancel' hFirst, if_pos hLast, hChar]

theorem length_between
    (hLast : last ≤ t.length) :
    (t.between first last).length = last - first := by
  rw [between, List.length_drop, List.length_take,
    Nat.min_eq_left hLast]

/- A text goes on with a part and what stands behind it. -/
theorem drop_eq_between_append
    (t : Text)
    (hOrder : first ≤ last) :
    t.drop first = t.between first last ++ t.drop last := by
  rcases Nat.exists_eq_add_of_le hOrder with ⟨n, rfl⟩
  rw [between, List.drop_take, Nat.add_sub_cancel_left,
    ← List.drop_drop, List.take_append_drop]

/- A text goes on with the character at a position. -/
theorem drop_eq_cons
    {c : Char}
    (hChar : t[first]? = some c) :
    t.drop first = c :: t.drop (first + 1) := by
  rcases List.getElem?_eq_some_iff.mp hChar with
    ⟨hInside, hSame⟩
  rw [List.drop_eq_getElem_cons hInside, hSame]

end Text

end Translit

------------------------------------------------------------
-- Markers
------------------------------------------------------------

namespace Translit

namespace Interpolation

/-
  A marker starts at one position and closes at another.  Its
  inner part stands between the two braces.
-/
structure IsMarker
    (t : Text)
    (start close : Nat) : Prop where
  hash : t[start]? = some '#'
  brace : t[start + 1]? = some '\x7b'
  room : start + 3 ≤ close
  closed : t[close]? = some '\x7d'
  first :
    ∀ i < close, start + 3 ≤ i → t[i]? ≠ some '\x7d'
  inLine :
    ∀ i < close, start + 2 ≤ i → t[i]? ≠ some '\n'

instance
    (t : Text)
    (start close : Nat) :
    Decidable (IsMarker t start close) :=
  decidable_of_iff
    (t[start]? = some '#' ∧ t[start + 1]? = some '\x7b' ∧
      start + 3 ≤ close ∧ t[close]? = some '\x7d' ∧
      (∀ i < close, start + 3 ≤ i → t[i]? ≠ some '\x7d') ∧
      ∀ i < close, start + 2 ≤ i → t[i]? ≠ some '\n')
    ⟨fun ⟨hHash, hBrace, hRoom, hClosed, hFirst, hLine⟩ =>
        ⟨hHash, hBrace, hRoom, hClosed, hFirst, hLine⟩,
      fun ⟨hHash, hBrace, hRoom, hClosed, hFirst, hLine⟩ =>
        ⟨hHash, hBrace, hRoom, hClosed, hFirst, hLine⟩⟩

/- The end of a marker that starts at a position. -/
def closing?
    (t : Text)
    (start : Nat) : Option Nat :=
  (List.range t.length).find? fun close =>
    IsMarker t start close

variable {t inner : Text}
variable {start close : Nat}

namespace IsMarker

/- A marker closes in one place only. -/
theorem close_unique
    {other : Nat}
    (hMarker : IsMarker t start close)
    (hOther : IsMarker t start other) :
    close = other := by
  rcases Nat.lt_trichotomy close other with
    hBefore | hSame | hAfter
  · exact absurd hMarker.closed
      (hOther.first close hBefore hMarker.room)
  · exact hSame
  · exact absurd hOther.closed
      (hMarker.first other hAfter hOther.room)

theorem close_lt_length
    (hMarker : IsMarker t start close) :
    close < t.length :=
  (List.getElem?_eq_some_iff.mp hMarker.closed).1

end IsMarker

theorem closing?_eq_some_iff :
    closing? t start = some close ↔
      IsMarker t start close := by
  rw [closing?, List.find?_range_eq_some]
  simp only [decide_eq_true_eq, List.mem_range,
    Bool.not_eq_eq_eq_not, Bool.not_true,
    decide_eq_false_iff_not]
  constructor
  · rintro ⟨hMarker, _, _⟩
    exact hMarker
  · intro hMarker
    refine ⟨hMarker, hMarker.close_lt_length, ?_⟩
    intro other hBefore hOther
    exact hBefore.ne' (hMarker.close_unique hOther)

/-
  The text goes on with the two signs that open a marker, its
  inner part, the closing brace and the rest.
-/
theorem IsMarker.drop_eq
    (hMarker : IsMarker t start close) :
    t.drop start =
      '#' :: '\x7b' :: (t.between (start + 2) close ++
        '\x7d' :: t.drop (close + 1)) := by
  have hRoom := hMarker.room
  rw [Text.drop_eq_cons hMarker.hash,
    Text.drop_eq_cons hMarker.brace,
    Text.drop_eq_between_append t
      (by omega : start + 2 ≤ close),
    Text.drop_eq_cons hMarker.closed]

theorem IsMarker.length_inner
    (hMarker : IsMarker t start close) :
    (t.between (start + 2) close).length =
      close - (start + 2) :=
  Text.length_between hMarker.close_lt_length.le

theorem IsMarker.inner_ne_nil
    (hMarker : IsMarker t start close) :
    t.between (start + 2) close ≠ [] := by
  have hLength := hMarker.length_inner
  have hRoom := hMarker.room
  intro hNil
  rw [hNil, List.length_nil] at hLength
  omega

theorem IsMarker.lineFeed_notMem_inner
    (hMarker : IsMarker t start close) :
    '\n' ∉ t.between (start + 2) close := by
  intro hMember
  rcases Text.mem_between.mp hMember with
    ⟨i, hBefore, hInside, hFeed⟩
  exact hMarker.inLine i hBefore hInside hFeed

/- A text that goes on in this way has a marker. -/
theorem isMarker_of_drop_eq
    {rest : Text}
    (hText :
      t.drop start =
        '#' :: '\x7b' :: (inner ++ '\x7d' :: rest))
    (hNonempty : inner ≠ [])
    (hFirst : '\x7d' ∉ inner.tail)
    (hLine : '\n' ∉ inner) :
    IsMarker t start (start + 2 + inner.length) := by
  have hChar :
      ∀ i, t[start + i]? =
        ('#' :: '\x7b' :: (inner ++ '\x7d' :: rest))[i]? := by
    intro i
    rw [← hText, List.getElem?_drop]
  have hInner :
      ∀ i < inner.length,
        t[start + 2 + i]? = inner[i]? := by
    intro i hInside
    rw [Nat.add_assoc, hChar, Nat.add_comm 2,
      List.getElem?_cons_succ, List.getElem?_cons_succ,
      List.getElem?_append_left hInside]
  have hLength : 0 < inner.length :=
    List.length_pos_iff.mpr hNonempty
  constructor
  · exact hChar 0
  · exact hChar 1
  · omega
  · rw [Nat.add_assoc, hChar, Nat.add_comm 2,
      List.getElem?_cons_succ, List.getElem?_cons_succ,
      List.getElem?_append_right (Nat.le_refl _),
      Nat.sub_self]
    rfl
  · intro i hBefore hRoom hBrace
    have hShift : i = start + 2 + (i - (start + 3) + 1) := by
      omega
    rw [hShift, hInner _ (by omega), ← List.getElem?_tail]
      at hBrace
    exact hFirst (List.mem_of_getElem? hBrace)
  · intro i hBefore hRoom hFeed
    have hShift : i = start + 2 + (i - (start + 2)) := by
      omega
    rw [hShift, hInner _ (by omega)] at hFeed
    exact hLine (List.mem_of_getElem? hFeed)

/- Its inner part is what stands between the braces. -/
theorem between_of_drop_eq
    {rest : Text}
    (hText :
      t.drop start =
        '#' :: '\x7b' :: (inner ++ '\x7d' :: rest)) :
    t.between (start + 2) (start + 2 + inner.length) =
      inner := by
  rw [Text.between, List.drop_take, Nat.add_sub_cancel_left,
    ← List.drop_drop, hText, List.drop_succ_cons,
    List.drop_succ_cons, List.drop_zero, List.take_left]

end Interpolation

end Translit

------------------------------------------------------------
-- The Pattern Of A Marker
------------------------------------------------------------

namespace Translit

namespace Interpolation

variable {t inner : Text}

/- The last step of a marker is its closing brace. -/
def closing : Pattern :=
  [.pass (.word "\x7d")]

theorem match?_closing
    (rest : Text) :
    closing.match? ('\x7d' :: rest) = some (.empty, rest) :=
  rfl

theorem exists_of_match?_closing
    {rest : Text}
    {found : Captures × Text}
    (hMatch : closing.match? rest = some found) :
    ∃ after,
      rest = '\x7d' :: after ∧ found = (.empty, after) := by
  rcases Pattern.exists_of_reads_cons
      (Pattern.reads_of_match?_eq_some hMatch) with
    ⟨taken, after, _, rfl, hTaken, _, _⟩
  rw [List.mem_singleton.mp hTaken] at hMatch ⊢
  refine ⟨after, rfl, ?_⟩
  exact Option.some.inj (hMatch.symm.trans (match?_closing after))

/- Every line with this shape starts with a marker. -/
theorem isSome_match?_marker
    (rest : Text)
    (hNonempty : inner ≠ [])
    (hLine : '\n' ∉ inner) :
    (marker.match?
      ('#' :: '\x7b' :: (inner ++ '\x7d' :: rest))).isSome := by
  have hClosing :
      closing.Reads ("\x7d".toList ++ rest) _ rest :=
    .step (List.mem_singleton.mpr rfl) (.done rest)
  have hRun :
      ∀ c ∈ inner, CharClass.inLine.holds c := by
    intro c hMember
    rw [CharClass.holds, bne_iff_ne]
    rintro rfl
    exact hLine hMember
  have hInner :
      Pattern.Reads
        (.keep .body (.run .inLine 1 .shortest) :: closing)
        (inner ++ ("\x7d".toList ++ rest)) _ rest :=
    .step ⟨List.length_pos_iff.mpr hNonempty, hRun⟩ hClosing
  have hMarker :
      marker.Reads
        ("#\x7b".toList ++ (inner ++ ("\x7d".toList ++ rest)))
        _ rest :=
    .step (List.mem_singleton.mpr rfl) hInner
  exact Pattern.isSome_match?_of_reads hMarker

/- The inner part is the shortest run up to a closing brace. -/
theorem exists_run_of_inner?_eq_some
    (hInner : inner? t = some inner) :
    ∃ middle after,
      t = '#' :: '\x7b' :: middle ∧
        Piece.takeMore .inLine closing.match? 1 [] middle =
          some (inner, .empty, after) := by
  rcases Option.map_eq_some_iff.mp hInner with
    ⟨⟨found, last⟩, hMatch, hBody⟩
  rcases Option.map_eq_some_iff.mp hMatch with
    ⟨⟨opening, inside, _⟩, hOpening, hFound⟩
  cases hFound
  rcases Piece.exists_of_take?_eq_some hOpening with
    ⟨middle, rfl, hTaken, hMiddle⟩
  rcases Option.map_eq_some_iff.mp hMiddle with
    ⟨⟨taken, closed⟩, hRun, hInside⟩
  cases hInside
  rcases Piece.exists_of_take?_eq_some hRun with
    ⟨rest, _, _, hClosing⟩
  rcases exists_of_match?_closing hClosing with
    ⟨after, _, rfl⟩
  refine ⟨middle, after, ?_, ?_⟩
  · rw [List.mem_singleton.mp hTaken]
    rfl
  · have hKept : inner = taken :=
      hBody.symm.trans (List.append_nil taken)
    rw [hKept]
    exact hRun

/-
  The inner part stands between the braces, and no closing
  brace comes earlier, except as its first character.
-/
theorem exists_of_inner?_eq_some
    (hInner : inner? t = some inner) :
    ∃ rest,
      t = '#' :: '\x7b' :: (inner ++ '\x7d' :: rest) ∧
        inner ≠ [] ∧ '\x7d' ∉ inner.tail ∧
        '\n' ∉ inner := by
  rcases exists_run_of_inner?_eq_some hInner with
    ⟨middle, after, rfl, hRun⟩
  rcases Piece.exists_of_takeMore_eq_some hRun with
    ⟨taken, rest, rfl, hKept, hLeast, hLine, hClosing⟩
  rw [List.reverse_nil, List.nil_append] at hKept
  subst hKept
  rcases exists_of_match?_closing hClosing with
    ⟨rest, rfl, _⟩
  refine ⟨rest, rfl, ?_, ?_, ?_⟩
  · rintro rfl
    simp at hLeast
  · -- An earlier brace would have ended the shortest run.
    intro hBrace
    rcases List.append_of_mem hBrace with
      ⟨front, back, hTail⟩
    cases inner with
    | nil => cases hBrace
    | cons first more =>
        have hMore : more = front ++ '\x7d' :: back := hTail
        have hText :
            first :: more ++ '\x7d' :: rest =
              (first :: front) ++
                '\x7d' :: (back ++ '\x7d' :: rest) := by
          simp [hMore]
        have hRefused :=
          Piece.next_eq_none_of_takeMore hRun hText (by simp)
            (by simp [hMore])
        rw [match?_closing] at hRefused
        cases hRefused
  · intro hFeed
    have hClass := hLine '\n' hFeed
    simp [CharClass.holds] at hClass

end Interpolation

end Translit

------------------------------------------------------------
-- Markers That Are Found
------------------------------------------------------------

namespace Translit

namespace Interpolation

variable {t inner : Text}
variable {start close : Nat}

/- What the pattern finds at a position is a marker there. -/
theorem exists_isMarker_of_inner?_eq_some
    (hInner : inner? (t.drop start) = some inner) :
    ∃ close,
      IsMarker t start close ∧
        inner = t.between (start + 2) close := by
  rcases exists_of_inner?_eq_some hInner with
    ⟨rest, hText, hNonempty, hFirst, hLine⟩
  exact
    ⟨_, isMarker_of_drop_eq hText hNonempty hFirst hLine,
      (between_of_drop_eq hText).symm⟩

/- The pattern finds every marker. -/
theorem inner?_of_isMarker
    (hMarker : IsMarker t start close) :
    inner? (t.drop start) =
      some (t.between (start + 2) close) := by
  have hSome : (inner? (t.drop start)).isSome := by
    rw [inner?, Option.isSome_map, hMarker.drop_eq]
    exact isSome_match?_marker _ hMarker.inner_ne_nil
      hMarker.lineFeed_notMem_inner
  rcases Option.isSome_iff_exists.mp hSome with
    ⟨inner, hInner⟩
  rcases exists_isMarker_of_inner?_eq_some hInner with
    ⟨other, hOther, hSame⟩
  rw [hInner, hSame, hMarker.close_unique hOther]

theorem hasMarker_iff_inner?
    (t : Text) :
    hasMarker t ↔
      ∃ start, (inner? (t.drop start)).isSome := by
  induction t with
  | nil =>
      constructor
      · intro hMarker
        cases hMarker
      · rintro ⟨start, hInner⟩
        rw [List.drop_nil] at hInner
        cases hInner
  | cons c rest ih =>
      rw [hasMarker, Bool.or_eq_true, ih]
      constructor
      · rintro (hHere | ⟨start, hLater⟩)
        · exact ⟨0, hHere⟩
        · exact ⟨start + 1, hLater⟩
      · rintro ⟨start, hInner⟩
        cases start with
        | zero => exact Or.inl hInner
        | succ start => exact Or.inr ⟨start, hInner⟩

/- A marker is reported exactly if there is one. -/
theorem hasMarker_iff
    (t : Text) :
    hasMarker t ↔ ∃ start close, IsMarker t start close := by
  rw [hasMarker_iff_inner?]
  constructor
  · rintro ⟨start, hInner⟩
    rcases Option.isSome_iff_exists.mp hInner with
      ⟨inner, hSome⟩
    rcases exists_isMarker_of_inner?_eq_some hSome with
      ⟨close, hMarker, _⟩
    exact ⟨start, close, hMarker⟩
  · rintro ⟨start, close, hMarker⟩
    refine ⟨start, ?_⟩
    rw [inner?_of_isMarker hMarker]
    rfl

end Interpolation

end Translit
