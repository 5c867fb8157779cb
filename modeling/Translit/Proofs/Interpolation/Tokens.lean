import Mathlib.Data.List.Basic
import Translit.Proofs.Interpolation.Markers

/-
  Interpolation as one scan of the text.

  The scan goes from left to right.  Where a marker starts it
  is taken as a whole, up to its closing brace, and anything
  else is taken one character at a time.  A formatted string
  is written token by token, so that it is the text without
  its double quotes and without the `#` of each marker met.

  Key definitions include:
    * `Interpolation.Token`
    * `Interpolation.tokensFrom`
    * `Interpolation.body`
    * `Interpolation.Covered`

  Main declarations:
    * `Interpolation.scanInduction`
    * `Interpolation.openMarkers_drop`
    * `Interpolation.covered_tokensFrom`
    * `Interpolation.openedFrom_eq_filter`
    * `Interpolation.convert_eq_scan`
-/

------------------------------------------------------------
-- Tokens
------------------------------------------------------------

namespace Translit

namespace Interpolation

/- What the scan takes at once. -/
inductive Token
| plain (c : Char)
| marker (start close : Nat)
deriving DecidableEq

namespace Token

/- A marker loses its `#`, and a character stays. -/
def opened
    (t : Text) : Token → Text
| .plain c => [c]
| .marker start close =>
    '\x7b' :: t.between (start + 2) close ++ ['\x7d']

/- The position of a marker. -/
def start? : Token → Option Nat
| .plain _ => none
| .marker start _ => some start

end Token

/-
  Scan a text from a position on.  After a marker the scan
  goes on behind its closing brace.
-/
def tokensFrom
    (t : Text)
    (p : Nat) : List Token :=
  if hInside : p < t.length then
    match hClosing : closing? t p with
    | some close => .marker p close :: tokensFrom t (close + 1)
    | none => .plain t[p] :: tokensFrom t (p + 1)
  else
    []
termination_by t.length - p
decreasing_by
  · have hRoom := (closing?_eq_some_iff.mp hClosing).room
    omega
  · omega

/- The positions of the markers that the scan meets. -/
def startsFrom
    (t : Text)
    (p : Nat) : List Nat :=
  (tokensFrom t p).filterMap Token.start?

/- What the scan writes: each token without its `#`. -/
def openedFrom
    (t : Text)
    (p : Nat) : Text :=
  (tokensFrom t p).flatMap (Token.opened t)

/- The inside of the formatted string. -/
def body
    (t : Text) : Text :=
  (openedFrom t 0).filter (· != '"')

end Interpolation

end Translit

------------------------------------------------------------
-- Scanning
------------------------------------------------------------

namespace Translit

namespace Interpolation

variable {t : Text}
variable {p close : Nat}
variable {c : Char}

theorem tokensFrom_of_length_le
    (hEnd : t.length ≤ p) :
    tokensFrom t p = [] := by
  rw [tokensFrom, dif_neg (Nat.not_lt.mpr hEnd)]

theorem tokensFrom_of_isMarker
    (hMarker : IsMarker t p close) :
    tokensFrom t p =
      .marker p close :: tokensFrom t (close + 1) := by
  have hInside : p < t.length :=
    (List.getElem?_eq_some_iff.mp hMarker.hash).1
  have hClosing := closing?_eq_some_iff.mpr hMarker
  rw [tokensFrom, dif_pos hInside]
  split
  · next other hOther =>
      rw [hClosing, Option.some.injEq] at hOther
      rw [hOther]
  · next hNone =>
      rw [hClosing] at hNone
      cases hNone

theorem tokensFrom_of_not_isMarker
    (hChar : t[p]? = some c)
    (hNone : ∀ close, ¬ IsMarker t p close) :
    tokensFrom t p = .plain c :: tokensFrom t (p + 1) := by
  rcases List.getElem?_eq_some_iff.mp hChar with
    ⟨hInside, rfl⟩
  rw [tokensFrom, dif_pos hInside]
  split
  · next close hClosing =>
      exact absurd (closing?_eq_some_iff.mp hClosing)
        (hNone close)
  · rfl

theorem startsFrom_of_length_le
    (hEnd : t.length ≤ p) :
    startsFrom t p = [] := by
  rw [startsFrom, tokensFrom_of_length_le hEnd]
  rfl

theorem startsFrom_of_isMarker
    (hMarker : IsMarker t p close) :
    startsFrom t p = p :: startsFrom t (close + 1) := by
  rw [startsFrom, tokensFrom_of_isMarker hMarker]
  rfl

theorem startsFrom_of_not_isMarker
    (hChar : t[p]? = some c)
    (hNone : ∀ close, ¬ IsMarker t p close) :
    startsFrom t p = startsFrom t (p + 1) := by
  rw [startsFrom, tokensFrom_of_not_isMarker hChar hNone]
  rfl

theorem openedFrom_of_length_le
    (hEnd : t.length ≤ p) :
    openedFrom t p = [] := by
  rw [openedFrom, tokensFrom_of_length_le hEnd]
  rfl

theorem openedFrom_of_isMarker
    (hMarker : IsMarker t p close) :
    openedFrom t p =
      (Token.marker p close).opened t ++
        openedFrom t (close + 1) := by
  rw [openedFrom, tokensFrom_of_isMarker hMarker]
  rfl

theorem openedFrom_of_not_isMarker
    (hChar : t[p]? = some c)
    (hNone : ∀ close, ¬ IsMarker t p close) :
    openedFrom t p = c :: openedFrom t (p + 1) := by
  rw [openedFrom, tokensFrom_of_not_isMarker hChar hNone]
  rfl

/-
  At every position the text ends, or a marker starts, or a
  character stands that starts none.
-/
@[elab_as_elim] theorem scanInduction
    {motive : Nat → Prop}
    (done : ∀ p, t.length ≤ p → motive p)
    (marker :
      ∀ p close, IsMarker t p close → motive (close + 1) →
        motive p)
    (plain :
      ∀ p c, t[p]? = some c → (∀ close, ¬ IsMarker t p close) →
        motive (p + 1) → motive p)
    (p : Nat) :
    motive p := by
  fun_induction tokensFrom t p with
  | case1 p hInside close hClosing ih =>
      exact marker p close (closing?_eq_some_iff.mp hClosing)
        ih
  | case2 p hInside hClosing ih =>
      apply plain p t[p] (List.getElem?_eq_getElem hInside) _ ih
      intro close hMarker
      rw [closing?_eq_some_iff.mpr hMarker] at hClosing
      cases hClosing
  | case3 p hOutside => exact done p (Nat.not_lt.mp hOutside)

end Interpolation

end Translit

------------------------------------------------------------
-- Tokens And The Text
------------------------------------------------------------

namespace Translit

namespace Interpolation

variable {t : Text}
variable {p close : Nat}

/- The text goes on with the marker and what is behind it. -/
theorem IsMarker.drop_eq_opened
    (hMarker : IsMarker t p close) :
    t.drop p =
      '#' :: ((Token.marker p close).opened t ++
        t.drop (close + 1)) := by
  rw [hMarker.drop_eq, Token.opened]
  simp

theorem IsMarker.length_opened
    (hMarker : IsMarker t p close) :
    ((Token.marker p close).opened t).length = close - p := by
  have hRoom := hMarker.room
  have hInner := hMarker.length_inner
  rw [Token.opened, List.length_append, List.length_cons,
    hInner, List.length_singleton]
  omega

/- Skipping is dropping. -/
theorem openFrom_eq_openMarkers
    (skip : Nat)
    (t : Text) :
    openFrom skip t = openMarkers (t.drop skip) := by
  induction t generalizing skip with
  | nil => cases skip <;> rfl
  | cons c rest ih =>
      cases skip with
      | zero => rfl
      | succ skip => exact ih skip

theorem openMarkers_of_inner?_eq_some
    {c : Char}
    {rest inner : Text}
    (hInner : inner? (c :: rest) = some inner) :
    openMarkers (c :: rest) =
      '\x7b' :: inner ++
        '\x7d' :: openMarkers
          (rest.drop (inner.length + 2)) := by
  rw [openMarkers, openFrom, hInner,
    ← openFrom_eq_openMarkers]

theorem openMarkers_of_inner?_eq_none
    {c : Char}
    {rest : Text}
    (hInner : inner? (c :: rest) = none) :
    openMarkers (c :: rest) = c :: openMarkers rest := by
  rw [openMarkers, openFrom, hInner]
  rfl

/- Markers are opened token by token. -/
theorem openMarkers_drop
    (t : Text)
    (p : Nat) :
    openMarkers (t.drop p) = openedFrom t p := by
  induction p using scanInduction (t := t) with
  | done p hEnd =>
      rw [openedFrom_of_length_le hEnd,
        List.drop_eq_nil_of_le hEnd]
      rfl
  | marker p close hMarker ih =>
      have hInner := inner?_of_isMarker hMarker
      have hBehind :
          p + 1 + ((t.between (p + 2) close).length + 2) =
            close + 1 := by
        have hRoom := hMarker.room
        rw [hMarker.length_inner]
        omega
      rw [Text.drop_eq_cons hMarker.hash] at hInner ⊢
      rw [openMarkers_of_inner?_eq_some hInner,
        List.drop_drop, hBehind, ih,
        openedFrom_of_isMarker hMarker, Token.opened,
        List.append_assoc, List.singleton_append]
  | plain p c hChar hNone ih =>
      have hInner : inner? (t.drop p) = none := by
        by_contra hSome
        rcases Option.ne_none_iff_exists'.mp hSome with
          ⟨inner, hInner⟩
        rcases exists_isMarker_of_inner?_eq_some hInner with
          ⟨close, hMarker, _⟩
        exact hNone close hMarker
      rw [Text.drop_eq_cons hChar] at hInner ⊢
      rw [openMarkers_of_inner?_eq_none hInner, ih,
        openedFrom_of_not_isMarker hChar hNone]

/- The scan takes only what is a marker for one. -/
theorem isMarker_of_mem_tokensFrom
    {start : Nat}
    (hMember : .marker start close ∈ tokensFrom t p) :
    IsMarker t start close ∧ p ≤ start := by
  induction p using scanInduction (t := t) with
  | done p hEnd =>
      rw [tokensFrom_of_length_le hEnd] at hMember
      cases hMember
  | marker p other hMarker ih =>
      rw [tokensFrom_of_isMarker hMarker,
        List.mem_cons] at hMember
      rcases hMember with hSame | hLater
      · cases hSame
        exact ⟨hMarker, Nat.le_refl start⟩
      · have hRoom := hMarker.room
        have hBehind := ih hLater
        exact ⟨hBehind.1, by omega⟩
  | plain p c hChar hNone ih =>
      rw [tokensFrom_of_not_isMarker hChar hNone,
        List.mem_cons] at hMember
      rcases hMember with hSame | hLater
      · cases hSame
      · have hBehind := ih hLater
        exact ⟨hBehind.1, by omega⟩

/- Tokens hold a marker, or one inside which it starts. -/
def Covered
    (tokens : List Token)
    (start close : Nat) : Prop :=
  .marker start close ∈ tokens ∨
    ∃ first last,
      .marker first last ∈ tokens ∧
        first < start ∧ start ≤ last

theorem Covered.cons
    {tokens : List Token}
    {start : Nat}
    (token : Token)
    (hCovered : Covered tokens start close) :
    Covered (token :: tokens) start close := by
  rcases hCovered with
    hMember | ⟨first, last, hMember, hInside⟩
  · exact Or.inl (List.mem_cons_of_mem token hMember)
  · exact
      Or.inr
        ⟨first, last, List.mem_cons_of_mem token hMember,
          hInside⟩

/-
  Every marker is met by the scan, or it starts inside a
  marker that is met before.
-/
theorem covered_tokensFrom
    {start : Nat}
    (hMarker : IsMarker t start close)
    (hOrder : p ≤ start) :
    Covered (tokensFrom t p) start close := by
  induction p using scanInduction (t := t) with
  | done p hEnd =>
      have hInside :=
        (List.getElem?_eq_some_iff.mp hMarker.hash).1
      omega
  | marker p last hFirst ih =>
      rw [tokensFrom_of_isMarker hFirst]
      rcases Nat.eq_or_lt_of_le hOrder with rfl | hBefore
      · rw [hMarker.close_unique hFirst]
        exact Or.inl List.mem_cons_self
      · by_cases hInside : start ≤ last
        · exact Or.inr
            ⟨p, last, List.mem_cons_self, hBefore, hInside⟩
        · exact (ih (by omega)).cons _
  | plain p c hChar hNone ih =>
      rw [tokensFrom_of_not_isMarker hChar hNone]
      rcases Nat.eq_or_lt_of_le hOrder with rfl | hBefore
      · exact absurd hMarker (hNone close)
      · exact (ih hBefore).cons _

end Interpolation

end Translit

------------------------------------------------------------
-- What The Scan Leaves Out
------------------------------------------------------------

namespace Translit

namespace Interpolation

variable {t : Text}

/- Each marker that is met costs the text one `#`. -/
theorem count_hash_drop
    (t : Text)
    (p : Nat) :
    (t.drop p).count '#' =
      (openedFrom t p).count '#' +
        (startsFrom t p).length := by
  induction p using scanInduction (t := t) with
  | done p hEnd =>
      rw [openedFrom_of_length_le hEnd,
        startsFrom_of_length_le hEnd,
        List.drop_eq_nil_of_le hEnd]
      rfl
  | marker p close hMarker ih =>
      rw [hMarker.drop_eq_opened, List.count_cons_self,
        List.count_append, ih,
        openedFrom_of_isMarker hMarker, List.count_append,
        startsFrom_of_isMarker hMarker, List.length_cons]
      omega
  | plain p c hChar hNone ih =>
      rw [Text.drop_eq_cons hChar, List.count_cons, ih,
        openedFrom_of_not_isMarker hChar hNone,
        List.count_cons, startsFrom_of_not_isMarker hChar hNone]
      omega

/- A position that is left out is that of a marker. -/
theorem exists_of_mem_startsFrom
    {p start : Nat}
    (hMember : start ∈ startsFrom t p) :
    p ≤ start ∧ ∃ close, IsMarker t start close := by
  rcases List.mem_filterMap.mp hMember with
    ⟨token, hToken, hStart⟩
  cases token with
  | plain c => cases hStart
  | marker first close =>
      cases hStart
      rcases isMarker_of_mem_tokensFrom hToken with
        ⟨hMarker, hOrder⟩
      exact ⟨hOrder, close, hMarker⟩

/- Nothing is left out of a part without such positions. -/
theorem map_fst_filter_zipIdx
    {positions : List Nat}
    {first : Nat}
    (t : Text)
    (hApart :
      ∀ i ∈ positions, i < first ∨ first + t.length ≤ i) :
    ((t.zipIdx first).filter fun entry =>
      entry.2 ∉ positions).map Prod.fst = t := by
  have hAll :
      (t.zipIdx first).filter
          (fun entry => entry.2 ∉ positions) =
        t.zipIdx first := by
    apply List.filter_eq_self.mpr
    intro entry hMember
    have hFirst := List.le_snd_of_mem_zipIdx hMember
    have hLast := List.snd_lt_of_mem_zipIdx hMember
    rw [decide_eq_true_eq]
    intro hPosition
    rcases hApart entry.2 hPosition with hBefore | hBehind
    · omega
    · omega
  rw [hAll, List.zipIdx_map_fst]

/- A position before a part does not matter to it. -/
theorem filter_zipIdx_cons
    {i first : Nat}
    (t : Text)
    (positions : List Nat)
    (hBefore : i < first) :
    (t.zipIdx first).filter
        (fun entry => entry.2 ∉ i :: positions) =
      (t.zipIdx first).filter
        fun entry => entry.2 ∉ positions := by
  apply List.filter_congr
  intro entry hMember
  have hFirst := List.le_snd_of_mem_zipIdx hMember
  have hNe : entry.2 ≠ i := by omega
  simp [hNe]

/- Every character stays but the `#` of the markers met. -/
theorem openedFrom_eq_filter
    (t : Text)
    (p : Nat) :
    openedFrom t p =
      (((t.drop p).zipIdx p).filter fun entry =>
        entry.2 ∉ startsFrom t p).map Prod.fst := by
  induction p using scanInduction (t := t) with
  | done p hEnd =>
      rw [openedFrom_of_length_le hEnd,
        List.drop_eq_nil_of_le hEnd]
      rfl
  | marker p close hMarker ih =>
      have hRoom := hMarker.room
      have hLength := hMarker.length_opened
      have hBehind :
          p + 1 + ((Token.marker p close).opened t).length =
            close + 1 := by
        omega
      -- Of the marker only the first character is left out.
      have hApart :
          ∀ i ∈ p :: startsFrom t (close + 1),
            i < p + 1 ∨
              p + 1 + ((Token.marker p close).opened t).length ≤
                i := by
        intro i hMember
        rcases List.mem_cons.mp hMember with rfl | hLater
        · exact Or.inl (Nat.lt_succ_self i)
        · rw [hBehind]
          exact Or.inr (exists_of_mem_startsFrom hLater).1
      rw [openedFrom_of_isMarker hMarker,
        startsFrom_of_isMarker hMarker,
        hMarker.drop_eq_opened, List.zipIdx_cons,
        List.filter_cons_of_neg (by simp),
        List.zipIdx_append, List.filter_append,
        List.map_append, map_fst_filter_zipIdx _ hApart,
        hBehind, filter_zipIdx_cons _ _ (by omega), ih]
  | plain p c hChar hNone ih =>
      have hKept : p ∉ startsFrom t (p + 1) := by
        intro hMember
        exact absurd (exists_of_mem_startsFrom hMember).1
          (Nat.not_succ_le_self p)
      rw [openedFrom_of_not_isMarker hChar hNone,
        startsFrom_of_not_isMarker hChar hNone,
        Text.drop_eq_cons hChar, List.zipIdx_cons,
        List.filter_cons_of_pos (by simpa using hKept),
        List.map_cons, ih]

end Interpolation

end Translit

------------------------------------------------------------
-- Formatted Strings
------------------------------------------------------------

namespace Translit

namespace Interpolation

variable {t : Text}

theorem convert_of_isMarker
    (hMarker : ∃ start close, IsMarker t start close) :
    convert t =
      "f\"".toList ++ body t ++ "\"".toList := by
  rw [convert, if_pos ((hasMarker_iff t).mpr hMarker), body,
    ← openMarkers_drop, List.drop_zero]

theorem convert_of_not_isMarker
    (hNone : ∀ start close, ¬ IsMarker t start close) :
    convert t = t := by
  have hNo : ¬ hasMarker t := by
    rw [hasMarker_iff]
    rintro ⟨start, close, hMarker⟩
    exact hNone start close hMarker
  rw [convert, if_neg hNo]

/- A text with a marker has one that the scan meets. -/
theorem startsFrom_ne_nil
    (hMarker : ∃ start close, IsMarker t start close) :
    startsFrom t 0 ≠ [] := by
  rcases hMarker with ⟨start, close, hMarker⟩
  have hMet :
      ∃ first last, .marker first last ∈ tokensFrom t 0 := by
    rcases covered_tokensFrom hMarker
        (Nat.zero_le start) with
      hMember | ⟨first, last, hMember, _⟩
    · exact ⟨start, close, hMember⟩
    · exact ⟨first, last, hMember⟩
  rcases hMet with ⟨first, last, hMember⟩
  have hStart : first ∈ startsFrom t 0 :=
    List.mem_filterMap.mpr ⟨_, hMember, rfl⟩
  exact List.ne_nil_of_mem hStart

theorem count_hash_body
    (t : Text) :
    (body t).count '#' + (startsFrom t 0).length =
      t.count '#' := by
  have hCount := count_hash_drop t 0
  rw [List.drop_zero] at hCount
  rw [body, List.count_filter (by decide), hCount]

/- A formatted string has lost a `#`, and so is a new text. -/
theorem convert_ne_of_isMarker
    (hMarker : ∃ start close, IsMarker t start close) :
    convert t ≠ t := by
  intro hSame
  have hCount := congrArg (List.count '#') hSame
  have hBody := count_hash_body t
  have hLost :=
    List.length_pos_iff.mpr (startsFrom_ne_nil hMarker)
  have hQuotes :
      "f\"".toList.count '#' = 0 ∧
        "\"".toList.count '#' = 0 := by
    decide
  rw [convert_of_isMarker hMarker, List.count_append,
    List.count_append, hQuotes.1, hQuotes.2] at hCount
  omega

theorem body_eq_filter
    (t : Text) :
    body t =
      (t.zipIdx.filter fun entry =>
        entry.1 ≠ '"' ∧
          entry.2 ∉ startsFrom t 0).map Prod.fst := by
  rw [body, openedFrom_eq_filter, List.drop_zero,
    List.filter_map, List.filter_filter]
  congr 1
  apply List.filter_congr
  intro entry _
  rw [Bool.eq_iff_iff]
  simp

/-
  A text without markers stays, and any other text becomes a
  formatted string.  What is in it is the text without double
  quotes and without the `#` of each marker that is met.
-/
theorem convert_eq_scan
    (t : Text) :
    (convert t = t ↔
      ∀ start close, ¬ IsMarker t start close) ∧
      ((∃ start close, IsMarker t start close) →
        convert t =
            "f\"".toList ++ body t ++ "\"".toList ∧
          '"' ∉ body t ∧
          body t =
            (t.zipIdx.filter fun entry =>
              entry.1 ≠ '"' ∧
                entry.2 ∉ startsFrom t 0).map Prod.fst ∧
          (∀ start ∈ startsFrom t 0,
            ∃ close, IsMarker t start close) ∧
          (body t).count '#' + (startsFrom t 0).length =
            t.count '#') := by
  constructor
  · constructor
    · intro hSame start close hMarker
      exact convert_ne_of_isMarker ⟨start, close, hMarker⟩
        hSame
    · exact convert_of_not_isMarker
  · intro hMarker
    have hQuotes : '"' ∉ body t := by
      intro hMember
      simpa using List.of_mem_filter hMember
    refine
      ⟨convert_of_isMarker hMarker, hQuotes, body_eq_filter t,
        ?_, count_hash_body t⟩
    intro start hMember
    exact (exists_of_mem_startsFrom hMember).2

/- The inside of `"#{}}##{x}"`, with its quotes. -/
theorem convert_eq_scan_brace :
    IsMarker "\"#\x7b\x7d\x7d##\x7bx\x7d\"" 1 4 ∧
      body "\"#\x7b\x7d\x7d##\x7bx\x7d\"" =
        "\x7b\x7d\x7d#\x7bx\x7d".toList := by
  have hMarker :
      IsMarker "\"#\x7b\x7d\x7d##\x7bx\x7d\"" 1 4 := by
    decide
  have hScan :=
    (convert_eq_scan "\"#\x7b\x7d\x7d##\x7bx\x7d\"").2
      ⟨1, 4, hMarker⟩
  have hText :
      convert "\"#\x7b\x7d\x7d##\x7bx\x7d\"" =
        "f\"".toList ++ "\x7b\x7d\x7d#\x7bx\x7d".toList ++
          "\"".toList := by
    decide
  refine ⟨hMarker, ?_⟩
  exact List.append_cancel_left
    (List.append_cancel_right (hScan.1.symm.trans hText))

end Interpolation

end Translit
