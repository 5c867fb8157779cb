import Mathlib.Data.List.Infix
import Translit.Proofs.Interpolation.Tokens

/-
  Well-formed markers.

  The inner part of a marker holds no closing brace, unless
  it starts with one: a run of at least one character takes
  what comes first, even a brace.  A well-formed marker has
  an inner part in one line without braces that close it or
  signs that open another one.  The scan meets it unless it
  starts inside a marker that was met before.

  Key definitions include:
    * `Interpolation.WellFormedAt`

  Main declarations:
    * `Interpolation.IsMarker.closing_notMem_inner`
    * `Interpolation.WellFormedAt.isMarker`
    * `Interpolation.tokens_wellFormed`
-/

------------------------------------------------------------
-- Well-Formed Markers
------------------------------------------------------------

namespace Translit

namespace Interpolation

/- A well-formed marker stands at a position of a text. -/
structure WellFormedAt
    (t : Text)
    (start : Nat)
    (inner : Text) : Prop where
  stands :
    "#\x7b".toList ++ inner ++ "\x7d".toList <+: t.drop start
  nonempty : inner ≠ []
  closing_notMem : '\x7d' ∉ inner
  lineFeed_notMem : '\n' ∉ inner
  opening_not_isInfix : ¬ "#\x7b".toList <:+: inner

variable {t inner : Text}
variable {start close : Nat}

/- Only as its first character it can hold a brace. -/
theorem IsMarker.closing_notMem_inner
    (hMarker : IsMarker t start close)
    (hFirst : t[start + 2]? ≠ some '\x7d') :
    '\x7d' ∉ t.between (start + 2) close := by
  intro hMember
  rcases Text.mem_between.mp hMember with
    ⟨i, hBefore, hInside, hBrace⟩
  rcases Nat.eq_or_lt_of_le hInside with rfl | hLater
  · exact hFirst hBrace
  · exact hMarker.first i hBefore hLater hBrace

namespace WellFormedAt

theorem exists_drop_eq
    (hWell : WellFormedAt t start inner) :
    ∃ rest,
      t.drop start =
        '#' :: '\x7b' :: (inner ++ '\x7d' :: rest) := by
  rcases hWell.stands with ⟨rest, hText⟩
  refine ⟨rest, ?_⟩
  rw [← hText, List.append_assoc, List.append_assoc]
  rfl

theorem isMarker
    (hWell : WellFormedAt t start inner) :
    IsMarker t start (start + 2 + inner.length) := by
  rcases hWell.exists_drop_eq with ⟨rest, hText⟩
  apply isMarker_of_drop_eq hText hWell.nonempty _
    hWell.lineFeed_notMem
  intro hMember
  exact hWell.closing_notMem (List.mem_of_mem_tail hMember)

theorem between_eq
    (hWell : WellFormedAt t start inner) :
    t.between (start + 2) (start + 2 + inner.length) =
      inner := by
  rcases hWell.exists_drop_eq with ⟨rest, hText⟩
  exact between_of_drop_eq hText

end WellFormedAt

end Interpolation

end Translit

------------------------------------------------------------
-- Well-Formed Markers In A Scan
------------------------------------------------------------

namespace Translit

namespace Interpolation

/-
  The markers that are met are those that get opened.  They
  end at the first closing brace, unless there is one right
  behind the opening brace.  A well-formed marker is opened
  unless it starts inside a marker that is met before.
-/
theorem tokens_wellFormed
    (t : Text) :
    (∀ start close,
      .marker start close ∈ tokensFrom t 0 →
        convert t =
            "f\"".toList ++ body t ++ "\"".toList ∧
          (t[start + 2]? ≠ some '\x7d' →
            '\x7d' ∉ t.between (start + 2) close)) ∧
      ∀ start inner,
        WellFormedAt t start inner →
          (∀ first last,
            .marker first last ∈ tokensFrom t 0 →
              ¬ (first < start ∧ start ≤ last)) →
            ∃ before after,
              tokensFrom t 0 =
                  before ++
                    .marker start (start + 2 + inner.length) ::
                      after ∧
                convert t =
                  "f\"".toList ++
                    (before.flatMap (Token.opened t) ++
                      "\x7b".toList ++ inner ++ "\x7d".toList ++
                      after.flatMap (Token.opened t)).filter
                        (· != '"') ++
                    "\"".toList := by
  constructor
  · intro start close hMember
    have hMarker := (isMarker_of_mem_tokensFrom hMember).1
    constructor
    · exact convert_of_isMarker ⟨start, close, hMarker⟩
    · exact hMarker.closing_notMem_inner
  · intro start inner hWell hFree
    have hMarker := hWell.isMarker
    have hMet :
        .marker start (start + 2 + inner.length) ∈
          tokensFrom t 0 := by
      rcases covered_tokensFrom hMarker
          (Nat.zero_le start) with
        hMember | ⟨first, last, hMember, hInside⟩
      · exact hMember
      · exact absurd hInside (hFree first last hMember)
    rcases List.append_of_mem hMet with
      ⟨before, after, hTokens⟩
    refine ⟨before, after, hTokens, ?_⟩
    rw [convert_of_isMarker ⟨start, _, hMarker⟩, body,
      openedFrom, hTokens, List.flatMap_append,
      List.flatMap_cons, Token.opened, hWell.between_eq]
    simp

/-
  In `#{}}#{x}` a well-formed marker stands behind one around
  a brace, and it is met.
-/
theorem tokens_wellFormed_behind :
    WellFormedAt "#\x7b\x7d\x7d#\x7bx\x7d" 4 "x" ∧
      '\x7d' ∉
        Text.between "#\x7b\x7d\x7d#\x7bx\x7d" 6 7 ∧
      ∃ before after,
        tokensFrom "#\x7b\x7d\x7d#\x7bx\x7d" 0 =
          before ++ .marker 4 7 :: after := by
  have hTokens :
      tokensFrom "#\x7b\x7d\x7d#\x7bx\x7d" 0 =
        [.marker 0 3, .marker 4 7] := by
    rw [tokensFrom_of_isMarker (by decide : IsMarker _ 0 3),
      tokensFrom_of_isMarker (by decide : IsMarker _ 4 7),
      tokensFrom_of_length_le (by decide)]
  have hWell :
      WellFormedAt "#\x7b\x7d\x7d#\x7bx\x7d" 4 "x" := by
    constructor <;> decide
  have hScan :=
    tokens_wellFormed "#\x7b\x7d\x7d#\x7bx\x7d"
  have hFree :
      ∀ first last,
        .marker first last ∈
            tokensFrom "#\x7b\x7d\x7d#\x7bx\x7d" 0 →
          ¬ (first < 4 ∧ 4 ≤ last) := by
    intro first last hMember
    rw [hTokens] at hMember
    rcases List.mem_cons.mp hMember with hFirst | hSecond
    · cases hFirst
      omega
    · cases List.mem_singleton.mp hSecond
      omega
  refine ⟨hWell, ?_, ?_⟩
  · have hMember :
        .marker 4 7 ∈
          tokensFrom "#\x7b\x7d\x7d#\x7bx\x7d" 0 := by
      rw [hTokens]
      exact List.mem_cons_of_mem _ List.mem_cons_self
    exact (hScan.1 4 7 hMember).2 (by decide)
  · rcases hScan.2 4 "x" hWell hFree with
      ⟨before, after, hCut, _⟩
    exact ⟨before, after, hCut⟩

/-
  In `#{}#{x}` a marker goes past a closing brace, which is
  its first inner character.  In `#{a#{b}` a well-formed
  marker starts inside one that is not, and it is not met.
-/
theorem tokens_past_brace :
    (convert "#\x7b\x7d#\x7bx\x7d" =
        "f\"\x7b\x7d#\x7bx\x7d\"".toList ∧
      ¬ ∀ start close,
        .marker start close ∈
            tokensFrom "#\x7b\x7d#\x7bx\x7d" 0 →
          '\x7d' ∉
            Text.between "#\x7b\x7d#\x7bx\x7d" (start + 2)
              close) ∧
      convert "#\x7ba#\x7bb\x7d" =
          "f\"\x7ba#\x7bb\x7d\"".toList ∧
        ¬ ∀ start inner,
          WellFormedAt "#\x7ba#\x7bb\x7d" start inner →
            (∀ first last,
              .marker first last ∈
                  tokensFrom "#\x7ba#\x7bb\x7d" 0 →
                WellFormedAt "#\x7ba#\x7bb\x7d" first
                    (Text.between "#\x7ba#\x7bb\x7d"
                      (first + 2) last) →
                  ¬ (first < start ∧ start ≤ last)) →
              .marker start (start + 2 + inner.length) ∈
                tokensFrom "#\x7ba#\x7bb\x7d" 0 := by
  have hBrace :
      tokensFrom "#\x7b\x7d#\x7bx\x7d" 0 =
        [.marker 0 6] := by
    rw [tokensFrom_of_isMarker (by decide : IsMarker _ 0 6),
      tokensFrom_of_length_le (by decide)]
  have hNested :
      tokensFrom "#\x7ba#\x7bb\x7d" 0 = [.marker 0 6] := by
    rw [tokensFrom_of_isMarker (by decide : IsMarker _ 0 6),
      tokensFrom_of_length_le (by decide)]
  refine ⟨⟨by decide, ?_⟩, by decide, ?_⟩
  · intro hAll
    rw [hBrace] at hAll
    exact hAll 0 6 List.mem_cons_self (by decide)
  · intro hAll
    rw [hNested] at hAll
    have hWell :
        WellFormedAt "#\x7ba#\x7bb\x7d" 3 "b" := by
      constructor <;> decide
    have hMet := by
      apply hAll 3 "b" hWell
      intro first last hMember hOther
      cases List.mem_singleton.mp hMember
      exact absurd (by decide) hOther.opening_not_isInfix
    cases List.mem_singleton.mp hMet

end Interpolation

end Translit
