import Mathlib.Data.List.Basic
import Translit.Command.Files

/-
  Reading and writing files.

  A write changes at most the node that its path names, and
  what was written to a file can be read back by the same
  path.  Directories stay as they are, so that no other path
  leads elsewhere afterwards.

  Key definitions include:
    * `FileSystem.isRegular`
    * `Fault.isOrdinary`

  Main declarations:
    * `FileSystem.lookup_put_self`
    * `FileSystem.lookup_put_of_ne`
    * `FileSystem.exists_of_target_eq_ok`
    * `FileSystem.read_put`
    * `FileSystem.exists_of_write_eq_ok`
-/

------------------------------------------------------------
-- Looking Up What Was Put
------------------------------------------------------------

namespace Translit

namespace Command

namespace FileSystem

/-
  Replacing nodes does not move them, so the entry found for
  a path is the one found before, replaced.
-/
theorem find?_map_replace
    (entries : List (Path × Node))
    (path other : Path)
    (node : Node) :
    ((entries.map fun entry =>
        if entry.1 = path then (path, node) else entry).find?
        fun entry => entry.1 = other) =
      (entries.find? fun entry => entry.1 = other).map
        fun entry =>
          if entry.1 = path then (path, node) else entry := by
  rw [List.find?_map]
  congr 2
  funext entry
  by_cases hEntry : entry.1 = path
  · simp [hEntry]
  · simp [hEntry]

/- A node is found where it was put. -/
theorem lookup_put_self
    (files : FileSystem)
    {path : Path}
    (node : Node)
    (hPath : path ≠ []) :
    (files.put path node).lookup path = some node := by
  have hNotRoot : path.isEmpty = false := by
    simpa using hPath
  unfold lookup put
  rw [hNotRoot]
  by_cases hAny :
      files.entries.any fun entry => entry.1 = path
  · simp only [hAny, if_true, find?_map_replace]
    rw [List.any_eq_true] at hAny
    cases hFind :
        files.entries.find? fun entry => entry.1 = path with
    | none =>
        rcases hAny with ⟨entry, hMember, hEntry⟩
        exact absurd hEntry
          (List.find?_eq_none.mp hFind entry hMember)
    | some entry =>
        have hEntry := List.find?_some hFind
        simp_all
  · have hFind :
        (files.entries.find? fun entry => entry.1 = path) =
          none := by
      rw [List.find?_eq_none]
      intro entry hMember hEntry
      exact hAny
        (List.any_eq_true.mpr ⟨entry, hMember, hEntry⟩)
    simp [hAny, hFind]

/- All other nodes are found where they were. -/
theorem lookup_put_of_ne
    (files : FileSystem)
    {path other : Path}
    (node : Node)
    (hOther : other ≠ path) :
    (files.put path node).lookup other =
      files.lookup other := by
  unfold lookup put
  split
  · rfl
  · by_cases hAny :
        files.entries.any fun entry => entry.1 = path
    · simp only [hAny, if_true, find?_map_replace]
      cases hFind :
          files.entries.find?
            fun entry => entry.1 = other with
      | none => rfl
      | some entry =>
          have hEntry := List.find?_some hFind
          simp_all
    · simp [hAny, List.find?_append, Ne.symm hOther]

/-
  Whether a path leads to a file, or to nothing yet.  Other
  paths lead to a directory or to a device.
-/
def isRegular
    (files : FileSystem)
    (path : Path) : Bool :=
  match files.lookup path with
  | none => true
  | some (.file _) => true
  | some _ => false

end FileSystem

end Command

end Translit

------------------------------------------------------------
-- Where To Write
------------------------------------------------------------

namespace Translit

namespace Command

/- Steps succeed if the first does and then the rest. -/
theorem exists_of_bind_eq_ok
    {α β : Type}
    {first : Except Fault α}
    {rest : α → Except Fault β}
    {b : β}
    (hBind : (first >>= rest) = .ok b) :
    ∃ a, first = .ok a ∧ rest a = .ok b := by
  cases first with
  | error fault => cases hBind
  | ok a => exact ⟨a, rfl, hBind⟩

theorem bind_of_eq_ok
    {α β : Type}
    {first : Except Fault α}
    {a : α}
    (rest : α → Except Fault β)
    (hFirst : first = .ok a) :
    (first >>= rest) = rest a := by
  rw [hFirst]
  rfl

namespace FileSystem

theorem lookup_of_requireDirectory
    {files : FileSystem}
    {path : Path}
    (hDirectory : files.requireDirectory path = .ok ()) :
    files.lookup path = some .directory := by
  unfold requireDirectory at hDirectory
  split at hDirectory
  · next hLookup => exact hLookup
  · cases hDirectory

/- The last name that is left is not empty. -/
theorem ne_nil_of_getLast?_bare
    {all : List Text}
    {last : Text}
    (hLast :
      (all.reverse.dropWhile (· = [])).reverse.getLast? =
        some last) :
    last ≠ [] := by
  have hHead :=
    List.head?_dropWhile_not (fun name => decide (name = []))
      all.reverse
  rw [List.getLast?_reverse] at hLast
  rw [hLast] at hHead
  simpa using hHead

/- Nothing is dropped from a path that keeps its length. -/
theorem eq_of_length_bare
    (all : List Text)
    (hLength :
      ¬ (all.reverse.dropWhile (· = [])).reverse.length <
        all.length) :
    (all.reverse.dropWhile (· = [])).reverse = all := by
  have hSuffix :
      all.reverse.dropWhile (· = []) <:+ all.reverse :=
    List.dropWhile_suffix _
  rw [List.length_reverse] at hLength
  have hEq : all.reverse.dropWhile (· = []) = all.reverse :=
    hSuffix.eq_of_length_le (by simpa using hLength)
  rw [hEq, List.reverse_reverse]

/-
  A place to write to is named by the last name of a path,
  and the names before it lead to its directory.
-/
theorem exists_of_target_eq_ok
    {files : FileSystem}
    {written : Text}
    {path : Path}
    (hTarget : files.target written = .ok path) :
    ∃ front last parent,
      names written = .ok (front ++ [last]) ∧
        front.foldlM files.follow (files.start written) =
          .ok parent ∧
        files.lookup parent = some .directory ∧
        last ≠ [] ∧ last ≠ "." ∧ last ≠ ".." ∧
        Text.utf8Length last ≤ maxNameLength ∧
        path = parent ++ [last] := by
  rcases exists_of_bind_eq_ok hTarget with
    ⟨all, hNames, hBare⟩
  dsimp only at hBare
  split at hBare
  · cases hBare
  · next last hLast =>
      rcases exists_of_bind_eq_ok hBare with
        ⟨parent, hParent, hRest⟩
      rcases exists_of_bind_eq_ok hRest with
        ⟨_, hDirectory, hChecks⟩
      split_ifs at hChecks with hDots hLength hShort
      have hNamed := ne_nil_of_getLast?_bare hLast
      rw [eq_of_length_bare all hLength] at hLast hParent
      rcases List.getLast?_eq_some_iff.mp hLast with
        ⟨front, rfl⟩
      rw [List.dropLast_concat] at hParent
      rw [not_or] at hDots
      injection hChecks with hPath
      exact ⟨front, last, parent, hNames, hParent,
        lookup_of_requireDirectory hDirectory, hNamed,
        hDots.1, hDots.2, Nat.le_of_not_lt hShort,
        hPath.symm⟩

end FileSystem

end Command

end Translit

------------------------------------------------------------
-- Paths After A Write
------------------------------------------------------------

namespace Translit

namespace Command

namespace FileSystem

/- Nothing is taken away, and directories stay directories. -/
structure Keeps
    (before after : FileSystem) : Prop where
  here : after.here = before.here
  directories :
    ∀ path, before.lookup path = some .directory →
      after.lookup path = some .directory
  nodes :
    ∀ path, (before.lookup path).isSome →
      (after.lookup path).isSome

/- Putting a file at a regular path takes nothing away. -/
theorem keeps_put
    {files : FileSystem}
    {path : Path}
    (content : Bytes)
    (hPath : path ≠ [])
    (hRegular : files.isRegular path) :
    files.Keeps (files.put path (.file content)) where
  here := rfl
  directories := by
    intro other hOther
    have hNe : other ≠ path := by
      rintro rfl
      simp [isRegular, hOther] at hRegular
    rw [lookup_put_of_ne _ _ hNe, hOther]
  nodes := by
    intro other hOther
    by_cases hEq : other = path
    · rw [hEq, lookup_put_self _ _ hPath]
      rfl
    · rw [lookup_put_of_ne _ _ hEq, hOther]

variable {before after : FileSystem}

theorem Keeps.requireDirectory
    (hKeeps : before.Keeps after)
    {path : Path}
    (hPath : before.requireDirectory path = .ok ()) :
    after.requireDirectory path = .ok () :=
  if_pos
    (hKeeps.directories path
      (lookup_of_requireDirectory hPath))

/- A name that led somewhere still leads there. -/
theorem Keeps.follow
    (hKeeps : before.Keeps after)
    {path next : Path}
    {name : Text}
    (hFollow : before.follow path name = .ok next) :
    after.follow path name = .ok next := by
  rcases exists_of_bind_eq_ok hFollow with
    ⟨_, hDirectory, hNext⟩
  unfold FileSystem.follow
  rw [bind_of_eq_ok _ (hKeeps.requireDirectory hDirectory)]
  split_ifs at hNext with hDot hDots hLong hFound
  · rw [if_pos hDot]
    exact hNext
  · rw [if_neg hDot, if_pos hDots]
    exact hNext
  · rw [if_neg hDot, if_neg hDots, if_neg hLong,
      if_pos (hKeeps.nodes _ hFound)]
    exact hNext

/- And so does a row of names. -/
theorem Keeps.foldlM_follow
    (hKeeps : before.Keeps after)
    {names : List Text}
    {path last : Path}
    (hLast : names.foldlM before.follow path = .ok last) :
    names.foldlM after.follow path = .ok last := by
  induction names generalizing path with
  | nil => exact hLast
  | cons name names ih =>
      rw [List.foldlM_cons] at hLast ⊢
      rcases exists_of_bind_eq_ok hLast with
        ⟨next, hNext, hRest⟩
      rw [hKeeps.follow hNext]
      exact ih hRest

/- A place to write to is found when something is there. -/
theorem Keeps.resolve_of_target
    (hKeeps : before.Keeps after)
    {written : Text}
    {path : Path}
    (hTarget : before.target written = .ok path)
    (hFound : (after.lookup path).isSome) :
    after.resolve written = .ok path := by
  rcases exists_of_target_eq_ok hTarget with
    ⟨front, last, parent, hNames, hParent, hDirectory, hSome,
      hDot, hDots, hShort, rfl⟩
  have hStart :
      after.start written = before.start written := by
    rw [start, hKeeps.here, start]
  have hHere : after.requireDirectory parent = .ok () :=
    if_pos (hKeeps.directories parent hDirectory)
  have hLast :
      after.follow parent last = .ok (parent ++ [last]) := by
    unfold FileSystem.follow
    rw [bind_of_eq_ok _ hHere,
      if_neg (not_or.mpr ⟨hSome, hDot⟩), if_neg hDots,
      if_neg (Nat.not_lt.mpr hShort), if_pos hFound]
  unfold FileSystem.resolve
  rw [bind_of_eq_ok _ hNames, hStart, List.foldlM_append,
    bind_of_eq_ok _ (hKeeps.foldlM_follow hParent),
    List.foldlM_cons, bind_of_eq_ok _ hLast]
  rfl

end FileSystem

end Command

end Translit

------------------------------------------------------------
-- Writing And Reading Back
------------------------------------------------------------

namespace Translit

namespace Command

namespace FileSystem

/- The root is no place to write to. -/
theorem ne_nil_of_target
    {files : FileSystem}
    {written : Text}
    {path : Path}
    (hTarget : files.target written = .ok path) :
    path ≠ [] := by
  rcases exists_of_target_eq_ok hTarget with
    ⟨front, last, parent, _, _, _, _, _, _, _, rfl⟩
  simp

/- A file can be read where it was written. -/
theorem read_put
    {files : FileSystem}
    {written : Text}
    {path : Path}
    (content : Bytes)
    (hTarget : files.target written = .ok path)
    (hRegular : files.isRegular path) :
    (files.put path (.file content)).read written =
      .ok content := by
  have hPath := ne_nil_of_target hTarget
  have hKeeps := keeps_put content hPath hRegular
  have hFound :=
    lookup_put_self files (.file content) hPath
  have hResolve :=
    hKeeps.resolve_of_target hTarget (by rw [hFound]; rfl)
  unfold read
  rw [bind_of_eq_ok _ hResolve, hFound]

/- Writing to a regular path always works. -/
theorem write_of_isRegular
    {files : FileSystem}
    {written : Text}
    {path : Path}
    (content : Bytes)
    (hTarget : files.target written = .ok path)
    (hRegular : files.isRegular path) :
    files.write written content =
      .ok (files.put path (.file content)) := by
  unfold write
  rw [bind_of_eq_ok _ hTarget]
  unfold isRegular at hRegular
  split at hRegular
  · next hLookup => rw [hLookup]
  · next content hLookup => rw [hLookup]
  · cases hRegular

/-
  A write that works puts a file at a regular path, and it
  changes nothing if the path leads to a device.
-/
theorem exists_of_write_eq_ok
    {files next : FileSystem}
    {written : Text}
    {content : Bytes}
    (hWrite : files.write written content = .ok next) :
    ∃ path, files.target written = .ok path ∧
      ((files.isRegular path ∧
          next = files.put path (.file content)) ∨
        (files.isRegular path = false ∧ next = files)) := by
  rcases exists_of_bind_eq_ok hWrite with
    ⟨path, hTarget, hNode⟩
  refine ⟨path, hTarget, ?_⟩
  cases hLookup : files.lookup path with
  | none =>
      rw [hLookup] at hNode
      injection hNode with hNext
      exact .inl ⟨by simp [isRegular, hLookup], hNext.symm⟩
  | some node =>
      rw [hLookup] at hNode
      cases node with
      | file old =>
          injection hNode with hNext
          exact .inl
            ⟨by simp [isRegular, hLookup], hNext.symm⟩
      | directory => cases hNode
      | nullDevice =>
          injection hNode with hNext
          exact .inr
            ⟨by simp [isRegular, hLookup], hNext.symm⟩
      | fullDevice =>
          dsimp only at hNode
          split_ifs at hNode
          injection hNode with hNext
          exact .inr
            ⟨by simp [isRegular, hLookup], hNext.symm⟩

end FileSystem

end Command

end Translit

------------------------------------------------------------
-- Faults Of Reading And Writing
------------------------------------------------------------

namespace Translit

namespace Command

namespace Fault

/- Faults with a text of their own, not the system's. -/
def isOrdinary : Fault → Bool
| .system _ _ => false
| _ => true

theorem lineFeed_notMem_message
    {fault : Fault}
    (hOrdinary : fault.isOrdinary) :
    '\n' ∉ fault.message := by
  cases fault with
  | notFound => decide
  | notDirectory => decide
  | isDirectory => decide
  | noSpace => decide
  | nameTooLong => decide
  | notUtf8 => decide
  | outOfMemory => decide
  | system code reason => cases hOrdinary

end Fault

/- Whether all faults of a computation are ordinary. -/
def FailsOrdinarily
    {α : Type}
    (result : Except Fault α) : Prop :=
  ∀ fault, result = .error fault → fault.isOrdinary

theorem FailsOrdinarily.ok
    {α : Type}
    (a : α) :
    FailsOrdinarily (.ok a) := by
  intro fault hFault
  cases hFault

theorem FailsOrdinarily.error
    {α : Type}
    {fault : Fault}
    (hOrdinary : fault.isOrdinary) :
    FailsOrdinarily (.error fault : Except Fault α) := by
  rintro _ ⟨⟩
  exact hOrdinary

theorem FailsOrdinarily.ite
    {α : Type}
    {p : Prop}
    [Decidable p]
    {yes no : Except Fault α}
    (hYes : FailsOrdinarily yes)
    (hNo : FailsOrdinarily no) :
    FailsOrdinarily (if p then yes else no) := by
  split
  · exact hYes
  · exact hNo

theorem FailsOrdinarily.bind
    {α β : Type}
    {first : Except Fault α}
    {rest : α → Except Fault β}
    (hFirst : FailsOrdinarily first)
    (hRest : ∀ a, FailsOrdinarily (rest a)) :
    FailsOrdinarily (first >>= rest) := by
  cases first with
  | error fault =>
      exact .error (hFirst fault rfl)
  | ok a => exact hRest a

theorem FailsOrdinarily.foldlM
    {α β : Type}
    {step : β → α → Except Fault β}
    (hStep : ∀ b a, FailsOrdinarily (step b a))
    (l : List α)
    (b : β) :
    FailsOrdinarily (l.foldlM step b) := by
  induction l generalizing b with
  | nil => exact .ok b
  | cons a l ih =>
      rw [List.foldlM_cons]
      exact .bind (hStep b a) ih

namespace FileSystem

variable (files : FileSystem)

theorem requireDirectory_failsOrdinarily
    (path : Path) :
    FailsOrdinarily (files.requireDirectory path) :=
  .ite (.ok ()) (.error rfl)

theorem follow_failsOrdinarily
    (path : Path)
    (name : Text) :
    FailsOrdinarily (files.follow path name) :=
  .bind (files.requireDirectory_failsOrdinarily path)
    fun _ => .ite (.ok _) (.ite (.ok _)
      (.ite (.error rfl) (.ite (.ok _) (.error rfl))))

theorem names_failsOrdinarily
    (written : Text) :
    FailsOrdinarily (names written) :=
  .ite (.error rfl) (.ok _)

theorem read_failsOrdinarily
    (written : Text) :
    FailsOrdinarily (files.read written) := by
  refine .bind ?_ ?_
  · exact .bind (names_failsOrdinarily written) fun all =>
      .foldlM files.follow_failsOrdinarily all _
  · intro path
    split
    · exact .ok _
    · exact .error rfl
    · exact .ok _
    · exact .error rfl
    · exact .error rfl

theorem target_failsOrdinarily
    (written : Text) :
    FailsOrdinarily (files.target written) := by
  refine .bind (names_failsOrdinarily written) ?_
  intro all
  dsimp only
  split
  · exact .error rfl
  · refine .bind
      (.foldlM files.follow_failsOrdinarily _ _) ?_
    intro parent
    exact .bind (files.requireDirectory_failsOrdinarily parent)
      fun _ => .ite (.error rfl) (.ite (.error rfl)
        (.ite (.error rfl) (.ok _)))

theorem write_failsOrdinarily
    (written : Text)
    (content : Bytes) :
    FailsOrdinarily (files.write written content) := by
  refine .bind (files.target_failsOrdinarily written) ?_
  intro path
  split
  · exact .error rfl
  · exact .ok _
  · exact .ite (.ok _) (.error rfl)
  · exact .ok _

end FileSystem

end Command

end Translit
