/-
  LineShell/Proofs/Search.lean
  ============================
  **The first program of a search path.**

  A directory holds a program of a name if the candidate has no NUL and the world can
  execute it.  Either no directory does (`World.Lacks`), or there is a first one
  (`World.Finds`); `firstExecutable` answers accordingly.
-/
import LineShell.SearchPath

namespace LineShell

/-- No directory holds a program of this name. -/
def World.Lacks (w : World) (name : Text) (directories : List Text) : Prop :=
  ∀ d ∈ directories, (candidate d name).hasNul = true ∨ w.executable (candidate d name) = false

/-- The program is that of the first directory that holds one. -/
def World.Finds (w : World) (name : Text) (directories : List Text) (program : Text) : Prop :=
  ∃ front d back, directories = front ++ d :: back ∧ program = candidate d name ∧
    program.hasNul = false ∧ w.executable program = true ∧ w.Lacks name front

theorem World.Finds.usable {w : World} {name program : Text} {directories : List Text}
    (h : w.Finds name directories program) :
    program.hasNul = false ∧ w.executable program = true := by
  obtain ⟨-, -, -, -, -, hnul, hexec, -⟩ := h
  exact ⟨hnul, hexec⟩

/-- A candidate that cannot exist is passed over. -/
theorem firstExecutable_of_nul {w : World} {name d : Text} (h : (candidate d name).hasNul = true)
    (rest : List Text) : firstExecutable w name (d :: rest) = firstExecutable w name rest := by
  simp [firstExecutable, h]

/-- So is one that cannot be executed. -/
theorem firstExecutable_of_refused {w : World} {name d : Text}
    (h : w.executable (candidate d name) = false) (rest : List Text) :
    firstExecutable w name (d :: rest) = firstExecutable w name rest := by
  simp [firstExecutable, h]

theorem firstExecutable_eq_none_iff {w : World} {name : Text} {directories : List Text} :
    firstExecutable w name directories = none ↔ w.Lacks name directories := by
  unfold firstExecutable World.Lacks
  rw [List.find?_map, Option.map_eq_none_iff, List.find?_eq_none]
  refine forall₂_congr fun d _ => ?_
  by_cases hnul : (candidate d name).hasNul = true <;> simp [hnul]

theorem firstExecutable_eq_some_iff {w : World} {name program : Text} {directories : List Text} :
    firstExecutable w name directories = some program ↔ w.Finds name directories program := by
  constructor
  · intro h
    obtain ⟨hfound, as, bs, hsplit, hnone⟩ := List.find?_eq_some_iff_append.mp h
    obtain ⟨front, rest, rfl, rfl, hrest⟩ := List.map_eq_append_iff.mp hsplit
    obtain ⟨d, back, rfl, rfl, -⟩ := List.map_eq_cons_iff.mp hrest
    obtain ⟨hnul, hexec⟩ := Bool.and_eq_true_iff.mp hfound
    refine ⟨front, d, back, rfl, rfl, by simpa using hnul, hexec, ?_⟩
    apply firstExecutable_eq_none_iff.mp
    apply List.find?_eq_none.mpr
    intro c hc
    rw [Bool.not_eq_true, ← Bool.not_eq_true']
    exact hnone c hc
  · rintro ⟨front, d, back, rfl, rfl, hnul, hexec, hfront⟩
    have hnone := firstExecutable_eq_none_iff.mpr hfront
    unfold firstExecutable at hnone ⊢
    rw [List.map_append, List.find?_append, hnone, List.map_cons,
      List.find?_cons_of_pos (by simp [hnul, hexec])]
    rfl

theorem World.lacks_or_finds (w : World) (name : Text) (directories : List Text) :
    w.Lacks name directories ∨ ∃ program, w.Finds name directories program := by
  cases h : firstExecutable w name directories with
  | none => exact Or.inl (firstExecutable_eq_none_iff.mp h)
  | some program => exact Or.inr ⟨program, firstExecutable_eq_some_iff.mp h⟩

end LineShell
