/-
  LineShell/Proofs/Segments.lean
  ==============================
  **A line as a list of segments.**

  Cutting a line at its markers and joining segments by markers undo each other
  (`segments_append_marker`, `segments_ofSegments`), and what a line comes to is what
  its segments come to, one after another (`commandsOf`).  So a line can be put
  together from two, or lose one of its segments, and its commands are known.
-/
import LineShell.Proofs.Tokens

namespace LineShell

namespace Text

/-- The line that segments make up; without any it is empty. -/
def ofSegments (segments : List Text) : Text := joinWith [parallelMarker] segments

/-- What parsing makes of a segment: nothing, if it is blank. -/
def parsed? (segment : Text) : Option (Except SyntaxFault Command) :=
  match segment.parseSegment with
  | .ok none => none
  | .ok (some c) => some (.ok c)
  | .error f => some (.error f)

def commandsOf (segments : List Text) : List Command :=
  (segments.filterMap parsed?).filterMap Except.toOption

theorem recoverLine_eq (line : Text) : line.recoverLine = line.segments.filterMap parsed? := rfl

theorem commands_eq (line : Text) : line.commands = commandsOf line.segments := rfl

theorem commandsOf_append (front back : List Text) :
    commandsOf (front ++ back) = commandsOf front ++ commandsOf back := by
  unfold commandsOf
  rw [List.filterMap_append, List.filterMap_append]

/-- A segment has one command, or none if it is blank or malformed. -/
theorem commandsOf_cons (segment : Text) (rest : List Text) :
    commandsOf (segment :: rest) =
      (match segment.parseSegment with
      | .ok (some c) => c :: commandsOf rest
      | _ => commandsOf rest) := by
  unfold commandsOf
  rw [List.filterMap_cons, parsed?]
  cases segment.parseSegment with
  | error f => rfl
  | ok found => cases found <;> rfl

/-! ### Joining lines -/

theorem segments_append_marker (a b : Text) :
    (a ++ parallelMarker :: b).segments = a.segments ++ b.segments :=
  cutWhere_append_separator _ a b (by simp)

/-- Without a marker a line is one segment. -/
theorem segments_of_notMem {t : Text} (h : parallelMarker ∉ t) : t.segments = [t] := by
  apply cutWhere_eq_self
  intro s hs
  apply beq_eq_false_iff_ne.mpr
  rintro rfl
  exact h hs

theorem commands_append_marker (a b : Text) :
    (a ++ parallelMarker :: b).commands = a.commands ++ b.commands := by
  rw [commands_eq, segments_append_marker, commandsOf_append, ← commands_eq, ← commands_eq]

theorem syntaxReport_append_marker (a b : Text) :
    (a ++ parallelMarker :: b).syntaxReport = a.syntaxReport ++ b.syntaxReport := by
  unfold syntaxReport
  rw [recoverLine_eq, segments_append_marker, List.filterMap_append, List.filter_append,
    List.map_append, ← recoverLine_eq, ← recoverLine_eq]

/-! ### Lines made of segments -/

theorem segments_ofSegments {segments : List Text}
    (hfree : ∀ segment ∈ segments, parallelMarker ∉ segment) (hsome : segments ≠ []) :
    (ofSegments segments).segments = segments := by
  refine cutWhere_joinWith (by simp) ?_ hsome
  intro segment hsegment s hs
  apply beq_eq_false_iff_ne.mpr
  rintro rfl
  exact hfree segment hsegment hs

theorem commands_ofSegments {segments : List Text}
    (hfree : ∀ segment ∈ segments, parallelMarker ∉ segment) :
    (ofSegments segments).commands = commandsOf segments := by
  by_cases hsome : segments = []
  · subst hsome
    rfl
  · rw [commands_eq, segments_ofSegments hfree hsome]

/-- No segment of a line holds a marker. -/
theorem marker_notMem_segment {line segment : Text} (h : segment ∈ line.segments) :
    parallelMarker ∉ segment := by
  intro hmarker
  have hfree := (mem_of_mem_cutWhere h parallelMarker hmarker).1
  simp at hfree

end Text

end LineShell
