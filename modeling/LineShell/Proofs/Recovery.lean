/-
  LineShell/Proofs/Recovery.lean
  ==============================
  **Two ways to parse a line.**

  `Text.parseLine` fails at the first malformed segment of a line.  A line that is run is
  parsed by `Action.parseReporting`, which reports such a segment and goes on.  Both take
  one segment after another, so each of them is known by what it makes of a segment and
  by one law for two lists of segments in a row (`parseSegments_append`).

  `parsers_agree` compares them on every line.  Where the first succeeds the second finds
  the same commands and has nothing to say; where it fails, the fault is that of the
  leftmost malformed segment, and the second keeps what the other segments hold.  At a
  marker both fall apart into what they make of either side.
-/
import LineShell.Proofs.Complaints
import LineShell.Proofs.Segments

namespace LineShell

namespace Text

/-! ### Segment by segment -/

theorem parseSegments_cons (segment : Text) (rest : List Text) :
    parseSegments (segment :: rest) =
      match segment.parseSegment, parseSegments rest with
      | .error f, _ => .error f
      | .ok _, .error f => .error f
      | .ok found, .ok commands => .ok (found.toList ++ commands) := by
  rw [parseSegments]
  cases segment.parseSegment with
  | error f => rfl
  | ok found => cases parseSegments rest <;> rfl

/-- Two lists of segments in a row: a fault of the first counts before one of the second. -/
theorem parseSegments_append (front back : List Text) :
    parseSegments (front ++ back) =
      match parseSegments front, parseSegments back with
      | .error f, _ => .error f
      | .ok _, .error f => .error f
      | .ok commands, .ok more => .ok (commands ++ more) := by
  induction front with
  | nil => cases hback : parseSegments back <;> simp [parseSegments, hback]
  | cons segment rest ih =>
    rw [List.cons_append, parseSegments_cons, parseSegments_cons, ih]
    cases segment.parseSegment with
    | error f => rfl
    | ok found =>
      cases parseSegments rest with
      | error f => rfl
      | ok commands =>
        cases parseSegments back with
        | error f => rfl
        | ok more => simp

/-- Without a malformed segment there is nothing to recover from. -/
theorem parseSegments_of_formed {segments : List Text}
    (h : ∀ segment ∈ segments, segment.isMalformed = false) :
    parseSegments segments = .ok (commandsOf segments) := by
  induction segments with
  | nil => rfl
  | cons segment rest ih =>
    obtain ⟨hsegment, hrest⟩ := List.forall_mem_cons.mp h
    rw [parseSegments_cons, commandsOf_cons, ih hrest]
    cases hparse : segment.parseSegment with
    | error f => simp [isMalformed, hparse, Except.toOption] at hsegment
    | ok found => cases found <;> rfl

/-- The leftmost malformed segment decides, whatever follows it. -/
theorem parseSegments_of_first_malformed {front back : List Text} {segment : Text}
    {f : SyntaxFault} (hfront : ∀ earlier ∈ front, earlier.isMalformed = false)
    (hsegment : segment.parseSegment = .error f) :
    parseSegments (front ++ segment :: back) = .error f := by
  rw [parseSegments_append, parseSegments_of_formed hfront, parseSegments_cons, hsegment]

theorem formed_or_first_malformed (segments : List Text) :
    (∀ segment ∈ segments, segment.isMalformed = false) ∨
      ∃ front segment back f, segments = front ++ segment :: back ∧
        (∀ earlier ∈ front, earlier.isMalformed = false) ∧ segment.parseSegment = .error f := by
  cases hfind : segments.find? isMalformed with
  | none => exact Or.inl (by simpa using hfind)
  | some segment =>
    obtain ⟨hsegment, front, back, hsegments, hfront⟩ := List.find?_eq_some_iff_append.mp hfind
    refine Or.inr ⟨front, segment, back, ?_⟩
    cases hparse : segment.parseSegment with
    | ok found => simp [isMalformed, hparse, Except.toOption] at hsegment
    | error f => exact ⟨f, hsegments, by simpa using hfront, rfl⟩

theorem parseSegments_eq_ok_iff {segments : List Text} {commands : List Command} :
    parseSegments segments = .ok commands ↔
      (∀ segment ∈ segments, segment.isMalformed = false) ∧ commandsOf segments = commands := by
  constructor
  · intro hparse
    rcases formed_or_first_malformed segments with hformed | ⟨front, segment, back, f, rfl, h, hf⟩
    · exact ⟨hformed, Except.ok.inj ((parseSegments_of_formed hformed).symm.trans hparse)⟩
    · cases (parseSegments_of_first_malformed h hf).symm.trans hparse
  · rintro ⟨hformed, rfl⟩
    exact parseSegments_of_formed hformed

theorem parseSegments_eq_error_iff {segments : List Text} {f : SyntaxFault} :
    parseSegments segments = .error f ↔
      ∃ front segment back, segments = front ++ segment :: back ∧
        (∀ earlier ∈ front, earlier.isMalformed = false) ∧ segment.parseSegment = .error f := by
  constructor
  · intro hparse
    rcases formed_or_first_malformed segments with hformed | ⟨front, segment, back, g, rfl, h, hg⟩
    · cases (parseSegments_of_formed hformed).symm.trans hparse
    · obtain rfl : g = f :=
        Except.error.inj ((parseSegments_of_first_malformed h hg).symm.trans hparse)
      exact ⟨front, segment, back, rfl, h, hg⟩
  · rintro ⟨front, segment, back, rfl, hfront, hsegment⟩
    exact parseSegments_of_first_malformed hfront hsegment

/-! ### Lines -/

/-- A segment taken alone is a line of one segment. -/
theorem parseLine_of_notMem {segment : Text} (h : parallelMarker ∉ segment) :
    segment.parseLine = segment.parseSegment.map Option.toList := by
  rw [parseLine, segments_of_notMem h, parseSegments_cons]
  cases segment.parseSegment <;> simp [parseSegments, Except.map]

theorem parseLine_append_marker (a b : Text) :
    (a ++ parallelMarker :: b).parseLine =
      match a.parseLine, b.parseLine with
      | .error f, _ => .error f
      | .ok _, .error f => .error f
      | .ok commands, .ok more => .ok (commands ++ more) := by
  rw [parseLine, segments_append_marker, parseSegments_append, ← parseLine, ← parseLine]

/-- The commands of a line are those of its segments, each taken alone. -/
theorem commands_eq_flatMap_parseLine (line : Text) :
    line.commands = line.segments.flatMap fun segment => segment.parseLine.toOption.getD [] := by
  have halone : ∀ segments : List Text, (∀ segment ∈ segments, parallelMarker ∉ segment) →
      commandsOf segments =
        segments.flatMap fun segment => segment.parseLine.toOption.getD [] := by
    intro segments hfree
    induction segments with
    | nil => rfl
    | cons segment rest ih =>
      obtain ⟨hsegment, hrest⟩ := List.forall_mem_cons.mp hfree
      rw [commandsOf_cons, List.flatMap_cons, parseLine_of_notMem hsegment, ih hrest]
      rcases segment.parseSegment with f | (_ | c) <;> rfl
  rw [commands_eq]
  exact halone line.segments fun _ => marker_notMem_segment

end Text

/-! ### The two parsers -/

open Text

/-- What the parser that fails at a line has to do with a run of the parser that goes
    on. -/
structure ParsersAgree (line : Text) (recovery : Outcome (List Command)) : Prop where
  /-- A line that can be parsed has the same commands for both, and nothing is reported. -/
  accepted : ∀ commands, line.parseLine = .ok commands →
    recovery.result = .ok commands ∧ recovery.trace.diagnostics = []
  /-- The fault of a line is that of its leftmost malformed segment. -/
  refused : ∀ f, line.parseLine = .error f ↔
    ∃ front segment back, line.segments = front ++ segment :: back ∧
      (∀ earlier ∈ front, earlier.isMalformed = false) ∧ segment.parseSegment = .error f
  /-- What is kept of a line is what parsing finds in each of its segments alone. -/
  recovered : recovery.result =
    .ok (line.segments.flatMap fun segment => segment.parseLine.toOption.getD [])
  reported : recovery.trace.diagnostics = List.replicate (line.segments.countP isMalformed)
    (Text.ofString DiagnosticKind.redirection.message)

/-- What the two parsers make of two lines with a marker between them. -/
structure ParsersJoin (w : World) (s : Session) (a b : Text) : Prop where
  accepted : ∀ commands, (a ++ parallelMarker :: b).parseLine = .ok commands ↔
    ∃ front back, a.parseLine = .ok front ∧ b.parseLine = .ok back ∧ commands = front ++ back
  refused : (∃ f, (a ++ parallelMarker :: b).parseLine = .error f) ↔
    (∃ f, a.parseLine = .error f) ∨ ∃ f, b.parseLine = .error f
  recovered : ∃ front back, (Action.parseReporting a w s).result = .ok front ∧
    (Action.parseReporting b w s).result = .ok back ∧
      (Action.parseReporting (a ++ parallelMarker :: b) w s).result = .ok (front ++ back)

theorem Action.parseReporting_spec (line : Text) (w : World) (s : Session) :
    (parseReporting line w s).result = .ok line.commands ∧
      (parseReporting line w s).trace.diagnostics =
        List.replicate (line.segments.countP isMalformed)
          (Text.ofString DiagnosticKind.redirection.message) := by
  obtain ⟨hresult, -, hreport⟩ := noteParsed_spec w s line.recoverLine
  exact ⟨hresult, hreport.trans (syntaxReport_eq_replicate line)⟩

/-- On every line the two parsers agree as far as the line is well formed, and both take
    what stands on either side of a marker by itself. -/
theorem parsers_agree (w : World) (s : Session) :
    (∀ line, ParsersAgree line (Action.parseReporting line w s)) ∧
      ∀ a b, ParsersJoin w s a b := by
  refine ⟨?_, ?_⟩
  · intro line
    obtain ⟨hresult, hreport⟩ := Action.parseReporting_spec line w s
    refine {
      accepted := ?_
      refused := fun f => parseSegments_eq_error_iff
      recovered := ?_
      reported := hreport }
    · intro commands hparse
      obtain ⟨hformed, hcommands⟩ := parseSegments_eq_ok_iff.mp hparse
      have hnone : line.segments.countP isMalformed = 0 :=
        List.countP_eq_zero.mpr fun segment hsegment => by simp [hformed segment hsegment]
      refine ⟨?_, ?_⟩
      · rw [hresult, commands_eq, hcommands]
      · rw [hreport, hnone, List.replicate_zero]
    · rw [hresult, commands_eq_flatMap_parseLine]
  · intro a b
    obtain ⟨hresult, -⟩ := Action.parseReporting_spec (a ++ parallelMarker :: b) w s
    refine {
      accepted := ?_
      refused := ?_
      recovered := ⟨a.commands, b.commands, (Action.parseReporting_spec a w s).1,
        (Action.parseReporting_spec b w s).1, ?_⟩ }
    · intro commands
      rw [parseLine_append_marker]
      cases a.parseLine <;> cases b.parseLine <;> simp [eq_comm]
    · rw [parseLine_append_marker]
      cases a.parseLine <;> cases b.parseLine <;> simp
    · rw [hresult, commands_append_marker]

/-- Behind a malformed segment the first parser sees nothing, and the second goes on. -/
example :
    let line := Text.ofString "a & > & b x>f & c >"
    line.parseLine = .error (.leadingOperator (Text.ofString " > ")) ∧
      line.commands.map Command.name = [Text.ofString "a", Text.ofString "b"] ∧
      line.segments.countP isMalformed = 2 := by
  exact ⟨rfl, by decide, by decide⟩

end LineShell
