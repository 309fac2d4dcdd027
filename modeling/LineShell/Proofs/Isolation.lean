/-
  LineShell/Proofs/Isolation.lean
  ===============================
  **A failed segment leaves no mark.**

  A segment that is blank, cannot be parsed, or comes to a failure that is reported
  does nothing that another part of the line could notice (`Text.Idle`).  It may have
  asked for programs, and it may have opened, written and closed its target; but it
  starts nobody, keeps the working directory and leaves the session as it was.

  `runLine_without_idle` compares the line with the same line that lacks the segment.
  Both take the same course: they end alike, with the same children, the same statuses
  and the same search path.  The proof follows one run of commands through the other;
  they differ in a single turn (`Ran.erase`).
-/
import LineShell.Proofs.Calls
import LineShell.Proofs.Segments

namespace LineShell

/-- Calls that outlast their command: a child is started or awaited, or the working
    directory changes. -/
def Event.isMark : Event → Bool
  | .spawn _ _ _ _ _ | .wait _ | .chdir _ => true
  | _ => false

def Trace.marks (t : Trace) : List Event := t.events.filter Event.isMark

theorem Trace.marks_append (t t' : Trace) : marks (t ++ t') = t.marks ++ t'.marks := by
  rw [marks, events_append, List.filter_append]
  rfl

/-- A segment that does nothing but report a failure, on the search path in force when
    its turn comes. -/
inductive Text.Idle (w : World) (path : List Text) (segment : Text) : Prop
  | blank (hparse : segment.parseSegment = .ok none)
  | malformed {f : SyntaxFault} (hparse : segment.parseSegment = .error f)
  | builtinFails {c : Command} {b : Builtin} {s : Session} {e : ShellError}
      (hparse : segment.parseSegment = .ok (some c)) (hname : Builtin.named? c.name = some b)
      (hfails : (Action.executeBuiltin b c.operands w s).result = .error (.reported e))
  | launchFails {c : Command} {s : Session} {e : ShellError}
      (hparse : segment.parseSegment = .ok (some c)) (hname : Builtin.named? c.name = none)
      (hfails : (Action.launch c path w s).result = .error (.reported e))

/-- Two runs of lines that end alike, after the same marks and in the same session. -/
structure SameCourse (o o' : Outcome LineResult) : Prop where
  ending : o.result.map (fun r => (r.launched, r.statuses)) =
    o'.result.map fun r => (r.launched, r.statuses)
  session : o.session = o'.session
  marks : o.trace.marks = o'.trace.marks

/-! ### The turn of a command that fails -/

/-- On this search path the turn of the command changes nothing and leaves no mark. -/
def Command.Passes (c : Command) (w : World) (path : List Text) : Prop :=
  ∀ s : Session, s.path = path → ∃ step, (Action.runCommand c w s).result = .ok step ∧
    Step.children [step] = [] ∧ (Action.runCommand c w s).session = s ∧
    (Action.runCommand c w s).trace.marks = []

/-- A built-in that fails is none that would have changed the shell. -/
theorem Builtin.of_fails {b : Builtin} {operands : List Text} {w : World} {s : Session}
    {e : ShellError} (h : (Action.executeBuiltin b operands w s).result = .error (.reported e)) :
    b ≠ .path ∧ ¬ (b = .exit ∧ operands = []) ∧ b.calls w operands = [] := by
  cases b with
  | path => cases h
  | exit =>
    refine ⟨by simp, ?_, rfl⟩
    rintro ⟨-, rfl⟩
    cases h
  | cd =>
    refine ⟨by simp, by simp, ?_⟩
    rcases operands with _ | ⟨d, _ | ⟨d', rest⟩⟩
    · rfl
    · -- the directory has been refused, for otherwise nothing would be reported
      simp only [Action.executeBuiltin, Action.changeDirectory] at h
      rw [Action.attempt_bind, Action.chdir_apply] at h
      cases hentry : w.entryFault d with
      | none =>
        rw [hentry] at h
        cases h
      | some f => simp [calls, hentry]
    · rfl

theorem Command.passes_of_builtinFails {c : Command} {b : Builtin} {w : World} {s₀ : Session}
    {e : ShellError} (hargs : NamesItself c) (hname : Builtin.named? c.name = some b)
    (hfails : (Action.executeBuiltin b c.operands w s₀).result = .error (.reported e))
    (path : List Text) : c.Passes w path := by
  obtain ⟨hpath, hstays, hcalls⟩ := Builtin.of_fails hfails
  intro s hs
  obtain ⟨hresult, hsession, -⟩ := Action.runCommand_of_builtin w s hname
  refine ⟨.builtin, ?_, rfl, ?_, ?_⟩
  · rw [hresult, turn, hname]
    exact if_neg hstays
  · rw [hsession, pathAfter, hname]
    simp [hpath]
  · rw [Trace.marks, Action.runCommand_events w s hargs, Command.calls, hname]
    simp [hcalls]

/-- How a launch fails does not depend on the number that its child would have had. -/
theorem Verdict.result_eq_error {c : Command} {w : World} {pid pid' : Pid} {v : Verdict}
    {f : Fault} (h : v.result c w pid = .error f) : v.result c w pid' = .error f := by
  unfold result at h ⊢
  split at h
  · exact h
  · exact h
  · cases h
  · exact h
  · exact h
  · exact h

/-- A launch that does not start its program leaves no mark. -/
theorem Verdict.marks_calls {c : Command} {w : World} {pid : Pid} {v : Verdict} {f : Fault}
    (h : v.result c w pid = .error f) : (v.calls c w pid).filter Event.isMark = [] := by
  cases v with
  | notFound => rfl
  | targetRefused g => rfl
  | answered path answer =>
    have hopens : (c.target.toList.map Event.openTarget).filter Event.isMark = [] := by
      cases c.target <;> rfl
    have hcloses : (c.target.toList.map Event.closeTarget).filter Event.isMark = [] := by
      cases c.target <;> rfl
    have hanswer : (answer.calls c w pid path).filter Event.isMark = [] := by
      cases answer with
      | started ending => cases h
      | unforked e => rfl
      | broken kind text => rfl
      | refused reason =>
        simp only [StartAnswer.calls]
        split
        · rfl
        · cases c.target <;> rfl
    rw [Verdict.calls, List.filter_append, List.filter_append, hopens, hcloses, hanswer]
    rfl

theorem World.marks_search (w : World) (name : Text) (directories : List Text) :
    (w.search name directories).filter Event.isMark = [] := by
  unfold World.search
  split
  · rfl
  · simp [List.filter_map, Function.comp_def, Event.isMark]

theorem Command.passes_of_launchFails {c : Command} {w : World} {path : List Text} {s₀ : Session}
    {e : ShellError} (hargs : NamesItself c) (hname : Builtin.named? c.name = none)
    (hfails : (Action.launch c path w s₀).result = .error (.reported e)) : c.Passes w path := by
  intro s hs
  subst hs
  rw [(Action.launch_spec w s₀ s.path hargs).1] at hfails
  have hverdict : (c.verdict w s.path).result c w s.nextPid = .error (.reported e) :=
    Verdict.result_eq_error hfails
  obtain ⟨hresult, hsession, -⟩ := Action.launch_spec w s s.path hargs
  rw [hverdict] at hresult hsession
  refine ⟨.failed, ?_, rfl, ?_, ?_⟩
  · rw [Action.runCommand_external_apply w s hname, hresult]
  · rw [(Action.runCommand_of_external w s hname).2.1, hsession]
    rfl
  · rw [Trace.marks, Action.runCommand_events w s hargs, Command.calls, hname]
    dsimp only
    rw [List.filter_append, World.marks_search, Verdict.marks_calls hverdict]
    rfl

/-! ### Runs that differ in one turn -/

/-- A command that passes can be left out of a run: at its turn both runs are in the same
    session, and they stay together. -/
theorem Ran.erase {w : World} {s s' : Session} {front back : List Command} {c : Command}
    {steps : List Step} {fault : Option Fault} {t : Trace}
    (hnames : ∀ d ∈ front, NamesItself d) (hpasses : c.Passes w (searchPathAfter s.path front))
    (h : Ran w s (front ++ c :: back) steps fault s' t) :
    ∃ steps' t', Ran w s (front ++ back) steps' fault s' t' ∧
      Step.children steps' = Step.children steps ∧ Trace.marks t' = t.marks := by
  induction front generalizing s steps t with
  | nil =>
    obtain ⟨step, hresult, hnobody, hsession, hmarks⟩ := hpasses s rfl
    cases h with
    | halt hturn => cases hresult.symm.trans hturn
    | @step _ _ _ _ step' steps _ t' hturn hrest =>
      obtain rfl := Except.ok.inj (hresult.symm.trans hturn)
      rw [hsession] at hrest
      refine ⟨steps, t', hrest, ?_, ?_⟩
      · calc Step.children steps
            = Step.children [step] ++ Step.children steps := by rw [hnobody, List.nil_append]
          _ = Step.children (step :: steps) := (Step.children_append [step] steps).symm
      · rw [Trace.marks_append, hmarks, List.nil_append]
  | cons d front ih =>
    cases h with
    | halt hturn => exact ⟨[], _, .halt hturn, rfl, rfl⟩
    | @step _ _ _ _ step steps _ t' hturn hrest =>
      have hpath := Action.runCommand_path w s (hnames d (by simp))
      have hlater : c.Passes w (searchPathAfter (Action.runCommand d w s).session.path front) := by
        rw [hpath]
        exact hpasses
      obtain ⟨steps', t'', hran, hchildren, hmarks⟩ :=
        ih (fun d' hd' => hnames d' (by simp [hd'])) hlater hrest
      refine ⟨step :: steps', _, .step hturn hran, ?_, ?_⟩
      · calc Step.children (step :: steps')
            = Step.children [step] ++ Step.children steps' := Step.children_append [step] steps'
          _ = Step.children [step] ++ Step.children steps := by rw [hchildren]
          _ = Step.children (step :: steps) := (Step.children_append [step] steps).symm
      · rw [Trace.marks_append, Trace.marks_append, hmarks]

/-! ### Lines that take the same course -/

/-- How a line ends depends on the children of its steps and on the fault. -/
theorem Action.lineEnding_course {commands commands' : List Command} {steps steps' : List Step}
    (fault : Option Fault) (h : Step.children steps = Step.children steps') :
    (lineEnding commands steps fault).map (fun r => (r.launched, r.statuses)) =
      (lineEnding commands' steps' fault).map fun r => (r.launched, r.statuses) := by
  unfold lineEnding
  rw [h]
  split
  · rfl
  · rfl
  · rfl
  · simp [Except.map, Step.summarize, h]

theorem LineRun.sameCourse {w : World} {s s' : Session} {line line' : Text}
    {steps steps' : List Step} {fault : Option Fault} {noted noted' t t' waits waits' : Trace}
    (h : LineRun w s line steps fault s' noted t waits)
    (h' : LineRun w s line' steps' fault s' noted' t' waits')
    (hchildren : Step.children steps = Step.children steps') (hmarks : t.marks = t'.marks) :
    SameCourse (Action.runLine line w s) (Action.runLine line' w s) := by
  have hreaped : Action.reaped steps fault = Action.reaped steps' fault := by
    unfold Action.reaped
    rw [hchildren]
  constructor
  · rw [h.result, h'.result]
    exact Action.lineEnding_course fault hchildren
  · rw [h.session, h'.session]
  · unfold Trace.marks at hmarks ⊢
    rw [h.events, h'.events, List.filter_append, List.filter_append, hmarks, hreaped]

/-- The commands of a line, but for one that passes, make a line of the same course. -/
theorem runLine_sameCourse {line line' : Text} {w : World} {s : Session}
    {front back : List Command} {c : Command} (hline : line.commands = front ++ c :: back)
    (hline' : line'.commands = front ++ back)
    (hpasses : c.Passes w (searchPathAfter s.path front)) :
    SameCourse (Action.runLine line' w s) (Action.runLine line w s) := by
  obtain ⟨steps, fault, s', noted, t, waits, hrun⟩ := exists_lineRun w s line
  have hran := hrun.ran
  rw [hline] at hran
  have hnames : ∀ d ∈ front, NamesItself d := by
    intro d hd
    apply line.commands_namesItself
    rw [hline]
    exact List.mem_append_left _ hd
  obtain ⟨steps', t', hran', hchildren, hmarks⟩ := hran.erase hnames hpasses
  rw [← hline'] at hran'
  obtain ⟨noted', waits', hrun'⟩ := exists_lineRun_of_ran hran'
  exact hrun'.sameCourse hrun hchildren hmarks

theorem runLine_sameCourse_of_commands {line line' : Text} {w : World} {s : Session}
    (h : line'.commands = line.commands) :
    SameCourse (Action.runLine line' w s) (Action.runLine line w s) := by
  obtain ⟨steps, fault, s', noted, t, waits, hrun⟩ := exists_lineRun w s line
  have hran := hrun.ran
  rw [← h] at hran
  obtain ⟨noted', waits', hrun'⟩ := exists_lineRun_of_ran hran
  exact hrun'.sameCourse hrun rfl rfl

/-- A line takes the same course without a segment that only reports a failure. -/
theorem runLine_without_idle {line segment : Text} {front back : List Text} {w : World}
    {s : Session} (hline : line.segments = front ++ segment :: back)
    (hidle : segment.Idle w (searchPathAfter s.path (Text.commandsOf front))) :
    SameCourse (Action.runLine (Text.ofSegments (front ++ back)) w s)
      (Action.runLine line w s) := by
  have hfree : ∀ kept ∈ front ++ back, parallelMarker ∉ kept := by
    intro kept hkept
    have hsegment : kept ∈ line.segments := by
      rw [hline]
      rcases List.mem_append.mp hkept with hkept | hkept
      · exact List.mem_append_left _ hkept
      · exact List.mem_append_right _ (List.mem_cons_of_mem _ hkept)
    exact Text.marker_notMem_segment hsegment
  have hshorter : (Text.ofSegments (front ++ back)).commands =
      Text.commandsOf front ++ Text.commandsOf back := by
    rw [Text.commands_ofSegments hfree, Text.commandsOf_append]
  have hall : line.commands = Text.commandsOf front ++ Text.commandsOf (segment :: back) := by
    rw [Text.commands_eq, hline, Text.commandsOf_append]
  rw [Text.commandsOf_cons] at hall
  cases hidle with
  | blank hparse =>
    rw [hparse] at hall
    exact runLine_sameCourse_of_commands (hshorter.trans hall.symm)
  | malformed hparse =>
    rw [hparse] at hall
    exact runLine_sameCourse_of_commands (hshorter.trans hall.symm)
  | builtinFails hparse hname hfails =>
    rw [hparse] at hall
    exact runLine_sameCourse hall hshorter
      (Command.passes_of_builtinFails (Text.namesItself_of_parseSegment hparse) hname hfails _)
  | launchFails hparse hname hfails =>
    rw [hparse] at hall
    exact runLine_sameCourse hall hshorter
      (Command.passes_of_launchFails (Text.namesItself_of_parseSegment hparse) hname hfails)

/-- The program is found on the path that the line itself has set, and its target is
    opened, told why the program cannot run, and closed. -/
theorem refusedProgram_isolated :
    let w := World.ofPrograms [(Text.ofString "/opt/a", .ordinary),
      (Text.ofString "/opt/x", ⟨.fails .permissionDenied none, .exits 0⟩)]
    let line := Text.ofString "path /opt & x > f & a"
    let front := [Text.ofString "path /opt "]
    let segment := Text.ofString " x > f "
    let back := [Text.ofString " a"]
    line.segments = front ++ segment :: back ∧
      segment.Idle w (searchPathAfter defaultPath (Text.commandsOf front)) ∧
      SameCourse (Action.runLine (Text.ofSegments (front ++ back)) w (.start defaultPath))
        (Action.runLine line w (.start defaultPath)) := by
  intro w line front segment back
  have hline : line.segments = front ++ segment :: back := by decide
  have hpath : searchPathAfter defaultPath (Text.commandsOf front) = [Text.ofString "/opt"] := by
    decide
  have hparse : segment.parseSegment = .ok (some ⟨Text.ofString "x", [Text.ofString "x"],
      some (Text.ofString "f")⟩) := rfl
  have hfails : (Action.launch ⟨Text.ofString "x", [Text.ofString "x"],
      some (Text.ofString "f")⟩ [Text.ofString "/opt"] w (.start defaultPath)).result =
        .error (.reported ⟨.exec (Text.ofString "x") (Text.ofString "Permission denied"), true⟩) :=
    rfl
  have hidle : segment.Idle w (searchPathAfter defaultPath (Text.commandsOf front)) := by
    rw [hpath]
    exact .launchFails hparse (by decide) hfails
  exact ⟨hline, hidle, runLine_without_idle hline hidle⟩

end LineShell
