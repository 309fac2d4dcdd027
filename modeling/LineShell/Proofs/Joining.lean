/-
  LineShell/Proofs/Joining.lean
  =============================
  **Two lines as one.**

  Lines that are joined by a marker run like the two lines one after the other, but
  for the barrier between them: the children of the first are awaited only when the
  commands of the second have had their turn.

  `runLine_joins` says that nothing else changes.  The commands of the second line meet
  the session that those of the first have left, and waiting leaves the session as it
  is; so both have their turns as before, and only the waits move to the end.
-/
import LineShell.Proofs.Segments

namespace LineShell

def Event.isWait : Event → Bool
  | .wait _ => true
  | _ => false

/-- All calls of a run but its waits. -/
def Trace.actions (t : Trace) : List Event := t.events.filter fun e => !e.isWait

def Trace.awaits (t : Trace) : List Event := t.events.filter Event.isWait

/-- The results of two lines, put together. -/
def LineResult.append (r r' : LineResult) : LineResult where
  commands := r.commands ++ r'.commands
  builtins := r.builtins + r'.builtins
  launched := r.launched + r'.launched
  failed := r.failed + r'.failed
  statuses := r.statuses ++ r'.statuses

/-- A line that comes to the same as two lines, which have returned `r` and `r'`. -/
structure Joins (first second joined : Outcome LineResult) (r r' : LineResult) : Prop where
  result : joined.result = .ok (r.append r')
  session : joined.session = second.session
  events : joined.trace.events = first.trace.actions ++ second.trace.actions ++
    (first.trace.awaits ++ second.trace.awaits)
  diagnostics : joined.trace.diagnostics.Perm
    (first.trace.diagnostics ++ second.trace.diagnostics)

/-! ### The calls of a line, sorted -/

theorem Ran.events_not_wait {w : World} {s s' : Session} {commands : List Command}
    {steps : List Step} {fault : Option Fault} {t : Trace}
    (h : Ran w s commands steps fault s' t) : ∀ e ∈ t.events, e.isWait = false := by
  intro e he
  cases e with
  | wait pid =>
    rw [Trace.wait_mem_events, Trace.waitedPids_eq_nil h.leaves] at he
    cases he
  | _ => rfl

namespace LineRun

variable {w : World} {s s' : Session} {line : Text} {steps : List Step} {fault : Option Fault}
  {noted commands waits : Trace}

theorem actions (h : LineRun w s line steps fault s' noted commands waits) :
    (Action.runLine line w s).trace.actions = commands.events := by
  have hnone : ((Action.reaped steps fault).map fun child => Event.wait child.pid).filter
      (fun e => !e.isWait) = [] := by
    simp [List.filter_map, Function.comp_def, Event.isWait]
  unfold Trace.actions
  rw [h.events, List.filter_append, hnone, List.append_nil, List.filter_eq_self]
  intro e he
  rw [h.ran.events_not_wait e he]
  rfl

theorem awaits (h : LineRun w s line steps fault s' noted commands waits) :
    (Action.runLine line w s).trace.awaits =
      (Action.reaped steps fault).map fun child => .wait child.pid := by
  have hall : ((Action.reaped steps fault).map fun child => Event.wait child.pid).filter
      Event.isWait = (Action.reaped steps fault).map fun child => Event.wait child.pid := by
    apply List.filter_eq_self.mpr
    intro e he
    obtain ⟨child, -, rfl⟩ := List.mem_map.mp he
    rfl
  have hnone : commands.events.filter Event.isWait = [] := by
    rw [List.filter_eq_nil_iff]
    intro e he
    simp [h.ran.events_not_wait e he]
  unfold Trace.awaits
  rw [h.events, List.filter_append, hnone, hall, List.nil_append]

end LineRun

/-! ### Steps of two lines -/

theorem Step.summarize_append (commands commands' : List Command) (steps steps' : List Step)
    (statuses statuses' : List (Option Int)) :
    summarize (commands ++ commands') (steps ++ steps') (statuses ++ statuses') =
      (summarize commands steps statuses).append (summarize commands' steps' statuses') := by
  simp [summarize, LineResult.append, children_append]

/-- Two lines that return one after the other return as one line. -/
theorem runLine_joins {a b : Text} {w : World} {s : Session} {r r' : LineResult}
    (hfirst : (Action.runLine a w s).result = .ok r)
    (hsecond : (Action.runLine b w (Action.runLine a w s).session).result = .ok r') :
    Joins (Action.runLine a w s) (Action.runLine b w (Action.runLine a w s).session)
      (Action.runLine (a ++ parallelMarker :: b) w s) r r' := by
  obtain ⟨steps, fault, s₁, noted, t, waits, hline⟩ := exists_lineRun w s a
  rw [hline.session] at hsecond ⊢
  obtain ⟨steps', fault', s₂, noted', t', waits', hline'⟩ := exists_lineRun w s₁ b
  -- both lines run through, and no wait of either breaks
  rw [hline.result] at hfirst
  rw [hline'.result] at hsecond
  obtain ⟨rfl, hunbroken, rfl⟩ := Action.lineEnding_eq_ok_iff.mp hfirst
  obtain ⟨rfl, hunbroken', rfl⟩ := Action.lineEnding_eq_ok_iff.mp hsecond
  have hreaped : Action.reaped steps none = Step.children steps :=
    Action.reaped_eq_children (by simp) hunbroken
  have hreaped' : Action.reaped steps' none = Step.children steps' :=
    Action.reaped_eq_children (by simp) hunbroken'
  have hran := hline.ran.append hline'.ran
  rw [← Text.commands_append_marker] at hran
  obtain ⟨noted₂, waits₂, hjoined⟩ := exists_lineRun_of_ran hran
  have hunbroken₂ : (Step.children (steps ++ steps')).findSome? Child.breakage? = none := by
    rw [Step.children_append, List.findSome?_append, hunbroken, hunbroken']
    rfl
  have hreaped₂ : Action.reaped (steps ++ steps') none =
      Step.children steps ++ Step.children steps' := by
    rw [Action.reaped_eq_children (by simp) hunbroken₂, Step.children_append]
  constructor
  · rw [hjoined.result, ← Step.summarize_append, ← List.map_append, ← Step.children_append,
      ← Text.commands_append_marker]
    exact Action.lineEnding_eq_ok_iff.mpr ⟨rfl, hunbroken₂, rfl⟩
  · rw [hjoined.session, hline'.session]
  · rw [hjoined.events, hline.actions, hline'.actions, hline.awaits, hline'.awaits, hreaped,
      hreaped', hreaped₂, Trace.events_append, List.map_append]
  · rw [hjoined.diagnostics, hline.diagnostics, hline'.diagnostics, hreaped, hreaped', hreaped₂,
      Text.syntaxReport_append_marker, Trace.diagnostics_append, List.flatMap_append]
    apply List.perm_iff_count.mpr
    intro said
    simp only [List.count_append]
    omega

/-- The first line changes the search path for the second, and each reports two failures. -/
theorem pathChange_joins :
    let w := World.ofPrograms [(Text.ofString "/bin/a", ⟨.starts, .exits 3⟩),
      (Text.ofString "/opt/lost", ⟨.starts, .fails .noChildren⟩)]
    let a := Text.ofString "a & > x & cd & path /opt"
    let b := Text.ofString "lost & a"
    let first := Action.runLine a w (.start defaultPath)
    let second := Action.runLine b w first.session
    ∃ r r', first.result = .ok r ∧ second.result = .ok r' ∧
      (r.append r').statuses = [some 3, none] ∧ (r.append r').failed = 1 ∧
      Joins first second (Action.runLine (a ++ parallelMarker :: b) w (.start defaultPath)) r r' := by
  intro w a b first second
  obtain ⟨r, hfirst, hr⟩ := Action.exists_ok_of_map
    (by decide +kernel : first.result.toOption.map (fun r => (r.statuses, r.failed)) =
      some ([some 3], 0))
  obtain ⟨r', hsecond, hr'⟩ := Action.exists_ok_of_map
    (by decide +kernel : second.result.toOption.map (fun r => (r.statuses, r.failed)) =
      some ([none], 1))
  obtain ⟨hstatuses, hfailed⟩ := Prod.mk.inj hr
  obtain ⟨hstatuses', hfailed'⟩ := Prod.mk.inj hr'
  refine ⟨r, r', hfirst, hsecond, ?_, ?_, runLine_joins hfirst hsecond⟩
  · simp [LineResult.append, hstatuses, hstatuses']
  · simp [LineResult.append, hfailed, hfailed']

end LineShell
