/-
  LineShell/Proofs/Phases.lean
  ============================
  **The three phases of a line.**

  A line is parsed, its commands are run, and its children are awaited.
  `runLine_phases` cuts every run of a line into these three: what parsing reports,
  the run of the commands (`Ran`), and a last phase that depends only on the steps
  and the fault of that run (`lastPhase`).  All laws of a line start from this cut.
-/
import LineShell.Proofs.Commands
import LineShell.Proofs.Reaping

namespace LineShell

/-! ### The commands of a line -/

def Text.commands (line : Text) : List Command := line.recoverLine.filterMap Except.toOption

/-- What parsing a line says to the user: one line for each malformed segment. -/
def Text.syntaxReport (line : Text) : List Text :=
  (line.recoverLine.filter fun parsed => parsed.toOption.isNone).map fun _ =>
    Text.ofString DiagnosticKind.redirection.message

theorem Text.namesItself_of_parseSegment {segment : Text} {c : Command}
    (h : segment.parseSegment = .ok (some c)) : NamesItself c := by
  unfold parseSegment commandOfTokens at h
  dsimp only at h
  split at h
  · cases h
  · cases h
  · next name rest hwords _ =>
    obtain rfl : _ = c := by simpa using h
    simp [NamesItself, hwords]
  · next name rest op target hwords _ =>
    split at h
    · cases h
    · obtain rfl : _ = c := by simpa using h
      simp [NamesItself, hwords]
  · cases h

theorem Text.mem_commands {line : Text} {c : Command} (h : c ∈ line.commands) :
    ∃ segment ∈ line.segments, segment.parseSegment = .ok (some c) := by
  obtain ⟨parsed, hparsed, hc⟩ := List.mem_filterMap.mp h
  obtain ⟨segment, hmem, hsegment⟩ := List.mem_filterMap.mp hparsed
  cases hparse : segment.parseSegment with
  | error f =>
    rw [hparse] at hsegment
    obtain rfl := Option.some.inj hsegment
    cases hc
  | ok found =>
    cases found with
    | none => simp [hparse] at hsegment
    | some d =>
      rw [hparse] at hsegment
      obtain rfl := Option.some.inj hsegment
      obtain rfl := Option.some.inj hc
      exact ⟨segment, hmem, hparse⟩

theorem Text.commands_namesItself (line : Text) : ∀ c ∈ line.commands, NamesItself c := by
  intro c h
  obtain ⟨segment, -, hparse⟩ := Text.mem_commands h
  exact namesItself_of_parseSegment hparse

namespace Action

theorem noteParsed_spec (w : World) (s : Session) (parsed : List (Except SyntaxFault Command)) :
    (noteParsed parsed w s).result = .ok (parsed.filterMap Except.toOption) ∧
      (noteParsed parsed w s).session = s ∧
      (noteParsed parsed w s).trace.diagnostics =
        (parsed.filter fun p => p.toOption.isNone).map fun _ =>
          Text.ofString DiagnosticKind.redirection.message := by
  induction parsed with
  | nil => exact ⟨rfl, rfl, rfl⟩
  | cons head rest ih =>
    obtain ⟨hresult, hsession, hreport⟩ := ih
    cases head with
    | ok c =>
      unfold noteParsed
      rw [bind_ok (log_apply w s _ _ _), bind_apply, hresult, hsession]
      refine ⟨rfl, rfl, ?_⟩
      simpa [Except.toOption] using hreport
    | error f =>
      unfold noteParsed
      obtain ⟨hok, hkept⟩ := report_spec w s f.toFailure.toError
      rw [bind_apply, hok, hkept]
      refine ⟨hresult, hsession, ?_⟩
      rw [Trace.diagnostics_append, report_diagnostics, hreport]
      rfl

/-! ### The last phase -/

def lastPhase (commands : List Command) (steps : List Step) : Option Fault → Action LineResult
  | none => concludeLine commands steps
  | some f => abandonLine steps f

/-- How a line ends, from the steps of its commands and the fault that stopped them:
    leaving the shell is final, and otherwise a wait that breaks comes first. -/
def lineEnding (commands : List Command) (steps : List Step) (fault : Option Fault) :
    Except Fault LineResult :=
  match fault, (Step.children steps).findSome? Child.breakage? with
  | some (.exit status), _ => .error (.exit status)
  | _, some g => .error g
  | some f, none => .error f
  | none, none =>
    .ok (Step.summarize commands steps ((Step.children steps).map Child.status?))

/-- A line returns when no fault stopped it and no wait breaks. -/
theorem lineEnding_eq_ok_iff {commands : List Command} {steps : List Step} {fault : Option Fault}
    {r : LineResult} :
    lineEnding commands steps fault = .ok r ↔
      fault = none ∧ (Step.children steps).findSome? Child.breakage? = none ∧
        Step.summarize commands steps ((Step.children steps).map Child.status?) = r := by
  unfold lineEnding
  split <;> simp_all

/-- A line ends with the fault that stopped it, unless a wait breaks first. -/
theorem lineEnding_eq_error_iff {commands : List Command} {steps : List Step}
    {fault : Option Fault} {f : Fault} :
    lineEnding commands steps fault = .error f ↔
      fault = some f ∧
          ((Step.children steps).findSome? Child.breakage? = none ∨ ∃ status, f = .exit status) ∨
        (∀ status, fault ≠ some (.exit status)) ∧
          (Step.children steps).findSome? Child.breakage? = some f := by
  unfold lineEnding
  cases fault with
  | none => cases (Step.children steps).findSome? Child.breakage? <;> simp
  | some g =>
    cases g <;> cases (Step.children steps).findSome? Child.breakage? <;>
      simp +contextual [eq_comm]

/-- Only a command leaves the shell, and then the children do not matter. -/
theorem lineEnding_eq_exit_iff {commands : List Command} {steps : List Step}
    {fault : Option Fault} {status : Int} :
    lineEnding commands steps fault = .error (.exit status) ↔ fault = some (.exit status) := by
  rw [lineEnding_eq_error_iff]
  refine ⟨?_, fun hfault => Or.inl ⟨hfault, Or.inr ⟨status, rfl⟩⟩⟩
  rintro (⟨hfault, -⟩ | ⟨-, hbreaks⟩)
  · exact hfault
  · obtain ⟨kind, text, hexit⟩ := Child.breakdown_of_findSome? hbreaks
    cases hexit

/-- The fault of a lost message ends the line when it comes from a command and no wait
    breaks. -/
theorem lineEnding_eq_error_iff_of_message {commands : List Command} {steps : List Step}
    {fault : Option Fault} {f : Fault} (hf : f.IsOfMessage) :
    lineEnding commands steps fault = .error f ↔
      fault = some f ∧ (Step.children steps).findSome? Child.breakage? = none := by
  rw [lineEnding_eq_error_iff]
  refine ⟨?_, fun ⟨hfault, hunbroken⟩ => Or.inl ⟨hfault, Or.inl hunbroken⟩⟩
  rintro (⟨hfault, hunbroken | ⟨status, rfl⟩⟩ | ⟨-, hbreaks⟩)
  · exact ⟨hfault, hunbroken⟩
  · cases hf
  · obtain ⟨kind, text, rfl⟩ := Child.breakdown_of_findSome? hbreaks
    cases hf

theorem lineEnding_of_fault {commands : List Command} {steps : List Step} {f : Fault}
    (hunbroken : (Step.children steps).findSome? Child.breakage? = none) :
    lineEnding commands steps (some f) = .error f := by
  unfold lineEnding
  rw [hunbroken]
  cases f <;> rfl

/-- The children that a line waits for: none when the shell is left. -/
def reaped (steps : List Step) : Option Fault → List Child
  | some (.exit _) => []
  | _ => awaited (Step.children steps)

theorem reaped_eq_awaited {steps : List Step} {fault : Option Fault}
    (hstays : ∀ status, fault ≠ some (.exit status)) :
    reaped steps fault = awaited (Step.children steps) := by
  unfold reaped
  split
  · next status => exact absurd rfl (hstays status)
  · rfl

theorem reaped_eq_children {steps : List Step} {fault : Option Fault}
    (hstays : ∀ status, fault ≠ some (.exit status))
    (hunbroken : (Step.children steps).findSome? Child.breakage? = none) :
    reaped steps fault = Step.children steps :=
  (reaped_eq_awaited hstays).trans (awaited_eq_self hunbroken)

variable (w : World) (s : Session)

theorem lastPhase_leaves (commands : List Command) (steps : List Step) (fault : Option Fault) :
    Leaves Entry.OfWait (lastPhase commands steps fault) := by
  cases fault with
  | none => exact concludeLine_leaves commands steps
  | some f => exact abandonLine_leaves steps f

theorem concludeLine_spec (commands : List Command) (steps : List Step) :
    (concludeLine commands steps w s).result = lineEnding commands steps none ∧
      (concludeLine commands steps w s).session = s ∧
      (concludeLine commands steps w s).trace.waitedPids =
        (awaited (Step.children steps)).map Child.pid ∧
      (concludeLine commands steps w s).trace.diagnostics =
        (awaited (Step.children steps)).flatMap Child.waitReport := by
  obtain ⟨hresult, hsession, hwaited, hreport⟩ := waitAll_spec w s (Step.children steps)
  unfold concludeLine lineEnding
  rw [bind_apply, hresult, hsession]
  cases (Step.children steps).findSome? Child.breakage? with
  | some g => exact ⟨rfl, rfl, hwaited, hreport⟩
  | none =>
    dsimp only
    split
    · refine ⟨rfl, rfl, ?_, ?_⟩
      · rw [bind_ok (log_apply w s _ _ _), Trace.waitedPids_append, hwaited]
        exact List.append_nil _
      · rw [bind_ok (log_apply w s _ _ _), Trace.diagnostics_append, hreport]
        exact List.append_nil _
    · refine ⟨rfl, rfl, ?_, ?_⟩
      · rw [done_apply, List.append_nil, hwaited]
      · rw [done_apply, List.append_nil, hreport]

theorem abandonLine_spec (commands : List Command) (steps : List Step) (f : Fault) :
    (abandonLine steps f w s).result = lineEnding commands steps (some f) ∧
      (abandonLine steps f w s).session = s ∧
      (abandonLine steps f w s).trace.waitedPids = (reaped steps (some f)).map Child.pid ∧
      (abandonLine steps f w s).trace.diagnostics =
        (reaped steps (some f)).flatMap Child.waitReport := by
  obtain ⟨hresult, hsession, hwaited, hreport⟩ := waitAll_spec w s (Step.children steps)
  cases f with
  | exit status => exact ⟨rfl, rfl, rfl, rfl⟩
  | _ =>
    simp only [abandonLine, lineEnding, reaped, bind_apply, hresult, hsession]
    cases (Step.children steps).findSome? Child.breakage? <;> simp [hwaited, hreport]

theorem lastPhase_spec (commands : List Command) (steps : List Step) (fault : Option Fault) :
    (lastPhase commands steps fault w s).result = lineEnding commands steps fault ∧
      (lastPhase commands steps fault w s).session = s ∧
      (lastPhase commands steps fault w s).trace.waitedPids =
        (reaped steps fault).map Child.pid ∧
      (lastPhase commands steps fault w s).trace.diagnostics =
        (reaped steps fault).flatMap Child.waitReport := by
  cases fault with
  | none => exact concludeLine_spec w s commands steps
  | some f => exact abandonLine_spec w s commands steps f

end Action

/-! ### The run of a line -/

/-- A run of a line in three phases: what parsing notes, what its commands leave, and
    what waiting for their children leaves. -/
structure LineRun (w : World) (s : Session) (line : Text) (steps : List Step)
    (fault : Option Fault) (s' : Session) (noted commands waits : Trace) : Prop where
  ran : Ran w s line.commands steps fault s' commands
  outcome : Action.runLine line w s =
    ⟨Action.lineEnding line.commands steps fault, s', noted ++ (commands ++ waits)⟩
  notedEvents : noted.events = []
  notedDiagnostics : noted.diagnostics = line.syntaxReport
  waitEvents : waits.events = (Action.reaped steps fault).map fun child => .wait child.pid
  waitDiagnostics : waits.diagnostics = (Action.reaped steps fault).flatMap Child.waitReport

theorem exists_lineRun (w : World) (s : Session) (line : Text) :
    ∃ steps fault s' noted commands waits,
      LineRun w s line steps fault s' noted commands waits := by
  obtain ⟨hresult, hsession, hreport⟩ := Action.noteParsed_spec w s line.recoverLine
  obtain ⟨steps, fault, s', t, hrun, hran⟩ := Action.runCommands_ran w line.commands s
  obtain ⟨hending, hkept, hwaited, hwaits⟩ :=
    Action.lastPhase_spec w s' line.commands steps fault
  refine ⟨steps, fault, s', (Action.parseReporting line w s).trace, t,
    (Action.lastPhase line.commands steps fault w s').trace, ?_⟩
  refine ⟨hran, ?_, ?_, hreport, ?_, hwaits⟩
  · have hparse : Action.parseReporting line w s =
        ⟨.ok line.commands, s, (Action.parseReporting line w s).trace⟩ :=
      Action.outcome_eq s hresult hsession
    have hlast : Action.runLine line w s =
        ⟨(Action.lastPhase line.commands steps fault w s').result,
          (Action.lastPhase line.commands steps fault w s').session,
          (Action.parseReporting line w s).trace ++ (t ++
            (Action.lastPhase line.commands steps fault w s').trace)⟩ := by
      unfold Action.runLine
      rw [Action.bind_ok hparse, Action.bind_ok hrun]
      cases fault <;> rfl
    rw [hlast, hending, hkept]
  · exact Trace.events_eq_nil fun e he => Action.noteParsed_leaves line.recoverLine w s _ he
  · rw [Trace.events_eq_map_wait (Action.lastPhase_leaves _ _ _ w s'), hwaited, List.map_map]
    rfl

/-- A line is run with any run of its commands, since there is only one. -/
theorem exists_lineRun_of_ran {w : World} {s s' : Session} {line : Text} {steps : List Step}
    {fault : Option Fault} {t : Trace} (h : Ran w s line.commands steps fault s' t) :
    ∃ noted waits, LineRun w s line steps fault s' noted t waits := by
  obtain ⟨steps', fault', s₁, noted, t', waits, hline⟩ := exists_lineRun w s line
  have hsame := hline.ran.outcome.symm.trans h.outcome
  obtain ⟨⟨rfl, rfl⟩, rfl, rfl⟩ :
      (steps' = steps ∧ fault' = fault) ∧ s₁ = s' ∧ t' = t := by simpa using hsame
  exact ⟨noted, waits, hline⟩

namespace LineRun

variable {w : World} {s s' : Session} {line : Text} {steps : List Step} {fault : Option Fault}
  {noted commands waits : Trace}

theorem started (h : LineRun w s line steps fault s' noted commands waits) :
    Started w s (Action.runLine line w s).trace s' (Step.children steps) := by
  have hran := h.ran.started line.commands_namesItself
  have hnoted : noted.spawns = [] := by rw [Trace.spawns, h.notedEvents]; rfl
  have hwaits : waits.spawns = [] := by rw [Trace.spawns, h.waitEvents]; simp
  refine { hran with spawns := ?_ }
  rw [h.outcome, Trace.spawns_append, Trace.spawns_append, hnoted, hwaits, List.append_nil,
    List.nil_append, hran.spawns]

theorem result (h : LineRun w s line steps fault s' noted commands waits) :
    (Action.runLine line w s).result = Action.lineEnding line.commands steps fault := by
  rw [h.outcome]

theorem session (h : LineRun w s line steps fault s' noted commands waits) :
    (Action.runLine line w s).session = s' := by
  rw [h.outcome]

theorem events (h : LineRun w s line steps fault s' noted commands waits) :
    (Action.runLine line w s).trace.events =
      commands.events ++ (Action.reaped steps fault).map fun child => .wait child.pid := by
  rw [h.outcome, Trace.events_append, Trace.events_append, h.notedEvents, h.waitEvents,
    List.nil_append]

theorem diagnostics (h : LineRun w s line steps fault s' noted commands waits) :
    (Action.runLine line w s).trace.diagnostics = line.syntaxReport ++
      (commands.diagnostics ++ (Action.reaped steps fault).flatMap Child.waitReport) := by
  rw [h.outcome, Trace.diagnostics_append, Trace.diagnostics_append, h.notedDiagnostics,
    h.waitDiagnostics]

theorem unbroken (h : LineRun w s line steps fault s' noted commands waits)
    (hwaits : w.WaitsNeverBreak) : (Step.children steps).findSome? Child.breakage? = none :=
  hwaits.unbroken h.started.endings

theorem waitedPids (h : LineRun w s line steps fault s' noted commands waits) :
    (Action.runLine line w s).trace.waitedPids = (Action.reaped steps fault).map Child.pid := by
  have hnoted : noted.waitedPids = [] := by rw [Trace.waitedPids, h.notedEvents]; rfl
  have hwaits : waits.waitedPids = (Action.reaped steps fault).map Child.pid := by
    rw [Trace.waitedPids, h.waitEvents, List.filterMap_map]
    exact congrFun List.filterMap_eq_map _
  rw [h.outcome, Trace.waitedPids_append, Trace.waitedPids_append, hnoted,
    Trace.waitedPids_eq_nil h.ran.leaves, hwaits, List.nil_append, List.nil_append]

end LineRun

/-- A line leaves the shell exactly when its commands come to one that does. -/
theorem runLine_exit_iff {line : Text} {w : World} {s : Session} {status : Int} :
    (Action.runLine line w s).result = .error (.exit status) ↔
      HaltsWith w s.path line.commands (.exit status) := by
  obtain ⟨steps, fault, s', noted, t, waits, hline⟩ := exists_lineRun w s line
  obtain ⟨-, hsome⟩ := hline.ran.fault_iff line.commands_namesItself
  rw [hline.outcome, ← hsome]
  exact Action.lineEnding_eq_exit_iff

theorem HaltsWith.exit_status {w : World} {path : List Text} {commands : List Command}
    {status : Int} (h : HaltsWith w path commands (.exit status)) : status = 0 := by
  obtain ⟨front, c, back, -, -, hhalts⟩ := h
  exact (Command.halts_exit_iff.mp hhalts).1

end LineShell
