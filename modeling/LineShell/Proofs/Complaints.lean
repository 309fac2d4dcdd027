/-
  LineShell/Proofs/Complaints.lean
  ================================
  **What a line says of its failures.**

  Diagnostics come from four places: the parser, the built-ins, the launches and the
  waits.  What each command says is fixed by the world (`Command.complaint`), and so
  is the message that it leaves in its target instead (`Command.written`).

  `runLine_report` puts them in order for a line that returns: the error stream holds
  one line for each malformed segment, then what its commands say, one after another,
  then one line for each refused wait, and nothing else unless details of the log are
  asked for.
-/
import LineShell.Proofs.Calls
import LineShell.Proofs.Phases

namespace LineShell

/-! ### The error stream without details of the log -/

/-- Nothing below a warning is wanted of the log. -/
def LogSettings.HidesDetail (settings : LogSettings) : Prop :=
  LogLevel.info.severity < settings.threshold.severity

theorem LogSettings.unconfigured_hidesDetail : unconfigured.HidesDetail := by
  unfold HidesDetail
  decide

/-- The text of lines, each ended by a line feed. -/
def Text.ofLines (lines : List Text) : Text := lines.flatMap (· ++ [.char '\n'])

theorem LogRecord.shown_of_detail {settings : LogSettings} (hhides : settings.HidesDetail)
    {r : LogRecord} (h : r.level.IsDetail) : r.shown settings = false := by
  have hlevel : r.level.severity ≤ LogLevel.info.severity := by
    revert h
    cases r.level <;> simp [LogLevel.IsDetail, LogLevel.severity]
  simp only [shown, decide_eq_false_iff_not]
  exact Nat.not_le.mpr (Nat.lt_of_le_of_lt hlevel hhides)

theorem LogRecord.render_of_detail {settings : LogSettings} (hhides : settings.HidesDetail)
    {r : LogRecord} (h : r.level.IsDetail) : r.render settings = [] := by
  rw [render, r.shown_of_detail hhides h, if_neg Bool.false_ne_true]

/-- Without details the error stream of a line shows its diagnostics alone. -/
theorem Trace.stderr_eq_ofLines {settings : LogSettings} (hhides : settings.HidesDetail)
    {t : Trace} (h : ∀ e ∈ t, e.OfLine) : t.stderr settings = Text.ofLines t.diagnostics := by
  induction t with
  | nil => rfl
  | cons e rest ih =>
    obtain ⟨he, hrest⟩ := List.forall_mem_cons.mp h
    have hlater := ih hrest
    unfold stderr at hlater ⊢
    rw [List.flatMap_cons, hlater]
    cases e with
    | log r =>
      dsimp only
      rw [r.render_of_detail hhides he.record.isDetail]
      rfl
    | _ => rfl

/-! ### What a command says -/

/-- The line that a built-in shows, if it fails. -/
def Builtin.complaint (w : World) : Builtin → List Text → Option DiagnosticKind
  | .exit, operands => if operands.isEmpty then none else some .argumentCount
  | .cd, [d] => if (w.entryFault d).isSome then some .generic else none
  | .cd, _ => some .argumentCount
  | .path, _ => none

/-- The line that a launch with this verdict shows.  A refused program that has a
    target says nothing here. -/
def Verdict.complaint (c : Command) : Verdict → Option Text
  | .notFound => some (Text.ofString DiagnosticKind.commandNotFound.message)
  | .targetRefused _ => some (Text.ofString DiagnosticKind.file.message)
  | .answered _ (.unforked _) => some (Text.ofString DiagnosticKind.fork.message)
  | .answered _ (.refused reason) =>
    if c.target.isSome then none else some (c.name ++ Text.ofString ": " ++ reason)
  | .answered _ (.started _) | .answered _ (.broken _ _) => none

def Command.complaint (c : Command) (w : World) (path : List Text) : Option Text :=
  match Builtin.named? c.name with
  | some b => (b.complaint w c.operands).map fun kind => Text.ofString kind.message
  | none => (c.verdict w path).complaint c

/-- What a launch with this verdict writes into its target: the message of a refused
    program. -/
def Verdict.written (c : Command) : Verdict → List Event
  | .answered _ (.refused reason) => c.target.toList.map fun t =>
    .writeTarget t (c.name ++ Text.ofString ": " ++ reason ++ Text.ofString "\n")
  | _ => []

def Command.written (c : Command) (w : World) (path : List Text) : List Event :=
  match Builtin.named? c.name with
  | some _ => []
  | none => (c.verdict w path).written c

def Event.isWrite : Event → Bool
  | .writeTarget _ _ => true
  | _ => false

/-- What was written into targets, in order. -/
def Trace.writes (t : Trace) : List Event := t.events.filter Event.isWrite

theorem Trace.writes_append (t t' : Trace) : writes (t ++ t') = t.writes ++ t'.writes := by
  rw [writes, events_append, List.filter_append]
  rfl

/-- What commands give one after another, each on the search path that those before
    it leave. -/
def alongPath {α : Type} (give : Command → List Text → List α) : List Text → List Command → List α
  | _, [] => []
  | path, c :: rest => give c path ++ alongPath give (c.pathAfter path) rest

/-- A segment that misuses the redirection operator. -/
def Text.isMalformed (segment : Text) : Bool := segment.parseSegment.toOption.isNone

/-- What a line that returns has said, and what it has written into its targets. -/
structure LineReport (w : World) (path : List Text) (line : Text) (t : Trace) : Prop where
  stderr : ∀ settings : LogSettings, settings.HidesDetail → t.stderr settings = Text.ofLines
    (List.replicate (line.segments.countP Text.isMalformed)
        (Text.ofString DiagnosticKind.redirection.message) ++
      alongPath (fun c path => (c.complaint w path).toList) path line.commands ++
      List.replicate (t.spawns.countP fun child => w.refusesWait child.2)
        (Text.ofString DiagnosticKind.wait.message))
  writes : t.writes = alongPath (fun c path => c.written w path) path line.commands

/-! ### Each command says its line -/

theorem Verdict.complaint_eq (c : Command) (w : World) (pid : Pid) (v : Verdict) :
    (v.complaint c).toList =
      match v.result c w pid with
      | .error (.reported e) => if e.redirected then [] else [e.failure.render]
      | _ => [] := by
  unfold Verdict.complaint Verdict.result
  split
  · rfl
  · rfl
  · rfl
  · next reason =>
    cases htarget : c.target with
    | none => simp [Command.messageFault, htarget, Failure.render]
    | some t =>
      cases hlost : c.messageFault w reason with
      | none => simp [hlost]
      | some f => rcases Command.eq_of_messageFault hlost with rfl | ⟨e, rfl⟩ <;> simp [hlost]
  · rfl
  · rfl

theorem Verdict.calls_filter_isWrite {c : Command} {w : World} {pid : Pid} {v : Verdict}
    (hkept : ∀ path reason, v = .answered path (.refused reason) →
      c.messageFault w reason = none) :
    (v.calls c w pid).filter Event.isWrite = v.written c := by
  cases v with
  | answered path answer =>
    have hopens : (c.target.toList.map Event.openTarget).filter Event.isWrite = [] := by
      cases c.target <;> rfl
    have hcloses : (c.target.toList.map Event.closeTarget).filter Event.isWrite = [] := by
      cases c.target <;> rfl
    rw [Verdict.calls, List.filter_append, List.filter_append, hopens, hcloses, List.nil_append,
      List.append_nil]
    cases answer with
    | refused reason =>
      rw [StartAnswer.calls, hkept path reason rfl, Verdict.written]
      cases c.target <;> rfl
    | _ => rfl
  | _ => rfl

theorem World.search_filter_isWrite (w : World) (name : Text) (directories : List Text) :
    (w.search name directories).filter Event.isWrite = [] := by
  unfold World.search
  split
  · rfl
  · simp [List.filter_map, Function.comp_def, Event.isWrite]

namespace Action

section Complaints

variable (w : World) (s : Session)

theorem reporting_diagnostics (a : Action Unit) :
    (reporting a w s).trace.diagnostics = (a w s).trace.diagnostics ++
      match (a w s).result with
      | .error (.reported e) => if e.redirected then [] else [e.failure.render]
      | _ => [] := by
  unfold reporting
  rw [attempt_bind, Trace.diagnostics_append]
  cases (a w s).result with
  | ok u => rfl
  | error f =>
    cases f with
    | reported e =>
      dsimp only
      rw [report_diagnostics]
    | _ => rfl

theorem changeDirectory_diagnostics (operands : List Text) :
    (reporting (changeDirectory operands) w s).trace.diagnostics =
      ((Builtin.cd.complaint w operands).map fun kind => Text.ofString kind.message).toList := by
  rw [reporting_diagnostics]
  rcases operands with _ | ⟨d, _ | ⟨e, rest⟩⟩
  · rfl
  · unfold changeDirectory
    dsimp only
    rw [attempt_bind, chdir_apply, Builtin.complaint]
    cases w.entryFault d <;> rfl
  · rfl

theorem runBuiltin_diagnostics (b : Builtin) (c : Command) :
    (runBuiltin b c w s).trace.diagnostics =
      ((b.complaint w c.operands).map fun kind => Text.ofString kind.message).toList := by
  unfold runBuiltin
  rw [bind_ok (log_apply w s _ _ _), Trace.diagnostics_append]
  cases b with
  | exit => cases c.operands <;> rfl
  | cd => exact changeDirectory_diagnostics w s c.operands
  | path => rfl

theorem runCommand_diagnostics {c : Command} (hargs : NamesItself c) :
    (runCommand c w s).trace.diagnostics = (c.complaint w s.path).toList := by
  unfold Command.complaint
  cases hname : Builtin.named? c.name with
  | some b => rw [(runCommand_of_builtin w s hname).2.2, runBuiltin_diagnostics]
  | none =>
    have hquiet := Trace.diagnostics_eq_nil (launch_leaves c s.path w s)
    dsimp only
    rw [Verdict.complaint_eq c w s.nextPid, ← (launch_spec w s s.path hargs).1,
      runCommand_external_apply w s hname]
    cases (launch c s.path w s).result with
    | ok child => exact hquiet
    | error f =>
      cases f with
      | reported e =>
        dsimp only
        rw [Trace.diagnostics_append, hquiet, report_diagnostics, List.nil_append]
      | _ => exact hquiet

/-- A command that does not end its line writes into its target what it has to. -/
theorem runCommand_writes {c : Command} {step : Step} (hargs : NamesItself c)
    (hturn : (runCommand c w s).result = .ok step) :
    (runCommand c w s).trace.writes = c.written w s.path := by
  have hpasses : ∀ f, ¬ c.Halts w s.path f := by
    intro f hf
    rw [runCommand_result w s hargs, Command.turn_eq_error_iff.mpr hf] at hturn
    cases hturn
  rw [Trace.writes, runCommand_events w s hargs, Command.calls, Command.written]
  cases hname : Builtin.named? c.name with
  | some b =>
    unfold Builtin.calls
    dsimp only
    split
    · split <;> rfl
    · rfl
  | none =>
    -- a message that cannot be written would have ended the line
    have hkept : ∀ path reason, c.verdict w s.path = .answered path (.refused reason) →
        c.messageFault w reason = none := by
      intro path reason hverdict
      cases hlost : c.messageFault w reason with
      | none => rfl
      | some f => exact absurd (.losesMessage hname hverdict hlost) (hpasses f)
    dsimp only
    rw [List.filter_append, World.search_filter_isWrite, Verdict.calls_filter_isWrite hkept,
      List.nil_append]

end Complaints

end Action

/-! ### A line says what its commands say -/

theorem Text.syntaxReport_eq_replicate (line : Text) :
    line.syntaxReport = List.replicate (line.segments.countP isMalformed)
      (Text.ofString DiagnosticKind.redirection.message) := by
  unfold syntaxReport recoverLine
  induction line.segments with
  | nil => rfl
  | cons segment rest ih =>
    rw [List.filterMap_cons, List.countP_cons, isMalformed]
    cases segment.parseSegment with
    | error f =>
      dsimp only
      rw [List.filter_cons_of_pos (by rfl), List.map_cons, ih]
      rfl
    | ok found =>
      cases found with
      | none => exact ih
      | some c => exact ih

/-- What every command leaves of a view, the run leaves of it. -/
theorem Ran.view_eq_alongPath {α : Type} {view : Trace → List α}
    {give : Command → List Text → List α} {w : World} {s s' : Session} {commands : List Command}
    {steps : List Step} {fault : Option Fault} {t : Trace}
    (h : Ran w s commands steps fault s' t) (hnames : ∀ c ∈ commands, NamesItself c)
    (hfault : fault = none) (hnil : view [] = [])
    (happend : ∀ t t', view (t ++ t') = view t ++ view t')
    (hgive : ∀ c s step, NamesItself c → (Action.runCommand c w s).result = .ok step →
      view (Action.runCommand c w s).trace = give c s.path) :
    view t = alongPath give s.path commands := by
  induction h with
  | nil => exact hnil
  | halt _ => cases hfault
  | @step s s' c rest step steps fault t hturn hrest ih =>
    have hc := hnames c (by simp)
    rw [happend, hgive c s step hc hturn, ih (fun d hd => hnames d (by simp [hd])) hfault,
      Action.runCommand_path w s hc]
    rfl

/-- The diagnostics of a line that returns are those of its failures, each once and in
    order. -/
theorem runLine_report {line : Text} {w : World} {s : Session} {r : LineResult}
    (hreturns : (Action.runLine line w s).result = .ok r) :
    LineReport w s.path line (Action.runLine line w s).trace := by
  obtain ⟨steps, fault, s', noted, t, waits, hline⟩ := exists_lineRun w s line
  have hlines := Action.runLine_leaves line w s
  rw [hline.outcome] at hreturns
  obtain ⟨rfl, hunbroken, -⟩ := Action.lineEnding_eq_ok_iff.mp hreturns
  have hreaped : Action.reaped steps none = Step.children steps :=
    Action.reaped_eq_children (by simp) hunbroken
  have hstarted := hline.started
  have hsaid : t.diagnostics =
      alongPath (fun c path => (c.complaint w path).toList) s.path line.commands :=
    hline.ran.view_eq_alongPath line.commands_namesItself rfl rfl Trace.diagnostics_append
      fun c s step hargs _ => Action.runCommand_diagnostics w s hargs
  have hwritten : t.writes = alongPath (fun c path => c.written w path) s.path line.commands :=
    hline.ran.view_eq_alongPath line.commands_namesItself rfl rfl Trace.writes_append
      fun c s step hargs hturn => Action.runCommand_writes w s hargs hturn
  have hnoted : noted.writes = [] := by
    rw [Trace.writes, hline.notedEvents]
    rfl
  have hwaits : waits.writes = [] := by
    rw [Trace.writes, hline.waitEvents]
    simp [List.filter_map, Function.comp_def, Event.isWrite]
  refine ⟨fun settings hhides => ?_, ?_⟩
  · rw [Trace.stderr_eq_ofLines hhides hlines, hstarted.spawns, List.countP_map, hline.outcome,
      Trace.diagnostics_append, Trace.diagnostics_append, hline.notedDiagnostics, hsaid,
      hline.waitDiagnostics, hreaped, flatMap_waitReport hstarted.endings,
      Text.syntaxReport_eq_replicate, List.append_assoc]
    rfl
  · rw [hline.outcome, Trace.writes_append, Trace.writes_append, hnoted, hwaits, hwritten,
      List.append_nil, List.nil_append]

/-- `/bin/lost` cannot be waited for, `/bin/denied` may not be run, and the target `ro`
    cannot be opened. -/
def World.mishaps : World :=
  { ofPrograms [(Text.ofString "/bin/lost", ⟨.starts, .fails .noChildren⟩),
      (Text.ofString "/bin/denied", ⟨.fails .permissionDenied none, .exits 0⟩)] with
    target := fun name =>
      if name = Text.ofString "ro" then ⟨some .permissionDenied, none⟩ else .ordinary }

theorem mishaps_report :
    let o := Action.runLine (Text.ofString "lost & > x & cd & denied > f & lost > ro")
      World.mishaps (.start defaultPath)
    (∃ r, o.result = .ok r ∧ r.failed = 2) ∧
      LineReport World.mishaps defaultPath (Text.ofString "lost & > x & cd & denied > f & lost > ro")
        o.trace ∧
      o.trace.writes =
        [.writeTarget (Text.ofString "f") (Text.ofString "denied: Permission denied\n")] := by
  intro o
  obtain ⟨r, hreturns, hfailed⟩ := Action.exists_ok_of_map
    (by decide +kernel : o.result.toOption.map LineResult.failed = some 2)
  exact ⟨⟨r, hreturns, hfailed⟩, runLine_report hreturns, by decide +kernel⟩

end LineShell
