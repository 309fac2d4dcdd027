/-
  LineShell/Proofs/Status.lean
  ============================
  **What the status of the program says.**

  Status 1 is kept for runs that never start, so a program that ends with it should
  have made no call.  Of all that a line can end with, only one thing undoes this: the
  error of a write that loses a message is taken for an error of the batch file itself
  (`runBatch_apply`).

  `run_statusReport` says that nothing else does.  A batch file comes to such a write
  exactly when `LosesLine` holds of its lines, and in every other run status 1 means
  that nothing was called, and only a file that cannot be read is called unreadable.
-/
import LineShell.CommandLine.Run
import LineShell.Proofs.Calls
import LineShell.Proofs.Containment
import LineShell.Proofs.Drives

namespace LineShell

/-! ### Lines of a batch file -/

/-- After lines that return, a line ends with the error of a write that loses a message.  No
    wait for its children breaks, since that would be its end instead. -/
inductive LosesLine (w : World) : Session → List Text → Errno → Prop
  | here {s : Session} {line : Text} {rest : List Text} {e : Errno}
      (hloses : LosesMessage w s.path line.commands (.system (.ofErrno e)))
      (hwaits : ∀ child ∈ (Action.runLine line w s).trace.spawns, ¬ w.BreaksWait child.2) :
      LosesLine w s (line :: rest) e
  | later {s : Session} {line : Text} {rest : List Text} {r : LineResult} {e : Errno}
      (hreturns : (Action.runLine line w s).result = .ok r)
      (hrest : LosesLine w (Action.runLine line w s).session rest e) :
      LosesLine w s (line :: rest) e

theorem losesLine_cons {w : World} {s : Session} {line : Text} {rest : List Text} {e : Errno} :
    LosesLine w s (line :: rest) e ↔
      match (Action.runLine line w s).result with
      | .ok _ => LosesLine w (Action.runLine line w s).session rest e
      | .error f => f = .system (.ofErrno e) := by
  constructor
  · intro h
    cases h with
    | here hloses hwaits => rw [runLine_system_iff.mpr ⟨hloses, hwaits⟩]
    | later hreturns hrest => rwa [hreturns]
  · cases hresult : (Action.runLine line w s).result with
    | ok r => exact .later hresult
    | error f =>
      rintro rfl
      obtain ⟨hloses, hwaits⟩ := runLine_system_iff.mp hresult
      exact .here hloses hwaits

/-- A command that loses a message has asked for its program before. -/
theorem Command.Halts.calls_ne_nil {w : World} {path : List Text} {c : Command}
    {e : SystemError} (h : c.Halts w path (.system e)) (pid : Pid) : c.calls w path pid ≠ [] := by
  cases h with
  | losesMessage hname hverdict _ =>
    obtain ⟨hfound, -, -⟩ := Command.verdict_eq_answered_iff.mp hverdict
    obtain ⟨others, hsearch⟩ := World.asked_of_resolved hfound
    rw [Command.calls, hname]
    simp [hsearch]

theorem runLine_events_ne_nil {w : World} {s : Session} {line : Text} {e : SystemError}
    (h : (Action.runLine line w s).result = .error (.system e)) :
    (Action.runLine line w s).trace.events ≠ [] := by
  obtain ⟨steps, fault, s', noted, t, waits, hline⟩ := exists_lineRun w s line
  rw [hline.outcome] at h ⊢
  -- the fault is that of a command, and its search is part of the trace
  obtain ⟨hfault, -⟩ := (Action.lineEnding_eq_error_iff_of_message (.system e)).mp h
  obtain ⟨front, c, back, s₁, before, hcommands, -, hresult, -, rfl⟩ :=
    hline.ran.exists_halt hfault
  have hargs := line.commands_namesItself c (by simp [hcommands])
  have hhalts : c.Halts w s₁.path (.system e) :=
    Command.turn_eq_error_iff.mp (Action.runCommand_result w s₁ hargs ▸ hresult)
  have hcalls := hhalts.calls_ne_nil s₁.nextPid
  simp [Action.runCommand_events w s₁ hargs, hcalls]

namespace Action

/-- A batch file ends with a system error exactly when a line of it loses a message. -/
theorem runLines_system_iff {w : World} {number : Nat} {lines : List Text} {s : Session}
    {e : SystemError} :
    (runLines number lines w s).result = .error (.system e) ↔
      ∃ n, e = .ofErrno n ∧ LosesLine w s lines n := by
  induction lines generalizing number s with
  | nil =>
    refine iff_of_false (by simp [runLines]) ?_
    rintro ⟨n, -, hloses⟩
    cases hloses
  | cons line rest ih =>
    simp only [runLines_cons, losesLine_cons]
    cases hresult : (runLine line w s).result with
    | ok r => exact ih
    | error f =>
      cases f with
      | system e' =>
        obtain ⟨n, rfl⟩ := exists_errno_of_runLine hresult
        constructor
        · intro herror
          obtain rfl := Fault.system.inj (Except.error.inj herror)
          exact ⟨n, rfl, rfl⟩
        · rintro ⟨m, rfl, hfault⟩
          rw [Fault.system.inj hfault]
      | _ => simp

/-- A batch file ends with status 0, or with the fault of its last line. -/
theorem runLines_end (w : World) (number : Nat) (lines : List Text) (s : Session) :
    (runLines number lines w s).result = .ok 0 ∨
      ∃ line s' before f, (runLine line w s').result = .error f ∧
        (runLines number lines w s).result = .error f ∧
        (runLines number lines w s).trace = before ++ (runLine line w s').trace := by
  induction lines generalizing number s with
  | nil => exact Or.inl rfl
  | cons line rest ih =>
    rw [runLines_cons]
    dsimp only
    split
    · refine (ih (number + 1) (runLine line w s).session).imp_right ?_
      rintro ⟨last, s', before, f, hlast, hresult, htrace⟩
      refine ⟨last, s', .log (announcement number line) :: ((runLine line w s).trace ++ before), f,
        hlast, hresult, ?_⟩
      rw [htrace, List.cons_append, List.append_assoc]
    · next hleaves =>
      rw [(runLine_exit_iff.mp hleaves).exit_status]
      exact Or.inl rfl
    · next f _ hfault => exact Or.inr ⟨line, s, [_], f, hfault, rfl, rfl⟩

theorem runLines_status {w : World} {number : Nat} {lines : List Text} {s : Session}
    {status : Int} (h : (runLines number lines w s).result = .ok status) : status = 0 := by
  rcases runLines_end w number lines s with hresult | ⟨-, -, -, f, -, hresult, -⟩
  · exact Except.ok.inj (h.symm.trans hresult)
  · cases h.symm.trans hresult

theorem runLines_events_ne_nil {w : World} {number : Nat} {lines : List Text} {s : Session}
    {e : SystemError} (h : (runLines number lines w s).result = .error (.system e)) :
    (runLines number lines w s).trace.events ≠ [] := by
  rcases runLines_end w number lines s with hresult | ⟨line, s', before, f, hline, hresult, htrace⟩
  · cases h.symm.trans hresult
  · obtain rfl := Except.error.inj (h.symm.trans hresult)
    have hcalls := runLine_events_ne_nil hline
    rw [htrace, Trace.events_append]
    exact List.append_ne_nil_of_right_ne_nil _ hcalls

end Action

/-! ### The records of the command line -/

/-- Of the records of the command line, only those of detail. -/
def Entry.OfShell : Entry → Prop
  | .log r => r.source = .commandLine → r.level.IsDetail
  | _ => True

theorem Entry.OfLine.ofShell {e : Entry} (h : e.OfLine) : e.OfShell := by
  cases e with
  | log r => exact fun _ => h.record.isDetail
  | _ => trivial

namespace Action

open Entry

theorem runLines_leaves (number : Nat) (lines : List Text) :
    Leaves OfShell (runLines number lines) := by
  induction lines generalizing number with
  | nil => exact leaves_done _
  | cons line rest ih =>
    refine (leaves_log (by simp [OfShell])).bind fun _ =>
      ((runLine_leaves line).mono fun _ => OfLine.ofShell).attempt.bind fun result => ?_
    split
    · exact ih (number + 1)
    · exact leaves_done _
    · exact leaves_fail _

theorem recover_leaves {next : Action Int} (h : Leaves OfShell next) (f : Fault) :
    Leaves OfShell (recover next f) := by
  unfold recover
  split
  · exact leaves_done _
  · exact leaves_fail _
  · exact (leaves_leave (by simp [OfShell])).bind fun _ =>
      (leaves_leave (by simp [OfShell])).bind fun _ => h

theorem interact_leaves (prompt : Text) (inputs : List Input) :
    Leaves OfShell (interact prompt inputs) := by
  induction inputs with
  | nil => exact (leaves_leave (by simp [OfShell])).bind fun _ => leaves_done _
  | cons input rest ih =>
    cases input with
    | interrupt => exact (leaves_leave (by simp [OfShell])).bind fun _ => ih
    | line text =>
      refine (leaves_leave (by simp [OfShell])).bind fun _ =>
        ((runLine_leaves text.firstLine).mono fun _ => OfLine.ofShell).attempt.bind fun result => ?_
      split
      · exact ih
      · exact recover_leaves ih _

theorem interactive_leaves (prompt : Text) (history : Option History) (inputs : List Input) :
    Leaves OfShell (interactive prompt history inputs) := by
  have hloop := interact_leaves prompt inputs
  cases history with
  | none => exact (leaves_done _).bind fun _ => hloop
  | some h =>
    refine ((openHistory_leaves h).mono fun e he => ?_).bind fun _ => hloop
    cases e with
    | log r =>
      intro hsource
      cases he.symm.trans hsource
    | _ => trivial

theorem interact_status {w : World} {prompt : Text} {inputs : List Input} {s : Session}
    {status : Int} (h : (interact prompt inputs w s).result = .ok status) : status = 0 := by
  induction inputs generalizing s with
  | nil => exact (Except.ok.inj h).symm
  | cons input rest ih =>
    cases input with
    | interrupt => exact ih h
    | line text =>
      rw [interact_line_cons] at h
      dsimp only at h
      split at h
      · exact ih h
      · next f hfault =>
        cases f with
        | exit status =>
          obtain rfl := Except.ok.inj h
          exact (runLine_exit_iff.mp hfault).exit_status
        | breakdown kind text =>
          cases kind with
          | interrupt => cases h
          | _ => exact ih h
        | _ => exact ih h

theorem interactive_status {w : World} {prompt : Text} {history : Option History}
    {inputs : List Input} {s : Session} {status : Int}
    (h : (interactive prompt history inputs w s).result = .ok status) : status = 0 := by
  cases history with
  | none => exact interact_status h
  | some hist =>
    have hrun : interactive prompt (some hist) inputs w s = _ :=
      bind_apply w s (openHistory hist) fun _ => interact prompt inputs
    rw [hrun] at h
    split at h
    · cases h
    · exact interact_status h

end Action

namespace CommandLine

/-! ### A batch file -/

/-- The record that calls a batch file unreadable. -/
def unreadable (name : Text) (e : SystemError) : LogRecord :=
  ⟨.commandLine, .error, Text.ofString "Cannot read batch file " ++ name ++ Text.ofString ": " ++
    e.message, none⟩

/-- Some file was called unreadable. -/
def Blames (t : Trace) : Prop := ∃ name e, .log (unreadable name e) ∈ t

theorem not_blames {t : Trace} (h : ∀ e ∈ t, e.OfShell) : ¬ Blames t :=
  fun ⟨_, _, hblame⟩ => h _ hblame rfl

/-- What the program leaves when it calls a file unreadable. -/
def reproach (name : Text) (e : SystemError) : Trace :=
  [.log (unreadable name e), .diagnostic (Text.ofString DiagnosticKind.generic.message)]

/-- The entry that names the batch file before it is read. -/
def beginning (name : Text) : Entry :=
  .log ⟨.commandLine, .debug, Text.ofString "Running batch file " ++ name, none⟩

theorem readBatch_apply (files : Files) (name : Text) (w : World) (s : Session) :
    readBatch files name w s =
      if name.hasNul then ⟨.error .nulCharacter, s, []⟩
      else match files.read name with
        | .ok content => ⟨.ok content, s, []⟩
        | .error e => ⟨.error (.system (.about e name)), s, []⟩ := by
  unfold readBatch Action.refuseNul
  split
  · rfl
  · cases files.read name <;> rfl

/-- A batch file is read and run.  A system error is one of the file, also when it comes
    from a line. -/
theorem runBatch_apply (files : Files) (name : Text) (w : World) (s : Session) :
    runBatch files name w s =
      if name.hasNul then ⟨.error .nulCharacter, s, [beginning name]⟩
      else match files.read name with
        | .error e => ⟨.ok 1, s, beginning name :: reproach name (.about e name)⟩
        | .ok content =>
          let o := Action.runScript content w s
          match o.result with
          | .error (.system e) => ⟨.ok 1, o.session, beginning name :: (o.trace ++ reproach name e)⟩
          | result => ⟨result, o.session, beginning name :: o.trace⟩ := by
  unfold runBatch
  rw [Action.bind_ok (Action.log_apply w s _ _ _), Action.attempt_bind, Action.bind_apply,
    readBatch_apply]
  cases name.hasNul with
  | true => rfl
  | false =>
    cases files.read name with
    | error e => rfl
    | ok content =>
      simp only [Bool.false_eq_true, if_false, List.nil_append]
      cases (Action.runScript content w s).result with
      | ok status => simp [beginning]
      | error f => cases f <;> simp [beginning, reproach, reject, Action.bind_apply, unreadable,
          Action.reportKind]

/-! ### Statuses and what they say -/

/-- What the status of a run says, if it ends with one, and when a batch file is called
    unreadable. -/
structure StatusReport (unreadable lost : Prop) (status? : Option Int) (t : Trace) : Prop where
  status : ∀ status, status? = some status → status = 0 ∨ status = 1
  /-- Status 1 comes after a call only when a line has lost a message. -/
  called : status? = some 1 ∧ t.events ≠ [] ↔ lost
  blamed : Blames t ↔ unreadable ∨ lost

/-- A run that ends with status 0, or with status 1 before any call, and blames no file. -/
theorem StatusReport.of_blameless {unreadable lost : Prop} {status? : Option Int} {t : Trace}
    (hstatus : ∀ status, status? = some status → status = 0 ∨ status = 1 ∧ t.events = [])
    (hblame : ¬ Blames t) (hunreadable : ¬ unreadable) (hlost : ¬ lost) :
    StatusReport unreadable lost status? t where
  status status hends := (hstatus status hends).imp_right And.left
  called := by
    refine iff_of_false ?_ hlost
    rintro ⟨hends, hcalls⟩
    rcases hstatus 1 hends with hzero | ⟨-, hnothing⟩
    · cases hzero
    · exact hcalls hnothing
  blamed := iff_of_false hblame (not_or.mpr ⟨hunreadable, hlost⟩)

theorem runBatch_statusReport {files : Files} {name : Text} (w : World) (s : Session)
    (hname : name.hasNul = false) :
    StatusReport (∃ e, files.read name = .error e)
      (∃ content e, files.read name = .ok content ∧
        (Action.runScript content w s).result = .error (.system e))
      (runBatch files name w s).result.toOption (runBatch files name w s).trace := by
  rw [runBatch_apply, hname, if_neg Bool.false_ne_true]
  cases files.read name with
  | error e =>
    refine ⟨fun status hends => Or.inr (Option.some.inj hends).symm, ?_, ?_⟩
    · simp [beginning, reproach, Trace.events]
    · exact iff_of_true ⟨name, .about e name, by simp [reproach]⟩ (Or.inl ⟨e, rfl⟩)
  | ok content =>
    have hleaves := Action.runLines_leaves 1 (Text.decode content).lines w s
    -- the lines themselves call no file unreadable, and so only the end of the run counts
    have hblameless : ¬ Blames (beginning name :: (Action.runScript content w s).trace) :=
      not_blames (List.forall_mem_cons.mpr ⟨fun _ => trivial, hleaves⟩)
    dsimp only
    cases hresult : (Action.runScript content w s).result with
    | ok status =>
      refine .of_blameless (fun n hends => Or.inl ?_) hblameless (by simp) ?_
      · rw [← Option.some.inj hends]
        exact Action.runLines_status hresult
      · rintro ⟨_, e, hread, herror⟩
        obtain rfl := Except.ok.inj hread
        cases hresult.symm.trans herror
    | error f =>
      cases f with
      | system e =>
        have hcalls : (Action.runScript content w s).trace.events ≠ [] :=
          Action.runLines_events_ne_nil hresult
        refine ⟨fun status hends => Or.inr (Option.some.inj hends).symm, ?_, ?_⟩
        · refine iff_of_true ⟨rfl, fun hnone => hcalls ?_⟩ ⟨content, e, rfl, hresult⟩
          exact (List.append_eq_nil_iff.mp ((Trace.events_append _ _).symm.trans hnone)).1
        · exact iff_of_true ⟨name, e, by simp [reproach]⟩ (Or.inr ⟨content, e, rfl, hresult⟩)
      | _ =>
        refine .of_blameless (fun n hends => by cases hends) hblameless (by simp) ?_
        rintro ⟨_, e, hread, herror⟩
        obtain rfl := Except.ok.inj hread
        cases hresult.symm.trans herror

/-! ### The program -/

/-- The status of the program, if it ends with one. -/
def Finished.status? (o : Finished) : Option Int := o.result.toOption

/-- The program comes to run this batch file with this configuration. -/
def RunsBatch (around : Surroundings) (words : List Text) (name : Text) (c : Config) : Prop :=
  ∃ o, Options.read words = .ok o ∧ o.files = [name] ∧ around.outOfMemory = false ∧
    loadConfig around o.config = .ok c

/-- The batch file cannot be read. -/
def UnreadableBatch (around : Surroundings) (words : List Text) : Prop :=
  ∃ name c e, RunsBatch around words name c ∧ name.hasNul = false ∧
    around.files.read name = .error e

/-- The batch file is read, and comes to a line that loses a message. -/
def LosesBatch (around : Surroundings) (words : List Text) : Prop :=
  ∃ name c content e, RunsBatch around words name c ∧ name.hasNul = false ∧
    around.files.read name = .ok content ∧
    LosesLine around.world (.start c.path) (Text.decode content).lines e

namespace RunsBatch

variable {around : Surroundings} {words : List Text} {name : Text} {c : Config}

theorem unique {name' : Text} {c' : Config} (h : RunsBatch around words name c)
    (h' : RunsBatch around words name' c') : name = name' ∧ c = c' := by
  obtain ⟨o, hread, hfiles, -, hload⟩ := h
  obtain ⟨o', hread', hfiles', -, hload'⟩ := h'
  obtain rfl := Except.ok.inj (hread.symm.trans hread')
  exact ⟨(List.cons.inj (hfiles.symm.trans hfiles')).1, Except.ok.inj (hload.symm.trans hload')⟩

theorem unreadable_iff (h : RunsBatch around words name c) :
    UnreadableBatch around words ↔
      name.hasNul = false ∧ ∃ e, around.files.read name = .error e := by
  constructor
  · rintro ⟨_, _, e, hruns, hname, hread⟩
    obtain ⟨rfl, rfl⟩ := h.unique hruns
    exact ⟨hname, e, hread⟩
  · rintro ⟨hname, e, hread⟩
    exact ⟨name, c, e, h, hname, hread⟩

theorem loses_iff (h : RunsBatch around words name c) :
    LosesBatch around words ↔ name.hasNul = false ∧ ∃ content e,
      around.files.read name = .ok content ∧
        (Action.runScript content around.world (.start c.path)).result = .error (.system e) := by
  constructor
  · rintro ⟨_, _, content, e, hruns, hname, hread, hloses⟩
    obtain ⟨rfl, rfl⟩ := h.unique hruns
    exact ⟨hname, content, _, hread, Action.runLines_system_iff.mpr ⟨e, rfl, hloses⟩⟩
  · rintro ⟨hname, content, e, hread, herror⟩
    obtain ⟨n, -, hloses⟩ := Action.runLines_system_iff.mp herror
    exact ⟨name, c, content, n, h, hname, hread, hloses⟩

theorem run_eq (h : RunsBatch around words name c) (inputs : List Input) :
    ∃ settings, run around words inputs =
      conclude around settings c.path (runBatch around.files name) := by
  obtain ⟨o, hread, hfiles, hmemory, hload⟩ := h
  refine ⟨LogSettings.ofFlags o.verbose o.quiet, ?_⟩
  simp only [run, hread, runWith, hfiles, hmemory, hload]
  rfl

end RunsBatch

theorem conclude_status? (around : Surroundings) (settings : LogSettings) (path : List Text)
    (a : Action Int) :
    (conclude around settings path a).status? =
      (a around.world (.start path)).result.toOption := by
  unfold conclude Finished.status?
  dsimp only
  generalize (a around.world (.start path)).result = result
  cases result <;> rfl

theorem RunsBatch.statusReport {around : Surroundings} {words : List Text} {name : Text}
    {c : Config} (h : RunsBatch around words name c) (inputs : List Input) :
    StatusReport (UnreadableBatch around words) (LosesBatch around words)
      (run around words inputs).status? (run around words inputs).trace := by
  obtain ⟨settings, hrun⟩ := h.run_eq inputs
  rw [hrun, conclude_status?, h.unreadable_iff, h.loses_iff]
  change StatusReport _ _ _ (runBatch around.files name around.world (.start c.path)).trace
  cases hname : name.hasNul with
  | true =>
    rw [runBatch_apply, hname, if_pos rfl]
    refine .of_blameless (fun status hends => by cases hends) (not_blames ?_) (by simp) (by simp)
    exact List.forall_mem_cons.mpr ⟨fun _ => trivial, by simp⟩
  | false =>
    simp only [true_and]
    exact runBatch_statusReport around.world (.start c.path) hname

/-! ### Runs of no batch file -/

/-- The run ends with status 0, or with status 1 before any call, and blames no file. -/
structure Blameless (o : Finished) : Prop where
  status : ∀ status, o.status? = some status → status = 0 ∨ status = 1 ∧ o.trace.events = []
  unblamed : ¬ Blames o.trace

/-- A run that is rejected with another message than that of an unreadable file. -/
theorem blameless_reject (around : Surroundings) (settings : LogSettings) (path : List Text)
    {message : Text} (kind : DiagnosticKind) (hmessage : message.head? ≠ some (.char 'C')) :
    Blameless (conclude around settings path (reject message kind)) := by
  refine ⟨fun status hends => Or.inr ⟨(Option.some.inj hends).symm, rfl⟩, ?_⟩
  rintro ⟨name, e, hblame⟩
  have hrecord : unreadable name e = ⟨.commandLine, .error, message, none⟩ := by
    simpa [conclude, reject, Action.bind_apply, Action.reportKind] using hblame
  exact hmessage (congrArg (fun r => r.message.head?) hrecord).symm

theorem blameless_line (around : Surroundings) (settings : LogSettings) (path : List Text)
    (kind : DiagnosticKind) :
    Blameless (conclude around settings path do
      Action.reportKind kind
      Action.done 1) := by
  refine ⟨fun status hends => Or.inr ⟨(Option.some.inj hends).symm, rfl⟩, ?_⟩
  rintro ⟨name, e, hblame⟩
  simp [conclude, Action.bind_apply, Action.reportKind] at hblame

theorem blameless_interactive (around : Surroundings) (settings : LogSettings) (c : Config)
    (inputs : List Input) :
    Blameless (conclude around settings c.path (runInteractive c inputs)) := by
  refine ⟨fun status hends => Or.inl ?_, not_blames ?_⟩
  · rw [conclude_status?] at hends
    cases hresult : (runInteractive c inputs around.world (.start c.path)).result with
    | error f =>
      rw [hresult] at hends
      cases hends
    | ok n =>
      rw [hresult] at hends
      obtain rfl := Option.some.inj hends
      exact Action.interactive_status hresult
  · have hleaves : Action.Leaves Entry.OfShell (runInteractive c inputs) :=
      (Action.leaves_log fun _ => trivial).bind fun _ =>
        Action.interactive_leaves c.prompt c.history inputs
    exact hleaves around.world (.start c.path)

theorem blameless_run {around : Surroundings} {words : List Text}
    (hnone : ∀ name c, ¬ RunsBatch around words name c) (inputs : List Input) :
    Blameless (run around words inputs) := by
  unfold run
  split
  · next o hread =>
    unfold runWith
    dsimp only
    split
    · exact blameless_reject around _ _ _ (by simp [Text.ofString])
    · next hfiles =>
      split
      · exact blameless_line around _ _ _
      · next hmemory =>
        split
        · next c hload =>
          cases hbatch : o.files with
          | nil => exact blameless_interactive around _ c inputs
          | cons name more =>
            cases more with
            | nil => exact absurd ⟨o, hread, hbatch, by simpa using hmemory, hload⟩ (hnone name c)
            | cons name' more => exact absurd hbatch (hfiles _ _ _)
        · split
          · exact blameless_reject around _ _ _ (by simp [Text.ofString])
          · constructor
            · intro status hends
              cases hends
            · rintro ⟨name, e, hblame⟩
              cases hblame
  · refine ⟨fun status hends => Or.inl (Option.some.inj hends).symm, ?_⟩
    rintro ⟨name, e, hblame⟩
    simp at hblame
  · exact blameless_line around _ _ _

end CommandLine

open CommandLine in
/-- The program ends with status 1 after a call exactly when a line of the batch file loses a
    message, and it calls a batch file unreadable exactly then or when it cannot be read. -/
theorem run_statusReport (around : Surroundings) (words : List Text) (inputs : List Input) :
    StatusReport (UnreadableBatch around words) (LosesBatch around words)
      (run around words inputs).status? (run around words inputs).trace := by
  by_cases hbatch : ∃ name c, RunsBatch around words name c
  · obtain ⟨name, c, hruns⟩ := hbatch
    exact hruns.statusReport inputs
  · have hnone : ∀ name c, ¬ RunsBatch around words name c :=
      fun name c hruns => hbatch ⟨name, c, hruns⟩
    obtain ⟨hstatus, hunblamed⟩ := blameless_run hnone inputs
    refine .of_blameless hstatus hunblamed ?_ ?_
    · rintro ⟨name, c, -, hruns, -⟩
      exact hnone name c hruns
    · rintro ⟨name, c, -, -, hruns, -⟩
      exact hnone name c hruns

/-! ### A batch file on a full disk -/

namespace CommandLine

/-- The first command of the file `b` may not be run, and the target for its message cannot
    be written. -/
def Surroundings.fullDisk : Surroundings where
  world := .fullDisk
  files := ⟨[], [([Text.ofString "b"], .file (Text.ofString "x > f\ny\n").encode)]⟩
  homes := ⟨Text.ofString "/", fun _ => none⟩
  outOfMemory := false

/-- The program ends with status 1 after three calls, its second line is never run, and the
    file that it has read is called unreadable. -/
theorem fullDisk_blames_batch :
    let words := [Text.ofString "b"]
    let o := run .fullDisk words []
    (∀ word ∈ words, word.hasNul = false) ∧
      (Surroundings.fullDisk.files.read (Text.ofString "b")).toOption.isSome = true ∧
      o.status? = some 1 ∧
      o.trace.events = [.access (Text.ofString "/bin/x") true, .openTarget (Text.ofString "f"),
        .closeTarget (Text.ofString "f")] ∧
      Blames o.trace := by
  intro words o
  refine ⟨by decide, by decide +kernel, by decide +kernel, by decide +kernel,
    Text.ofString "b", .ofErrno .noSpace, by decide +kernel⟩

end CommandLine

end LineShell
