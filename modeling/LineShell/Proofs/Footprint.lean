/-
  LineShell/Proofs/Footprint.lean
  ===============================
  **What each part of the shell can leave behind.**

  The entries of a trace are sorted by the part of a line that can leave them:
  searching for a program, launching it, running a built-in, reporting, waiting.
  One line for each action says which kind it keeps to (`launch_leaves`,
  `runBuiltin_leaves`, `runCommands_leaves`, `waitAll_leaves`, `runLine_leaves`).

  From the kind alone follow the frame facts that the laws of a line rest on: the
  commands of a line wait for nobody, waiting starts nobody, a launch says nothing
  to the user, and no line touches the prompt.
-/
import LineShell.Line
import LineShell.Proofs.Sequence

namespace LineShell

/-! ### Kinds of entries -/

/-- Is the level one of detail, below a warning? -/
def LogLevel.IsDetail : LogLevel → Prop
  | .debug | .info => True
  | .warning | .error => False

/-- Is the record one of detail, and not from the loop around the lines? -/
def LogRecord.OfLine (r : LogRecord) : Prop :=
  match r.source with
  | .loop => False
  | _ => r.level.IsDetail

theorem LogRecord.OfLine.isDetail {r : LogRecord} (h : r.OfLine) : r.level.IsDetail := by
  unfold OfLine at h
  split at h
  · cases h
  · exact h

theorem LogRecord.OfLine.source_ne {r : LogRecord} (h : r.OfLine) : r.source ≠ .loop := by
  intro hsource
  unfold OfLine at h
  rw [hsource] at h
  exact h

namespace Entry

/-- What is said about a run: diagnostics, and log records of detail. -/
def OfReport : Entry → Prop
  | .diagnostic _ => True
  | .log r => r.OfLine
  | _ => False

def OfSearch : Entry → Prop
  | .log r => r.OfLine
  | .event (.access _ _) => True
  | _ => False

/-- What launching a program leaves: its calls and log records, no diagnostic. -/
def OfLaunch : Entry → Prop
  | .event (.openTarget _) | .event (.writeTarget _ _) | .event (.flushTarget _)
  | .event (.closeTarget _) | .event (.spawn _ _ _ _ _) => True
  | e => e.OfSearch

def OfBuiltin : Entry → Prop
  | .event (.chdir _) => True
  | e => e.OfReport

def OfCommand (e : Entry) : Prop := e.OfLaunch ∨ e.OfBuiltin

def OfWait : Entry → Prop
  | .event (.wait _) => True
  | e => e.OfReport

def OfLine (e : Entry) : Prop := e.OfCommand ∨ e.OfWait

theorem OfSearch.ofLaunch {e : Entry} (h : e.OfSearch) : e.OfLaunch := by
  unfold OfLaunch
  split <;> trivial

theorem OfReport.ofBuiltin {e : Entry} (h : e.OfReport) : e.OfBuiltin := by
  unfold OfBuiltin
  split
  · trivial
  · exact h

theorem OfReport.ofWait {e : Entry} (h : e.OfReport) : e.OfWait := by
  unfold OfWait
  split
  · trivial
  · exact h

theorem OfLine.record {r : LogRecord} (h : OfLine (.log r)) : r.OfLine := by
  rcases h with (h | h) | h <;> exact h

/-- Is the entry a read of the next input? -/
def isPrompt : Entry → Bool
  | .prompt _ => true
  | _ => false

theorem OfLine.isPrompt_eq_false {e : Entry} (h : e.OfLine) : e.isPrompt = false := by
  cases e with
  | prompt text => simp [OfLine, OfCommand, OfLaunch, OfSearch, OfBuiltin, OfWait, OfReport] at h
  | _ => rfl

end Entry

/-! ### Views of a trace of one kind -/

namespace Trace

/-- The children that were started, in order: process number and program. -/
def spawns (t : Trace) : List (Pid × Text) :=
  t.events.filterMap fun
    | .spawn pid path _ _ _ => some (pid, path)
    | _ => none

@[simp] theorem spawns_append (s t : Trace) : spawns (s ++ t) = spawns s ++ spawns t := by
  simp [spawns]

@[simp] theorem waitedPids_append (s t : Trace) :
    waitedPids (s ++ t) = waitedPids s ++ waitedPids t := by
  simp [waitedPids]

@[simp] theorem diagnostics_cons_log (r : LogRecord) (t : Trace) :
    diagnostics (.log r :: t) = diagnostics t := rfl

@[simp] theorem diagnostics_cons_diagnostic (line : Text) (t : Trace) :
    diagnostics (.diagnostic line :: t) = line :: diagnostics t := rfl

theorem spawnedPids_eq_map_spawns (t : Trace) : t.spawnedPids = t.spawns.map Prod.fst := by
  unfold spawnedPids spawns
  rw [List.map_filterMap]
  congr 1
  funext e
  cases e <;> rfl

@[simp] theorem spawnedPids_append (s t : Trace) :
    spawnedPids (s ++ t) = spawnedPids s ++ spawnedPids t := by
  simp [spawnedPids]

theorem mem_events {t : Trace} {e : Event} : e ∈ t.events ↔ .event e ∈ t := by
  unfold events
  rw [List.mem_filterMap]
  constructor
  · rintro ⟨entry, hentry, heq⟩
    cases entry with
    | event e' => exact (Option.some.inj heq) ▸ hentry
    | _ => cases heq
  · intro h
    exact ⟨.event e, h, rfl⟩

theorem filterMap_events_eq_nil {α : Type} {t : Trace} {view : Event → Option α}
    (h : ∀ e, .event e ∈ t → view e = none) : t.events.filterMap view = [] := by
  rw [List.filterMap_eq_nil_iff]
  exact fun e he => h e (mem_events.mp he)

theorem wait_mem_events {t : Trace} {pid : Pid} : .wait pid ∈ t.events ↔ pid ∈ t.waitedPids := by
  unfold waitedPids
  rw [List.mem_filterMap]
  constructor
  · intro h
    exact ⟨_, h, rfl⟩
  · rintro ⟨e, he, hpid⟩
    cases e with
    | wait pid' =>
      obtain rfl : pid' = pid := Option.some.inj hpid
      exact he
    | _ => cases hpid

theorem waitedPids_eq_nil {t : Trace} (h : ∀ e ∈ t, e.OfCommand) : t.waitedPids = [] := by
  refine filterMap_events_eq_nil fun e he => ?_
  cases e with
  | wait pid => simpa [Entry.OfCommand, Entry.OfLaunch, Entry.OfSearch, Entry.OfBuiltin,
      Entry.OfReport] using h _ he
  | _ => rfl

theorem spawns_eq_nil {t : Trace} (h : ∀ e ∈ t, e.OfSearch ∨ e.OfBuiltin ∨ e.OfWait) :
    t.spawns = [] := by
  refine filterMap_events_eq_nil fun e he => ?_
  cases e with
  | spawn pid path argv out err =>
    simpa [Entry.OfSearch, Entry.OfBuiltin, Entry.OfWait, Entry.OfReport] using h _ he
  | _ => rfl

theorem events_eq_nil {t : Trace} (h : ∀ e, .event e ∉ t) : t.events = [] :=
  List.eq_nil_iff_forall_not_mem.mpr fun e he => h e (mem_events.mp he)

theorem events_eq_map_wait {t : Trace} (h : ∀ e ∈ t, e.OfWait) :
    t.events = t.waitedPids.map Event.wait := by
  induction t with
  | nil => rfl
  | cons entry rest ih =>
    obtain ⟨hentry, hrest⟩ := List.forall_mem_cons.mp h
    have hevents := ih hrest
    cases entry with
    | event e =>
      cases e with
      | wait pid => simpa [events, waitedPids] using hevents
      | _ => exact absurd hentry (by simp [Entry.OfWait, Entry.OfReport])
    | _ => simpa [events, waitedPids] using hevents

theorem diagnostics_eq_nil {t : Trace} (h : ∀ e ∈ t, e.OfLaunch) : t.diagnostics = [] := by
  unfold diagnostics
  rw [List.filterMap_eq_nil_iff]
  intro e he
  cases e with
  | diagnostic line => exact absurd (h _ he) (by simp [Entry.OfLaunch, Entry.OfSearch])
  | _ => rfl

end Trace

/-! ### The kind that each action keeps to -/

namespace Action

open Entry

variable {α : Type}

theorem refuseNul_leaves {P : Entry → Prop} (t : Text) : Leaves P (refuseNul t) := by
  unfold refuseNul
  split
  · exact leaves_fail _
  · exact leaves_done _

theorem refuseUnspellable_leaves {P : Entry → Prop} (t : Text) :
    Leaves P (refuseUnspellable t) := by
  unfold refuseUnspellable
  split
  · exact leaves_fail _
  · exact leaves_done _

theorem report_leaves (e : ShellError) : Leaves OfReport (report e) := by
  unfold report
  split
  · exact leaves_log trivial
  · have line : Leaves OfReport (leave [.diagnostic e.failure.render]) :=
      leaves_leave (by simp [OfReport])
    dsimp only
    split
    · exact (leaves_log trivial).bind fun _ => line
    · exact line

/-! #### Searching and launching -/

theorem access_leaves (path : Text) : Leaves OfSearch (access path) :=
  (refuseNul_leaves path).bind fun _ => leaves_world.bind fun _ =>
    (leaves_emit trivial).bind fun _ => leaves_done _

theorem searchDirectories_leaves (name : Text) (directories : List Text) :
    Leaves OfSearch (searchDirectories name directories) := by
  induction directories with
  | nil => exact (leaves_log trivial).bind fun _ => leaves_done _
  | cons d rest ih =>
    unfold searchDirectories
    dsimp only
    split
    · exact ih
    · refine (access_leaves _).bind fun executable => ?_
      split
      · exact (leaves_log trivial).bind fun _ => leaves_done _
      · exact ih

theorem resolve_leaves (name : Text) (directories : List Text) :
    Leaves OfSearch (resolve name directories) := by
  unfold resolve
  split
  · exact leaves_done _
  · exact searchDirectories_leaves name directories

theorem openTarget_leaves (target : Text) : Leaves OfLaunch (openTarget target) := by
  refine (refuseNul_leaves target).bind fun _ => leaves_world.bind fun w => ?_
  split
  · exact leaves_fail _
  · exact leaves_emit trivial

theorem writeTarget_leaves (target content : Text) :
    Leaves OfLaunch (writeTarget target content) := by
  refine leaves_world.bind fun w => ?_
  split
  · exact leaves_fail _
  · exact leaves_emit trivial

theorem startProcess_leaves (path : Text) (argv : List Text) (target : Option Text) :
    Leaves OfLaunch (startProcess path argv target) := by
  unfold startProcess
  split
  · exact leaves_fail _
  · refine leaves_world.bind fun w => ?_
    split
    · exact leaves_fail _
    · split
      · exact leaves_fail _
      · exact leaves_fail _
      · exact leaves_session.bind fun _ => (leaves_modify _).bind fun _ =>
          (leaves_emit trivial).bind fun _ => leaves_done _

theorem nameOf_leaves {P : Entry → Prop} (argv : List Text) : Leaves P (nameOf argv) := by
  cases argv with
  | nil => exact leaves_fail _
  | cons name rest => exact leaves_done _

theorem refuse_leaves (name reason : Text) (target : Option Text) :
    Leaves OfLaunch (refuse name reason target : Action α) := by
  cases target with
  | none => exact leaves_fail _
  | some t =>
    exact (refuseUnspellable_leaves _).bind fun _ => (writeTarget_leaves t _).bind fun _ =>
      (leaves_emit trivial).bind fun _ => leaves_fail _

theorem openRedirection_leaves (target : Option Text) :
    Leaves OfLaunch (openRedirection target) := by
  cases target with
  | none => exact leaves_done _
  | some t =>
    refine (openTarget_leaves t).attempt.bind fun result => ?_
    split
    · exact leaves_done _
    · exact leaves_fail _

theorem closeRedirection_leaves (target : Option Text) :
    Leaves OfLaunch (closeRedirection target) := by
  cases target with
  | none => exact leaves_done _
  | some t => exact leaves_emit trivial

theorem startOrRefuse_leaves (path : Text) (argv : List Text) (target : Option Text) :
    Leaves OfLaunch (startOrRefuse path argv target) := by
  refine (startProcess_leaves path argv target).attempt.bind fun result => ?_
  split
  · exact leaves_done _
  · exact (nameOf_leaves argv).bind fun name => refuse_leaves name _ target
  · refine (nameOf_leaves argv).bind fun name => ?_
    split
    · exact refuse_leaves name _ target
    · exact leaves_fail _
  · exact leaves_fail _

theorem spawn_leaves (path : Text) (argv : List Text) (target : Option Text) :
    Leaves OfLaunch (spawn path argv target) :=
  (openRedirection_leaves target).bind fun _ =>
    ((startOrRefuse_leaves path argv target).ensuring (closeRedirection_leaves target)).bind
      fun _ => (nameOf_leaves argv).bind fun _ =>
        (leaves_log trivial).bind fun _ => leaves_done _

theorem launch_leaves (c : Command) (directories : List Text) :
    Leaves OfLaunch (launch c directories) := by
  refine ((resolve_leaves c.name directories).mono fun _ => OfSearch.ofLaunch).bind fun path => ?_
  split
  · exact leaves_fail _
  · exact spawn_leaves _ c.args c.target

/-! #### Built-ins -/

theorem chdir_leaves (directory : Text) : Leaves OfBuiltin (chdir directory) := by
  refine (refuseNul_leaves directory).bind fun _ => leaves_world.bind fun w => ?_
  split
  · exact leaves_fail _
  · exact leaves_emit trivial

theorem exitShell_leaves (operands : List Text) : Leaves OfBuiltin (exitShell operands) := by
  unfold exitShell
  split
  · exact (leaves_log trivial).bind fun _ => leaves_fail _
  · exact leaves_fail _

theorem changeDirectory_leaves (operands : List Text) :
    Leaves OfBuiltin (changeDirectory operands) := by
  unfold changeDirectory
  split
  · refine (chdir_leaves _).attempt.bind fun result => ?_
    split
    · exact leaves_log trivial
    · exact leaves_fail _
  · exact leaves_fail _

theorem executeBuiltin_leaves (b : Builtin) (operands : List Text) :
    Leaves OfBuiltin (executeBuiltin b operands) := by
  cases b with
  | exit => exact exitShell_leaves operands
  | cd => exact changeDirectory_leaves operands
  | path => exact (leaves_modify _).bind fun _ => leaves_log trivial

theorem runBuiltin_leaves (b : Builtin) (c : Command) : Leaves OfBuiltin (runBuiltin b c) := by
  refine (leaves_log trivial).bind fun _ =>
    (executeBuiltin_leaves b c.operands).attempt.bind fun result => ?_
  split
  · exact leaves_done _
  · exact (report_leaves _).mono fun _ => OfReport.ofBuiltin
  · exact leaves_fail _

theorem handleBuiltin_leaves (c : Command) : Leaves OfBuiltin (handleBuiltin c) := by
  unfold handleBuiltin
  split
  · exact leaves_done _
  · exact (runBuiltin_leaves _ c).bind fun _ => leaves_done _

/-! #### The commands of a line -/

theorem launchHere_leaves (c : Command) : Leaves OfLaunch (launchHere c) :=
  leaves_session.bind fun s => launch_leaves c s.path

theorem runCommand_leaves (c : Command) : Leaves OfCommand (runCommand c) := by
  refine ((handleBuiltin_leaves c).mono fun _ => Or.inr).bind fun handled => ?_
  split
  · exact leaves_done _
  · refine ((launchHere_leaves c).mono fun _ => Or.inl).attempt.bind fun result => ?_
    split
    · exact leaves_done _
    · exact ((report_leaves _).mono fun _ h => Or.inr h.ofBuiltin).bind fun _ => leaves_done _
    · exact leaves_fail _

theorem runCommands_leaves (commands : List Command) : Leaves OfCommand (runCommands commands) := by
  induction commands with
  | nil => exact leaves_done _
  | cons c rest ih =>
    refine (runCommand_leaves c).attempt.bind fun result => ?_
    split
    · exact leaves_done _
    · exact ih.bind fun _ => leaves_done _

/-! #### Parsing and waiting -/

theorem noteParsed_leaves (parsed : List (Except SyntaxFault Command)) :
    Leaves OfReport (noteParsed parsed) := by
  induction parsed with
  | nil => exact leaves_done _
  | cons head rest ih =>
    cases head with
    | ok c => exact (leaves_log trivial).bind fun _ => ih.bind fun _ => leaves_done _
    | error f => exact (report_leaves _).bind fun _ => ih

theorem waitProcess_leaves (pid : Pid) (ending : WaitOutcome) :
    Leaves OfWait (waitProcess pid ending) := by
  refine (leaves_emit trivial).bind fun _ => ?_
  split
  · exact leaves_done _
  · exact leaves_fail _
  · exact leaves_fail _

theorem reap_leaves (child : Child) : Leaves OfWait (reap child) := by
  have hwait : Leaves OfWait (wait child) := by
    refine (waitProcess_leaves _ _).attempt.bind fun result => ?_
    split
    · exact (leaves_log trivial).bind fun _ => leaves_done _
    · exact leaves_fail _
    · exact leaves_fail _
  refine hwait.attempt.bind fun result => ?_
  split
  · exact leaves_done _
  · exact ((report_leaves _).mono fun _ => OfReport.ofWait).bind fun _ => leaves_done _
  · exact leaves_fail _

theorem waitAll_leaves (children : List Child) : Leaves OfWait (waitAll children) := by
  induction children with
  | nil => exact leaves_done _
  | cons child rest ih => exact (reap_leaves child).bind fun _ => ih.bind fun _ => leaves_done _

theorem concludeLine_leaves (commands : List Command) (steps : List Step) :
    Leaves OfWait (concludeLine commands steps) := by
  refine (waitAll_leaves _).bind fun statuses => ?_
  dsimp only
  split
  · exact (leaves_log trivial).bind fun _ => leaves_done _
  · exact leaves_done _

theorem abandonLine_leaves (steps : List Step) (f : Fault) :
    Leaves OfWait (abandonLine steps f) := by
  unfold abandonLine
  split
  · exact leaves_fail _
  · exact (waitAll_leaves _).bind fun _ => leaves_fail _

theorem runLine_leaves (line : Text) : Leaves OfLine (runLine line) := by
  refine ((noteParsed_leaves _).mono fun _ h => Or.inr h.ofWait).bind fun commands =>
    ((runCommands_leaves commands).mono fun _ => Or.inl).bind fun ran => ?_
  obtain ⟨steps, fault⟩ := ran
  dsimp only
  split
  · exact (concludeLine_leaves commands steps).mono fun _ => Or.inr
  · exact (abandonLine_leaves steps _).mono fun _ => Or.inr

end Action

end LineShell
