/-
  LineShell/Proofs/Accounting.lean
  ================================
  **The books of a line that returns.**

  The result of a line counts its commands three ways and lists a status for each
  child; the trace shows who was started and who was waited for.  These are kept by
  different parts of the shell.  `runLine_account` says that they agree for every
  line that returns: each command is counted once, each child is awaited once, in
  the order of launch and after everything else, and the statuses are those that
  the world gives to the children.
-/
import LineShell.Proofs.Phases
import Mathlib.Data.List.Forall2

namespace LineShell

/-- Waiting for a child of the program gives this status: its own, or none exactly
    when the system refuses the wait. -/
def World.WaitGives (w : World) (path : Text) (status : Option Int) : Prop :=
  ∃ program, w.program path = some program ∧
    (∀ n, status = some n ↔ program.ending = .exits n) ∧
    (status = none ↔ ∃ e, program.ending = .fails e)

/-- What the result of a line, its trace and the world say about each other. -/
structure LineAccount (w : World) (line : Text) (t : Trace) (r : LineResult) : Prop where
  commands : r.commands = line.commands
  counted : r.builtins + r.launched + r.failed = r.commands.length
  builtins : r.builtins = r.commands.countP Command.isBuiltin
  statuses : r.statuses.length = r.launched
  spawned : t.spawnedPids.length = r.launched
  waited : t.waitedPids.length = r.launched
  /-- The waits are the last calls of the line, in the order of launch. -/
  order : ∃ actions, t.events = actions ++ t.spawnedPids.map Event.wait ∧
    ∀ pid, Event.wait pid ∉ actions
  inOrder : t.waitedPids = t.spawnedPids
  once : t.waitedPids.Nodup
  /-- The statuses belong to the children, one by one. -/
  given : List.Forall₂ (fun child status => w.WaitGives child.2 status) t.spawns r.statuses

theorem Child.waitGives {w : World} {child : Child}
    (hending : (w.program child.path).map Program.ending = some child.ending)
    (hunbroken : child.breakage? = none) : w.WaitGives child.path child.status? := by
  obtain ⟨program, hprogram, hends⟩ := Option.map_eq_some_iff.mp hending
  refine ⟨program, hprogram, ?_⟩
  unfold Child.breakage? at hunbroken
  unfold Child.status?
  rw [hends]
  cases hchild : child.ending with
  | exits n => simp
  | fails e => simp
  | breaks kind text =>
    rw [hchild] at hunbroken
    cases hunbroken

/-- A line that returns a result has kept its books. -/
theorem runLine_account {line : Text} {w : World} {s : Session} {r : LineResult}
    (hreturns : (Action.runLine line w s).result = .ok r) :
    LineAccount w line (Action.runLine line w s).trace r := by
  obtain ⟨steps, fault, s', noted, t, waits, hline⟩ := exists_lineRun w s line
  rw [hline.outcome] at hreturns
  obtain ⟨rfl, hunbroken, rfl⟩ := Action.lineEnding_eq_ok_iff.mp hreturns
  obtain ⟨hlength, hbuiltins⟩ := hline.ran.counts line.commands_namesItself rfl
  have hreaped : Action.reaped steps none = Step.children steps :=
    Action.reaped_eq_children (by simp) hunbroken
  have hspawned := hline.started.spawnedPids
  have hwaited := hline.waitedPids
  rw [hreaped] at hwaited
  refine {
    commands := rfl
    counted := (Step.count_add steps).trans hlength
    builtins := hbuiltins
    statuses := by simp [Step.summarize]
    spawned := by simp [hspawned, Step.summarize]
    waited := by simp [hwaited, Step.summarize]
    order := ⟨t.events, ?_, fun pid hpid => ?_⟩
    inOrder := hwaited.trans hspawned.symm
    once := hwaited ▸ hline.started.nodup
    given := ?_ }
  · rw [hspawned, hline.outcome, Trace.events_append, Trace.events_append, hline.notedEvents,
      hline.waitEvents, hreaped, List.map_map]
    rfl
  · have hnobody := Trace.waitedPids_eq_nil hline.ran.leaves
    rw [Trace.wait_mem_events, hnobody] at hpid
    cases hpid
  · rw [hline.started.spawns]
    refine List.forall₂_map_left_iff.mpr (List.forall₂_map_right_iff.mpr ?_)
    rw [List.forall₂_same]
    intro child hchild
    exact Child.waitGives (hline.started.endings child hchild)
      (List.findSome?_eq_none_iff.mp hunbroken child hchild)

/-- The wait for `/bin/b` is refused. -/
def World.lostChild : World :=
  ofPrograms [(Text.ofString "/bin/a", ⟨.starts, .exits 3⟩),
    (Text.ofString "/bin/b", ⟨.starts, .fails .noChildren⟩)]

theorem lostChild_account :
    ∃ r, (Action.runLine (Text.ofString "a & cd & b & c & > f") World.lostChild
        (.start defaultPath)).result = .ok r ∧ r.statuses = [some 3, none] ∧
      LineAccount World.lostChild (Text.ofString "a & cd & b & c & > f")
        (Action.runLine (Text.ofString "a & cd & b & c & > f") World.lostChild
          (.start defaultPath)).trace r := by
  obtain ⟨r, hreturns, hstatuses⟩ := Action.exists_ok_of_map
    (by decide +kernel : (Action.runLine (Text.ofString "a & cd & b & c & > f") World.lostChild
      (.start defaultPath)).result.toOption.map LineResult.statuses = some [some 3, none])
  exact ⟨r, hreturns, hstatuses, runLine_account hreturns⟩

end LineShell
