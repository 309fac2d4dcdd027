/-
  LineShell/Proofs/Interruption.lean
  ==================================
  **A launch that ends the line.**

  A launch can end in a fault that nobody reports: something breaks in while the
  program is started, or the message of a refused program cannot be written.  The
  line then ends with that same fault, but not at once.

  `runLine_interrupted` gives everything that such a line leaves behind.  Its trace
  is that of the commands up to the launch, followed by one wait for each child
  that they started, and nothing of it depends on the commands after the launch.
-/
import LineShell.Proofs.Phases
import Mathlib.Control.Monad.Basic

namespace LineShell

/-- What a line leaves when a launch ends it with the fault `x`, where the commands
    before the launch left the trace `before`, and the launch itself left `during`. -/
structure Interruption (line : Text) (w : World) (s : Session) (front : List Command) (x : Fault)
    (before during : Trace) (o : Outcome LineResult) : Prop where
  /-- The line ends with the very fault of the launch. -/
  raised : o.result = .error x
  /-- After the calls of the commands and the launch come the waits, in the order in
      which the children were started, and no other call. -/
  events : o.trace.events =
    before.events ++ during.events ++ before.spawnedPids.map Event.wait
  waitsLast : ∀ pid, Event.wait pid ∉ before.events ++ during.events
  /-- The launch started nobody, and the children before it are all different. -/
  startsNobody : during.spawnedPids = []
  once : before.spawnedPids.Nodup
  /-- Each refused wait is reported, and nothing else after the commands. -/
  diagnostics : o.trace.diagnostics = line.syntaxReport ++ before.diagnostics ++
    List.replicate (before.spawns.countP fun child => w.refusesWait child.2)
      (Text.ofString DiagnosticKind.wait.message)
  path : o.session.path = searchPathAfter s.path front

/-! ### The parts -/

theorem Verdict.result_ne_exit {c : Command} {w : World} {pid : Pid} {v : Verdict} {status : Int} :
    v.result c w pid ≠ .error (.exit status) := by
  unfold result
  split
  any_goals simp
  split
  · next hlost => rcases Command.eq_of_messageFault hlost with rfl | ⟨e, rfl⟩ <;> simp
  · simp

/-- A launch that ends in a fault nobody reports leaves no children and no message. -/
theorem Action.launch_interrupted {w : World} {s s' : Session} {c : Command} {x : Fault}
    {t : Trace} (hargs : NamesItself c) (hlaunch : launch c s.path w s = ⟨.error x, s', t⟩) :
    (∀ status, x ≠ .exit status) ∧ s = s' ∧ t.spawns = [] ∧ t.diagnostics = [] := by
  obtain ⟨hresult, hsession, hspawns⟩ := launch_spec w s s.path hargs
  have hquiet := Trace.diagnostics_eq_nil (launch_leaves c s.path w s)
  rw [hlaunch] at hresult hsession hspawns hquiet
  dsimp only at hresult hsession hspawns
  rw [← hresult] at hsession hspawns
  refine ⟨?_, hsession.symm, hspawns, hquiet⟩
  rintro status rfl
  exact Verdict.result_ne_exit hresult.symm

theorem Action.runCommand_interrupted {w : World} {s s' : Session} {c : Command} {x : Fault}
    {t : Trace} (hname : Builtin.named? c.name = none)
    (hlaunch : launch c s.path w s = ⟨.error x, s', t⟩) (hx : ∀ e, x ≠ .reported e) :
    runCommand c w s = ⟨.error x, s', t⟩ := by
  have happly := runCommand_external_apply w s hname
  rw [hlaunch] at happly
  cases x with
  | reported e => exact absurd rfl (hx e)
  | _ => exact happly

/-- The run of a line stops at the first command that ends it: the commands behind it
    are not reached. -/
theorem exists_lineRun_of_halt {line : Text} {w : World} {s s₁ s₂ : Session}
    {front back : List Command} {c : Command} {steps : List Step} {x : Fault}
    {before during : Trace} (hline : line.commands = front ++ c :: back)
    (hfront : Ran w s front steps none s₁ before)
    (hhalts : Action.runCommand c w s₁ = ⟨.error x, s₂, during⟩) :
    ∃ noted waits, LineRun w s line steps (some x) s₂ noted (before ++ during) waits := by
  have hlast : Ran w s₁ (c :: back) [] (some x) (Action.runCommand c w s₁).session
      (Action.runCommand c w s₁).trace := .halt (by rw [hhalts])
  have hall := hfront.append hlast
  rw [hhalts, List.append_nil, ← hline] at hall
  exact exists_lineRun_of_ran hall

/-- A launch that ends in a fault nobody reports ends the line with that fault, after
    every child started so far has been awaited. -/
theorem runLine_interrupted {line : Text} {w : World} {s s₁ s₂ : Session} {front back : List Command}
    {c : Command} {steps : List Step} {x : Fault} {before during : Trace}
    (hwaits : w.WaitsNeverBreak) (hline : line.commands = front ++ c :: back)
    (hfront : Action.runCommands front w s = ⟨.ok (steps, none), s₁, before⟩)
    (hname : Builtin.named? c.name = none)
    (hlaunch : Action.launch c s₁.path w s₁ = ⟨.error x, s₂, during⟩)
    (hx : ∀ e, x ≠ .reported e) :
    Interruption line w s front x before during (Action.runLine line w s) := by
  have hnames : ∀ d ∈ front ++ c :: back, NamesItself d :=
    hline ▸ line.commands_namesItself
  have hnamesFront : ∀ d ∈ front, NamesItself d := fun d hd => hnames d (by simp [hd])
  have hran := Ran.of_outcome hfront
  have hhalts := Action.runCommand_interrupted hname hlaunch hx
  obtain ⟨hstays, rfl, hspawns, hquiet⟩ := Action.launch_interrupted (hnames c (by simp)) hlaunch
  obtain ⟨noted, waits, hrun⟩ := exists_lineRun_of_halt hline hran hhalts
  have hstarted := hran.started hnamesFront
  have hunbroken := hwaits.unbroken hstarted.endings
  have hreaped : Action.reaped steps (some x) = Step.children steps :=
    Action.reaped_eq_children (by simpa using hstays) hunbroken
  have hnobody := Trace.waitedPids_eq_nil hrun.ran.leaves
  refine {
    raised := ?_
    events := ?_
    waitsLast := fun pid hpid => ?_
    startsNobody := ?_
    once := ?_
    diagnostics := ?_
    path := ?_ }
  · rw [hrun.outcome, Action.lineEnding_of_fault hunbroken]
  · rw [hrun.outcome, Trace.events_append, Trace.events_append, Trace.events_append,
      hrun.notedEvents, hrun.waitEvents, hreaped, hstarted.spawnedPids, List.map_map]
    rfl
  · rw [← Trace.events_append, Trace.wait_mem_events, hnobody] at hpid
    cases hpid
  · rw [Trace.spawnedPids_eq_map_spawns, hspawns, List.map_nil]
  · rw [hstarted.spawnedPids]
    exact hstarted.nodup
  · rw [hrun.outcome, Trace.diagnostics_append, Trace.diagnostics_append,
      Trace.diagnostics_append, hrun.notedDiagnostics, hrun.waitDiagnostics, hreaped, hquiet,
      flatMap_waitReport hstarted.endings, hstarted.spawns, List.countP_map, List.append_nil,
      List.append_assoc]
    rfl
  · rw [hrun.outcome, hran.path hnamesFront rfl]

/-- Memory runs out while `/bin/k` is started, and the wait for `/bin/b` is refused. -/
def World.shortOfMemory : World :=
  ofPrograms [(Text.ofString "/bin/a", .ordinary),
    (Text.ofString "/bin/b", ⟨.starts, .fails .noChildren⟩),
    (Text.ofString "/bin/k", ⟨.breaks .memory [], .exits 0⟩)]

/-- Two children are awaited before the line ends, and `c` is never looked for. -/
theorem shortOfMemory_interrupts :
    ∃ before during, before.spawnedPids = [101, 102] ∧
      Interruption (Text.ofString "a & cd & b & k & c") World.shortOfMemory
        (.start defaultPath) (Text.ofString "a & cd & b").commands (.breakdown .memory [])
        before during
        (Action.runLine (Text.ofString "a & cd & b & k & c") World.shortOfMemory
          (.start defaultPath)) := by
  have hwaits : World.shortOfMemory.WaitsNeverBreak :=
    World.ofPrograms_waitsNeverBreak (by simp [Program.ordinary])
  have hline : (Text.ofString "a & cd & b & k & c").commands =
      (Text.ofString "a & cd & b").commands ++
        ⟨Text.ofString "k", [Text.ofString "k"], none⟩ :: (Text.ofString "c").commands := by
    decide
  obtain ⟨⟨steps, fault⟩, hfront, rfl⟩ := Action.exists_ok_of_map
    (by decide +kernel : (Action.runCommands (Text.ofString "a & cd & b").commands
      World.shortOfMemory (.start defaultPath)).result.toOption.map Prod.snd = some none)
  exact ⟨_, _, by decide +kernel, runLine_interrupted hwaits hline (Action.outcome_eq _ hfront rfl)
    (by decide) (Action.outcome_eq _ (by decide +kernel) rfl) (by simp)⟩

end LineShell
