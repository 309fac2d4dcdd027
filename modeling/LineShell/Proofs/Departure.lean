/-
  LineShell/Proofs/Departure.lean
  ===============================
  **A line that leaves the shell.**

  A command `exit` without operands leaves the shell at once, but only when its turn
  comes.  By then the whole line has been parsed, with all that there is to say about its
  segments, and the commands before the exit have had their turns; one of them may have
  ended the line in another way.  Whatever they have started is left behind: nobody waits
  for it, and no command after the exit is looked at.

  `runLine_exit_report` says when a line leaves the shell, and what it then has left:
  what parsing says, what the commands before the exit leave, and nothing else that
  anybody could notice.
-/
import LineShell.Proofs.Complaints
import LineShell.Proofs.Containment

namespace LineShell

/-! ### The way to an exit -/

/-- The commands of a line come to a bare `exit`: the commands before it, none of which is
    one, have all had their turns, and have left the session and the trace. -/
structure ReachesExit (w : World) (s : Session) (line : Text) (front : List Command) (c : Command)
    (s₁ : Session) (before : Trace) : Prop where
  position : ∃ back, line.commands = front ++ c :: back
  bare : c.IsBareExit
  first : ∀ d ∈ front, ¬ d.IsBareExit
  passed : ∃ steps, Action.runCommands front w s = ⟨.ok (steps, none), s₁, before⟩

/-- What a line leaves when it leaves the shell with the command `c`. -/
structure Departure (w : World) (line : Text) (c : Command) (s₁ : Session) (before : Trace)
    (o : Outcome LineResult) : Prop where
  code : o.result = .error (.exit 0)
  session : o.session = s₁
  /-- All that is said of malformed segments comes first, also of those after the exit.
      The turn of the exit is the last thing that happens. -/
  phases : ∃ noted, o.trace = noted ++ (before ++ (Action.runCommand c w s₁).trace) ∧
    noted.events = [] ∧ noted.diagnostics =
      List.replicate (line.segments.countP Text.isMalformed)
        (Text.ofString DiagnosticKind.redirection.message)
  /-- The exit itself says nothing and calls nobody, not even to open its target. -/
  silent : (Action.runCommand c w s₁).trace.events = [] ∧
    (Action.runCommand c w s₁).trace.diagnostics = []
  events : o.trace.events = before.events
  awaitsNobody : o.trace.waitedPids = []

/-! ### The turn of an exit -/

theorem Command.IsBareExit.runCommand {c : Command} (h : c.IsBareExit) (w : World) (s : Session) :
    (Action.runCommand c w s).result = .error (.exit 0) ∧
      (Action.runCommand c w s).session = s ∧
      (Action.runCommand c w s).trace.events = [] ∧
      (Action.runCommand c w s).trace.diagnostics = [] := by
  obtain ⟨hname, hbare⟩ := h
  obtain ⟨hresult, hsession, htrace⟩ := Action.runCommand_of_builtin w s hname
  have hpath : c.pathAfter s.path = s.path := by simp [pathAfter, hname]
  refine ⟨?_, ?_, ?_, ?_⟩
  · rw [hresult, turn, hname]
    exact if_pos ⟨rfl, hbare⟩
  · rw [hsession, hpath]
  · rw [htrace, Action.runBuiltin_events]
    rfl
  · rw [htrace, Action.runBuiltin_diagnostics, hbare]
    rfl

theorem Ran.not_isBareExit {w : World} {s s' : Session} {commands : List Command}
    {steps : List Step} {fault : Option Fault} {t : Trace}
    (h : Ran w s commands steps fault s' t) (hfault : fault = none) :
    ∀ c ∈ commands, ¬ c.IsBareExit := by
  induction h with
  | nil => simp
  | halt _ => cases hfault
  | @step s s' c rest step steps fault t hturn hrest ih =>
    intro d hd hexit
    rcases List.mem_cons.mp hd with rfl | hd
    · cases hturn.symm.trans (hexit.runCommand w s).1
    · exact ih hfault d hd hexit

/-! ### The line -/

/-- Nothing comes after the commands of a line that leaves the shell. -/
theorem runLine_of_exit {w : World} {s s' : Session} {line : Text} {steps : List Step}
    {status : Int} {t : Trace} (h : Ran w s line.commands steps (some (.exit status)) s' t) :
    Action.runLine line w s =
      ⟨.error (.exit status), s', (Action.parseReporting line w s).trace ++ t⟩ := by
  obtain ⟨hresult, hsession, -⟩ := Action.noteParsed_spec w s line.recoverLine
  have hparse : Action.parseReporting line w s =
      ⟨.ok line.commands, s, (Action.parseReporting line w s).trace⟩ :=
    Action.outcome_eq s hresult hsession
  unfold Action.runLine
  rw [Action.bind_ok hparse, Action.bind_ok h.outcome]
  simp [Action.abandonLine]

theorem exists_reachesExit {w : World} {s : Session} {line : Text} {status : Int}
    (h : (Action.runLine line w s).result = .error (.exit status)) :
    ∃ front c s₁ before, ReachesExit w s line front c s₁ before := by
  obtain ⟨steps, fault, s', noted, t, waits, hline⟩ := exists_lineRun w s line
  rw [hline.result] at h
  have hfault := Action.lineEnding_eq_exit_iff.mp h
  obtain ⟨front, c, back, s₁, before, hcommands, hfront, hresult, -, -⟩ :=
    hline.ran.exists_halt hfault
  have hargs := line.commands_namesItself c (by simp [hcommands])
  rw [Action.runCommand_result w s₁ hargs] at hresult
  have hexit : c.IsBareExit :=
    (Command.halts_exit_iff.mp (Command.turn_eq_error_iff.mp hresult)).2
  exact ⟨front, c, s₁, before, ⟨back, hcommands⟩, hexit, hfront.not_isBareExit rfl, steps,
    hfront.outcome⟩

theorem ReachesExit.departure {w : World} {s s₁ : Session} {line : Text} {front : List Command}
    {c : Command} {before : Trace} (h : ReachesExit w s line front c s₁ before) :
    Departure w line c s₁ before (Action.runLine line w s) := by
  obtain ⟨⟨back, hcommands⟩, hexit, -, steps, hpassed⟩ := h
  have hfront := Ran.of_outcome hpassed
  obtain ⟨hresult, hsession, hevents, hquiet⟩ := hexit.runCommand w s₁
  have hhalt : Ran w s₁ (c :: back) [] (some (.exit 0)) (Action.runCommand c w s₁).session
      (Action.runCommand c w s₁).trace := .halt hresult
  have hran := hfront.append hhalt
  rw [← hcommands, hsession] at hran
  have hline := runLine_of_exit hran
  have hnoted : (Action.parseReporting line w s).trace.events = [] :=
    Trace.events_eq_nil fun e he => Action.noteParsed_leaves line.recoverLine w s _ he
  have hcalls : (Action.runLine line w s).trace.events = before.events := by
    rw [hline, Trace.events_append, Trace.events_append, hnoted, hevents, List.append_nil,
      List.nil_append]
  refine {
    code := by rw [hline]
    session := by rw [hline]
    phases := ⟨(Action.parseReporting line w s).trace, by rw [hline], hnoted, ?_⟩
    silent := ⟨hevents, hquiet⟩
    events := hcalls
    awaitsNobody := ?_ }
  · rw [← Text.syntaxReport_eq_replicate]
    exact (Action.noteParsed_spec w s line.recoverLine).2.2
  · rw [Trace.waitedPids, hcalls]
    exact Trace.waitedPids_eq_nil hfront.leaves

/-- A line leaves the shell exactly when its commands come to an `exit` without operands,
    and then it leaves nothing but what those before it have left. -/
theorem runLine_exit_report (line : Text) (w : World) (s : Session) :
    ((∃ status, (Action.runLine line w s).result = .error (.exit status)) ↔
        ∃ front c s₁ before, ReachesExit w s line front c s₁ before) ∧
      ∀ front c s₁ before, ReachesExit w s line front c s₁ before →
        Departure w line c s₁ before (Action.runLine line w s) := by
  refine ⟨⟨?_, ?_⟩, fun front c s₁ before h => h.departure⟩
  · rintro ⟨status, hleaves⟩
    exact exists_reachesExit hleaves
  · rintro ⟨front, c, s₁, before, h⟩
    exact ⟨0, h.departure.code⟩

/-- The exit has a target, and malformed segments and another exit stand behind it. -/
theorem redirectedExit_departs :
    let w := World.ofPrograms [(Text.ofString "/opt/a", .ordinary)]
    let line := Text.ofString "path /opt & a & > x & exit > f & a & exit & b >"
    ∃ front c before, c.target = some (Text.ofString "f") ∧
      before.spawnedPids = [101] ∧ line.segments.countP Text.isMalformed = 2 ∧
      ReachesExit w (.start defaultPath) line front c ⟨[Text.ofString "/opt"], 1⟩ before ∧
      Departure w line c ⟨[Text.ofString "/opt"], 1⟩ before
        (Action.runLine line w (.start defaultPath)) := by
  intro w line
  have hreaches : ReachesExit w (.start defaultPath) line
      (Text.ofString "path /opt & a").commands
      ⟨Text.ofString "exit", [Text.ofString "exit"], some (Text.ofString "f")⟩
      ⟨[Text.ofString "/opt"], 1⟩
      (Action.runCommands (Text.ofString "path /opt & a").commands w (.start defaultPath)).trace := by
    obtain ⟨⟨steps, fault⟩, hfront, rfl⟩ := Action.exists_ok_of_map
      (by decide +kernel : (Action.runCommands (Text.ofString "path /opt & a").commands w
        (.start defaultPath)).result.toOption.map Prod.snd = some none)
    have hsession : (Action.runCommands (Text.ofString "path /opt & a").commands w
        (.start defaultPath)).session = ⟨[Text.ofString "/opt"], 1⟩ := by decide +kernel
    have hran := Action.outcome_eq _ hfront hsession
    refine ⟨⟨(Text.ofString "a & exit").commands, by decide⟩, ⟨by decide, rfl⟩, ?_, steps, hran⟩
    exact (Ran.of_outcome hran).not_isBareExit rfl
  exact ⟨_, _, _, rfl, by decide +kernel, by decide, hreaches,
    (runLine_exit_report line w _).2 _ _ _ _ hreaches⟩

end LineShell
