/-
  LineShell/Proofs/Verdict.lean
  =============================
  **What the world makes of an external command.**

  `Command.verdict` reads off the world alone what launching a command comes to:
  its program is not found, its target cannot be opened, or the system answers the
  request to start the program.  It asks no question and leaves no trace.

  `launch_spec` says that the action comes to exactly that: it ends as the verdict
  says (`Verdict.result`), it starts the child that it returns and no other, and it
  changes nothing else in the session.
-/
import LineShell.Proofs.Footprint
import LineShell.Proofs.Search

namespace LineShell

/-! ### The verdict -/

/-- Why a target cannot be opened, if it cannot. -/
def World.openFault (w : World) (target : Text) : Option Fault :=
  if target.hasNul then some .nulCharacter
  else (w.target target).openErrno.map fun e => .system (.about e target)

/-- Why a text cannot be written to a target, if it cannot: no bytes spell it, or the
    target does not take them. -/
def World.writeFault (w : World) (content target : Text) : Option Fault :=
  if content.hasHalf then some (.unspellable content)
  else (w.target target).writeErrno.map fun e => .system (.ofErrno e)

theorem World.eq_of_writeFault {w : World} {content target : Text} {f : Fault}
    (h : w.writeFault content target = some f) :
    f = .unspellable content ∨ ∃ e, f = .system (.ofErrno e) := by
  unfold writeFault at h
  split at h
  · exact Or.inl (Option.some.inj h).symm
  · obtain ⟨e, -, rfl⟩ := Option.map_eq_some_iff.mp h
    exact Or.inr ⟨e, rfl⟩

/-- The system's answer to a request to start a program. -/
inductive StartAnswer where
  | started (ending : WaitOutcome)
  /-- The file itself was refused, for this reason. -/
  | refused (reason : Text)
  | unforked (e : SystemError)
  | broken (kind : Breakdown) (text : Text)
deriving DecidableEq, Repr

def World.startAnswer (w : World) (path : Text) (argv : List Text) : StartAnswer :=
  if path.hasNul || argv.any Text.hasNul then .refused Fault.nulCharacter.message
  else
    match w.program path with
    | none => .refused (SystemError.ofErrno .noSuchFile).reasonOrStandard
    | some program =>
      match program.start with
      | .starts => .started program.ending
      | .breaks kind text => .broken kind text
      | .fails e reason =>
        if e.refusesFile then .refused (SystemError.reasonOrStandard ⟨e, reason, none⟩)
        else .unforked ⟨e, reason, none⟩

/-- The reason for a refusal is one of the shell's own or standard texts, or what the
    system said. -/
theorem World.reason_of_refused {w : World} {path : Text} {argv : List Text} {reason : Text}
    (h : w.startAnswer path argv = .refused reason) :
    (∃ r, reason = Text.ofString r) ∨ ∃ program e, w.program path = some program ∧
      program.start = .fails e (some reason) := by
  unfold startAnswer at h
  split at h
  · exact Or.inl ⟨_, (StartAnswer.refused.inj h).symm⟩
  · split at h
    · exact Or.inl ⟨Errno.noSuchFile.text, (StartAnswer.refused.inj h).symm⟩
    · next program hprogram =>
      split at h
      · cases h
      · cases h
      · next e given hstart =>
        split at h
        · obtain rfl := StartAnswer.refused.inj h
          rcases given with _ | _ | ⟨x, rest⟩
          · exact Or.inl ⟨e.text, rfl⟩
          · exact Or.inl ⟨e.text, rfl⟩
          · exact Or.inr ⟨program, e, hprogram, hstart⟩
        · cases h

/-- What launching an external command comes to. -/
inductive Verdict where
  | notFound
  | targetRefused (fault : Fault)
  | answered (path : Text) (answer : StartAnswer)
deriving DecidableEq, Repr

/-- The program that a name stands for; the empty name stands for none. -/
def World.resolved (w : World) (name : Text) (directories : List Text) : Option Text :=
  if name.isEmpty then none else firstExecutable w name directories

theorem World.resolved_of_ne_nil {w : World} {name : Text} (h : name ≠ []) (directories : List Text) :
    w.resolved name directories = firstExecutable w name directories :=
  if_neg (by simpa using h)

/-- The verdict of the world on an external command. -/
def Command.verdict (c : Command) (w : World) (directories : List Text) : Verdict :=
  match w.resolved c.name directories with
  | none => .notFound
  | some path =>
    match c.target.bind w.openFault with
    | some fault => .targetRefused fault
    | none => .answered path (w.startAnswer path c.args)

/-- The message of a refused program, on a line of its own. -/
def Command.refusal (c : Command) (reason : Text) : Text :=
  (Failure.exec c.name reason).render ++ Text.ofString "\n"

/-- The message can be written exactly where the name and the reason can. -/
theorem Command.hasHalf_refusal (c : Command) (reason : Text) :
    (c.refusal reason).hasHalf = (c.name.hasHalf || reason.hasHalf) := by
  simp [refusal, Failure.render]

/-- Why the message of a refused program does not reach the target of its command, if it
    was to and does not. -/
def Command.messageFault (c : Command) (w : World) (reason : Text) : Option Fault :=
  c.target.bind (w.writeFault (c.refusal reason))

/-- A fault of the kinds by which a message can be lost. -/
inductive Fault.IsOfMessage : Fault → Prop
  | unspellable (text : Text) : IsOfMessage (.unspellable text)
  | system (e : SystemError) : IsOfMessage (.system e)

/-- A message is lost because no bytes spell it, or by an error of its target. -/
theorem Command.eq_of_messageFault {c : Command} {w : World} {reason : Text} {f : Fault}
    (h : c.messageFault w reason = some f) :
    f = .unspellable (c.refusal reason) ∨ ∃ e, f = .system (.ofErrno e) := by
  obtain ⟨t, -, hfault⟩ := Option.bind_eq_some_iff.mp h
  exact World.eq_of_writeFault hfault

/-- How a launch with this verdict ends, where `pid` is the number of the next
    child.  A refused program is a failure of its command, unless its message was to
    be written to its target and cannot be. -/
def Verdict.result (c : Command) (w : World) (pid : Pid) : Verdict → Except Fault Child
  | .notFound => .error (.reported (Failure.commandNotFound c.name).toError)
  | .targetRefused f =>
    .error (.reported (Failure.redirectionFile
      (c.target.getD [] ++ Text.ofString ": " ++ f.message)).toError)
  | .answered path (.started ending) => .ok ⟨c.name, path, pid, ending⟩
  | .answered _ (.refused reason) =>
    match c.messageFault w reason with
    | some f => .error f
    | none => .error (.reported ⟨.exec c.name reason, c.target.isSome⟩)
  | .answered _ (.unforked e) =>
    .error (.reported (Failure.fork (c.name ++ Text.ofString ": " ++ e.message)).toError)
  | .answered _ (.broken kind text) => .error (.breakdown kind text)

theorem Command.verdict_eq_answered_iff {c : Command} {w : World} {directories : List Text}
    {path : Text} {answer : StartAnswer} :
    c.verdict w directories = .answered path answer ↔
      w.resolved c.name directories = some path ∧ c.target.bind w.openFault = none ∧
        w.startAnswer path c.args = answer := by
  unfold Command.verdict
  cases w.resolved c.name directories with
  | none => simp
  | some found =>
    cases c.target.bind w.openFault with
    | some f => simp
    | none =>
      simp only [Verdict.answered.injEq, Option.some.injEq, true_and]
      constructor
      · rintro ⟨rfl, h⟩
        exact ⟨rfl, h⟩
      · rintro ⟨rfl, h⟩
        exact ⟨rfl, h⟩

theorem Verdict.eq_started_of_ok {c : Command} {w : World} {pid : Pid} {v : Verdict}
    {child : Child} (h : v.result c w pid = .ok child) :
    v = .answered child.path (.started child.ending) ∧ child.pid = pid := by
  unfold Verdict.result at h
  split at h
  · cases h
  · cases h
  · obtain rfl := Except.ok.inj h
    exact ⟨rfl, rfl⟩
  · split at h <;> cases h
  · cases h
  · cases h

theorem World.ending_of_started {w : World} {path : Text} {argv : List Text}
    {ending : WaitOutcome} (h : w.startAnswer path argv = .started ending) :
    (w.program path).map Program.ending = some ending := by
  unfold World.startAnswer at h
  split at h
  · cases h
  · split at h
    · cases h
    · next program hprogram =>
      split at h
      · rw [hprogram]
        simpa using h
      · cases h
      · split at h <;> cases h

theorem Command.child_of_verdict {c : Command} {w : World} {directories : List Text} {pid : Pid}
    {child : Child} (h : (c.verdict w directories).result c w pid = .ok child) :
    child.pid = pid ∧ (w.program child.path).map Program.ending = some child.ending := by
  obtain ⟨hverdict, hpid⟩ := Verdict.eq_started_of_ok h
  obtain ⟨_, _, hstart⟩ := verdict_eq_answered_iff.mp hverdict
  exact ⟨hpid, World.ending_of_started hstart⟩

namespace Action

/-! ### The parts of a launch -/

section Parts

variable (w : World) (s : Session)

theorem access_apply {path : Text} (h : path.hasNul = false) :
    access path w s =
      ⟨.ok (w.executable path), s, [.event (.access path (w.executable path))]⟩ := by
  simp [access, refuseNul, h, bind_apply]

theorem searchDirectories_spec (name : Text) (directories : List Text) :
    (searchDirectories name directories w s).result = .ok (firstExecutable w name directories) ∧
      (searchDirectories name directories w s).session = s := by
  induction directories with
  | nil => exact ⟨rfl, rfl⟩
  | cons d rest ih =>
    unfold searchDirectories
    dsimp only
    by_cases hnul : (candidate d name).hasNul = true
    · rw [if_pos hnul, firstExecutable_of_nul hnul]
      exact ih
    · have hnul' : (candidate d name).hasNul = false := by simpa using hnul
      rw [if_neg hnul, bind_ok (access_apply w s hnul')]
      by_cases hexec : w.executable (candidate d name) = true
      · simp [hexec, bind_apply, firstExecutable, hnul']
      · rw [if_neg hexec, firstExecutable_of_refused (by simpa using hexec)]
        exact ih

theorem resolve_spec (name : Text) (directories : List Text) :
    (resolve name directories w s).result = .ok (w.resolved name directories) ∧
      (resolve name directories w s).session = s := by
  unfold resolve World.resolved
  split
  · exact ⟨rfl, rfl⟩
  · exact searchDirectories_spec w s name directories

theorem openRedirection_apply (target : Option Text) :
    openRedirection target w s =
      match target.bind w.openFault with
      | none => ⟨.ok (), s, target.toList.map fun t => .event (.openTarget t)⟩
      | some f =>
        ⟨.error (.reported (Failure.redirectionFile
          (target.getD [] ++ Text.ofString ": " ++ f.message)).toError), s, []⟩ := by
  cases target with
  | none => rfl
  | some t =>
    by_cases hnul : t.hasNul = true
    · simp [openRedirection, openTarget, refuseNul, bind_apply, World.openFault, hnul]
    · cases hopen : (w.target t).openErrno <;>
        simp [openRedirection, openTarget, refuseNul, bind_apply, World.openFault,
          hnul, hopen]

theorem closeRedirection_apply (target : Option Text) :
    closeRedirection target w s =
      ⟨.ok (), s, target.toList.map fun t => .event (.closeTarget t)⟩ := by
  cases target <;> rfl

theorem refuse_apply {α : Type} (name reason : Text) (target : Option Text) :
    (refuse name reason target : Action α) w s =
      match target.bind (w.writeFault ((Failure.exec name reason).render ++ Text.ofString "\n")) with
      | some f => ⟨.error f, s, []⟩
      | none =>
        ⟨.error (.reported ⟨.exec name reason, target.isSome⟩), s, target.toList.flatMap fun t =>
          [.event (.writeTarget t ((Failure.exec name reason).render ++ Text.ofString "\n")),
            .event (.flushTarget t)]⟩ := by
  cases target with
  | none => rfl
  | some t =>
    unfold refuse
    dsimp only
    generalize (Failure.exec name reason).render ++ Text.ofString "\n" = message
    cases hhalf : message.hasHalf with
    | true => simp [World.writeFault, refuseUnspellable, bind_apply, hhalf]
    | false =>
      cases hwrite : (w.target t).writeErrno <;>
        simp [World.writeFault, refuseUnspellable, writeTarget, flushTarget, bind_apply, hhalf,
          hwrite]

theorem startProcess_apply (path : Text) (argv : List Text) (target : Option Text) :
    startProcess path argv target w s =
      if path.hasNul || argv.any Text.hasNul then ⟨.error .nulCharacter, s, []⟩
      else
        match w.program path with
        | none => ⟨.error (.system (.ofErrno .noSuchFile)), s, []⟩
        | some program =>
          match program.start with
          | .fails e reason => ⟨.error (.system ⟨e, reason, none⟩), s, []⟩
          | .breaks kind text => ⟨.error (.breakdown kind text), s, []⟩
          | .starts =>
            ⟨.ok (s.nextPid, program.ending), { s with spawned := s.spawned + 1 },
              [.event (.spawn s.nextPid path argv target target)]⟩ := by
  unfold startProcess
  split
  · rfl
  · rw [bind_ok (world_apply w s)]
    cases w.program path with
    | none => rfl
    | some program =>
      dsimp only
      cases program.start <;> rfl

theorem startOrRefuse_apply (path name : Text) (rest : List Text) (target : Option Text) :
    startOrRefuse path (name :: rest) target w s =
      match w.startAnswer path (name :: rest) with
      | .started ending =>
        ⟨.ok (s.nextPid, ending), { s with spawned := s.spawned + 1 },
          [.event (.spawn s.nextPid path (name :: rest) target target)]⟩
      | .refused reason => refuse name reason target w s
      | .unforked e =>
        ⟨.error (.reported (Failure.fork (name ++ Text.ofString ": " ++ e.message)).toError), s, []⟩
      | .broken kind text => ⟨.error (.breakdown kind text), s, []⟩ := by
  unfold startOrRefuse World.startAnswer
  rw [attempt_bind, startProcess_apply]
  by_cases hnul : (path.hasNul || (name :: rest).any Text.hasNul) = true
  · simp only [if_pos hnul]
    rfl
  · simp only [if_neg hnul]
    cases w.program path with
    | none => rfl
    | some program =>
      dsimp only
      cases program.start with
      | starts => rfl
      | breaks kind text => rfl
      | fails e reason =>
        cases hrefused : e.refusesFile with
        | true => simp [nameOf, bind_apply, hrefused]
        | false => simp [nameOf, bind_apply, hrefused]

/-- Without its target a program is not started. -/
theorem spawn_unopened (path : Text) (argv : List Text) {target : Option Text} {f : Fault}
    (hopen : target.bind w.openFault = some f) :
    spawn path argv target w s =
      ⟨.error (.reported (Failure.redirectionFile
        (target.getD [] ++ Text.ofString ": " ++ f.message)).toError), s, []⟩ := by
  have hopened := openRedirection_apply w s target
  rw [hopen] at hopened
  rw [spawn, bind_error w s (by rw [hopened]), hopened]

/-- A program whose target can be opened is started between opening and closing
    it, whatever comes of the start. -/
theorem spawn_spec (path name : Text) (rest : List Text) {target : Option Text}
    (hopen : target.bind w.openFault = none) :
    let start := startOrRefuse path (name :: rest) target w s
    let o := spawn path (name :: rest) target w s
    o.result = start.result.map (fun (pid, ending) => ⟨name, path, pid, ending⟩) ∧
      o.session = start.session ∧
      o.trace.events = target.toList.map Event.openTarget ++ start.trace.events ++
        target.toList.map Event.closeTarget := by
  have hopened := openRedirection_apply w s target
  rw [hopen] at hopened
  have hclosed := closeRedirection_apply w (startOrRefuse path (name :: rest) target w s).session
    target
  have hensuring : ensuring (startOrRefuse path (name :: rest) target) (closeRedirection target) w s
      = _ := ensuring_apply (by rw [hclosed])
  dsimp only
  unfold spawn
  rw [bind_ok hopened, bind_apply, hensuring, hclosed]
  cases hstart : (startOrRefuse path (name :: rest) target w s).result with
  | error f =>
    cases target <;> simp [Except.map, Trace.events]
  | ok started =>
    cases target <;> simp [Except.map, Trace.events, bind_apply, nameOf]

end Parts

/-! ### A launch comes to its verdict -/

section Launch

variable (w : World) (s : Session) {c : Command} (directories : List Text)

theorem launch_apply :
    launch c directories w s =
      match w.resolved c.name directories with
      | none =>
        ⟨.error (.reported (Failure.commandNotFound c.name).toError), s,
          (resolve c.name directories w s).trace⟩
      | some path =>
        ⟨(spawn path c.args c.target w s).result, (spawn path c.args c.target w s).session,
          (resolve c.name directories w s).trace ++ (spawn path c.args c.target w s).trace⟩ := by
  obtain ⟨hresult, hsession⟩ := resolve_spec w s c.name directories
  unfold launch
  rw [bind_apply, hresult, hsession]
  cases w.resolved c.name directories <;> simp

/-- A launch ends as its verdict says, and starts the child that it returns. -/
theorem launch_spec (hargs : c.args.head? = some c.name) :
    let verdict := (c.verdict w directories).result c w s.nextPid
    let o := launch c directories w s
    o.result = verdict ∧
      o.session = { s with spawned := s.spawned + verdict.toOption.toList.length } ∧
      o.trace.spawns = verdict.toOption.toList.map fun child => (child.pid, child.path) := by
  obtain ⟨rest, hrest⟩ := List.head?_eq_some_iff.mp hargs
  have hsearch : (resolve c.name directories w s).trace.spawns = [] :=
    Trace.spawns_eq_nil fun e he => Or.inl (resolve_leaves _ _ w s e he)
  dsimp only
  rw [launch_apply, Command.verdict]
  cases w.resolved c.name directories with
  | none => exact ⟨rfl, rfl, hsearch⟩
  | some path =>
    dsimp only
    rw [Trace.spawns_append, hsearch, List.nil_append]
    cases hopen : c.target.bind w.openFault with
    | some f =>
      rw [spawn_unopened w s path c.args hopen]
      exact ⟨rfl, rfl, rfl⟩
    | none =>
      obtain ⟨hresult, hsession, hevents⟩ := spawn_spec w s path c.name rest hopen
      have hspawns : (spawn path (c.name :: rest) c.target w s).trace.spawns =
          (startOrRefuse path (c.name :: rest) c.target w s).trace.spawns := by
        unfold Trace.spawns
        rw [hevents]
        cases c.target <;> simp
      rw [hrest, hresult, hsession, hspawns, startOrRefuse_apply]
      cases w.startAnswer path (c.name :: rest) with
      | started ending => exact ⟨rfl, rfl, rfl⟩
      | unforked e => exact ⟨rfl, rfl, rfl⟩
      | broken kind text => exact ⟨rfl, rfl, rfl⟩
      | refused reason =>
        simp only [refuse_apply, Verdict.result, Command.messageFault, Command.refusal]
        cases c.target with
        | none => exact ⟨rfl, rfl, rfl⟩
        | some t =>
          rw [Option.bind_some]
          cases w.writeFault _ t <;> exact ⟨rfl, rfl, rfl⟩

end Launch

end Action

end LineShell
