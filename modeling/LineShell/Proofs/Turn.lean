/-
  LineShell/Proofs/Turn.lean
  ==========================
  **One command of a line.**

  When its turn comes, a command is handled as a built-in, or launched, or its
  failure is reported; or else it ends the line.  `Command.turn` says which from
  the world and the session alone, and `runCommand_spec` says that running the
  command comes to exactly that, with the search path and the children that go with
  it.

  What can end a line is spelled out by `Command.Halts`: leaving the shell, a program
  whose start breaks, and a refused program whose message cannot be written to its
  target.  Nothing else can (`turn_eq_error_iff`).
-/
import LineShell.Proofs.Ledger

namespace LineShell

namespace Command

def isBuiltin (c : Command) : Bool := (Builtin.named? c.name).isSome

def pathAfter (c : Command) (path : List Text) : List Text :=
  if Builtin.named? c.name = some .path then c.operands else path

/-- What comes of a command when its turn comes. -/
def turn (c : Command) (w : World) (s : Session) : Except Fault Step :=
  match Builtin.named? c.name with
  | some b => if b = .exit ∧ c.operands = [] then .error (.exit 0) else .ok .builtin
  | none =>
    match (c.verdict w s.path).result c w s.nextPid with
    | .ok child => .ok (.launched child)
    | .error (.reported _) => .ok .failed
    | .error f => .error f

/-- The faults with which a command ends its line. -/
inductive Halts (w : World) (path : List Text) (c : Command) : Fault → Prop
  /-- A command `exit` without operands leaves the shell. -/
  | leaves (hname : Builtin.named? c.name = some .exit) (hbare : c.operands = []) :
      Halts w path c (.exit 0)
  /-- Something breaks in while the program is started. -/
  | breaks {program : Text} {kind : Breakdown} {text : Text} (hname : Builtin.named? c.name = none)
      (hverdict : c.verdict w path = .answered program (.broken kind text)) :
      Halts w path c (.breakdown kind text)
  /-- The program is refused, and its message does not reach the target. -/
  | losesMessage {program reason : Text} {f : Fault} (hname : Builtin.named? c.name = none)
      (hverdict : c.verdict w path = .answered program (.refused reason))
      (hlost : c.messageFault w reason = some f) : Halts w path c f

/-- A command ends its line with exactly the faults that are listed. -/
theorem turn_eq_error_iff {c : Command} {w : World} {s : Session} {f : Fault} :
    c.turn w s = .error f ↔ Halts w s.path c f := by
  constructor
  · intro h
    unfold turn at h
    cases hname : Builtin.named? c.name with
    | some b =>
      rw [hname] at h
      dsimp only at h
      split at h
      · next hexit =>
        obtain rfl := Except.error.inj h
        exact .leaves (hexit.1 ▸ hname) hexit.2
      · cases h
    | none =>
      rw [hname] at h
      cases hverdict : c.verdict w s.path with
      | notFound => simp [hverdict, Verdict.result] at h
      | targetRefused g => simp [hverdict, Verdict.result] at h
      | answered path answer =>
        cases answer with
        | started ending => simp [hverdict, Verdict.result] at h
        | unforked e => simp [hverdict, Verdict.result] at h
        | broken kind text =>
          obtain rfl : Fault.breakdown kind text = f := by
            simpa [hverdict, Verdict.result] using h
          exact .breaks hname hverdict
        | refused reason =>
          cases hlost : c.messageFault w reason with
          | none => simp [hverdict, Verdict.result, hlost] at h
          | some g =>
            obtain rfl : g = f := by
              rcases Command.eq_of_messageFault hlost with rfl | ⟨e, rfl⟩ <;>
                simpa [hverdict, Verdict.result, hlost] using h
            exact .losesMessage hname hverdict hlost
  · rintro (⟨hname, hbare⟩ | ⟨hname, hverdict⟩ | ⟨hname, hverdict, hlost⟩)
    · simp [turn, hname, hbare]
    · simp [turn, hname, hverdict, Verdict.result]
    · rcases Command.eq_of_messageFault hlost with rfl | ⟨e, rfl⟩ <;>
        simp [turn, hname, hverdict, Verdict.result, hlost]

theorem halts_exit_iff {c : Command} {w : World} {path : List Text} {status : Int} :
    c.Halts w path (.exit status) ↔
      status = 0 ∧ Builtin.named? c.name = some .exit ∧ c.operands = [] := by
  constructor
  · intro h
    cases h with
    | leaves hname hbare => exact ⟨rfl, hname, hbare⟩
    | losesMessage _ _ hlost => rcases eq_of_messageFault hlost with h | ⟨e, h⟩ <;> cases h
  · rintro ⟨rfl, hname, hbare⟩
    exact .leaves hname hbare

theorem halts_iff_of_message {c : Command} {w : World} {path : List Text} {f : Fault}
    (hf : f.IsOfMessage) :
    c.Halts w path f ↔ Builtin.named? c.name = none ∧ ∃ program reason,
      c.verdict w path = .answered program (.refused reason) ∧ c.messageFault w reason = some f := by
  constructor
  · intro h
    cases h with
    | leaves _ _ => cases hf
    | breaks _ _ => cases hf
    | losesMessage hname hverdict hlost => exact ⟨hname, _, _, hverdict, hlost⟩
  · rintro ⟨hname, program, reason, hverdict, hlost⟩
    exact .losesMessage hname hverdict hlost

theorem Halts.unique {c : Command} {w : World} {path : List Text} {f g : Fault}
    (hf : Halts w path c f) (hg : Halts w path c g) : f = g := by
  have h := turn_eq_error_iff (s := .start path) |>.mpr hf
  rw [turn_eq_error_iff (s := .start path) |>.mpr hg] at h
  exact (Except.error.inj h).symm

/-- A command that has its turn is a built-in exactly when its step says so. -/
theorem turn_eq_builtin_iff {c : Command} {w : World} {s : Session} {step : Step}
    (h : c.turn w s = .ok step) : step = .builtin ↔ c.isBuiltin = true := by
  unfold turn at h
  cases hname : Builtin.named? c.name with
  | some b =>
    rw [hname] at h
    dsimp only at h
    split at h
    · cases h
    · obtain rfl := Except.ok.inj h
      simp [isBuiltin, hname]
  | none =>
    rw [hname] at h
    dsimp only at h
    split at h
    · obtain rfl := Except.ok.inj h
      simp [isBuiltin, hname]
    · obtain rfl := Except.ok.inj h
      simp [isBuiltin, hname]
    · cases h

end Command

namespace Action

section Builtins

variable (w : World) (s : Session)

theorem report_spec (e : ShellError) :
    (report e w s).result = .ok () ∧ (report e w s).session = s := by
  unfold report
  split
  · exact ⟨rfl, rfl⟩
  · dsimp only
    split <;> exact ⟨rfl, rfl⟩

theorem report_diagnostics (e : ShellError) :
    (report e w s).trace.diagnostics = if e.redirected then [] else [e.failure.render] := by
  unfold report
  split
  · rfl
  · dsimp only
    split <;> rfl

/-- A failure that can be reported is, and counts as handled. -/
theorem reporting_spec {a : Action Unit}
    (h : (a w s).result = .ok () ∨ ∃ e, (a w s).result = .error (.reported e)) :
    (reporting a w s).result = .ok () ∧ (reporting a w s).session = (a w s).session := by
  unfold reporting
  rw [attempt_bind]
  rcases h with h | ⟨e, h⟩
  · rw [h]
    exact ⟨rfl, rfl⟩
  · rw [h]
    exact report_spec w _ e

theorem changeDirectory_spec (operands : List Text) :
    ((changeDirectory operands w s).result = .ok () ∨
        ∃ e, (changeDirectory operands w s).result = .error (.reported e)) ∧
      (changeDirectory operands w s).session = s := by
  unfold changeDirectory
  split
  · next d =>
    have hsession : (chdir d w s).session = s := by
      unfold chdir refuseNul
      split
      · rfl
      · rw [bind_ok (done_apply w s ()), bind_ok (world_apply w s)]
        cases w.directory d <;> rfl
    rw [attempt_bind, hsession]
    cases (chdir d w s).result with
    | ok u => exact ⟨Or.inl rfl, rfl⟩
    | error f => exact ⟨Or.inr ⟨_, rfl⟩, rfl⟩
  · exact ⟨Or.inr ⟨_, rfl⟩, rfl⟩

/-- A built-in ends well, unless it leaves the shell; only `path` changes the
    session. -/
theorem runBuiltin_spec (b : Builtin) (c : Command) :
    (runBuiltin b c w s).result =
        (if b = .exit ∧ c.operands = [] then .error (.exit 0) else .ok ()) ∧
      (runBuiltin b c w s).session =
        (if b = .path then { s with path := c.operands } else s) := by
  unfold runBuiltin
  rw [bind_ok (log_apply w s _ _ _)]
  dsimp only
  cases b with
  | exit =>
    cases hoperands : c.operands with
    | nil => exact ⟨rfl, rfl⟩
    | cons d rest => exact reporting_spec w s (Or.inr ⟨_, rfl⟩)
  | cd =>
    obtain ⟨hresult, hsession⟩ := changeDirectory_spec w s c.operands
    obtain ⟨hok, hkept⟩ := reporting_spec w s hresult
    exact ⟨hok, hkept.trans hsession⟩
  | path => exact ⟨rfl, rfl⟩

end Builtins

/-! ### A command comes to its turn -/

section Run
variable (w : World) (s : Session) {c : Command}

theorem runCommand_of_builtin {b : Builtin} (hname : Builtin.named? c.name = some b) :
    (runCommand c w s).result = c.turn w s ∧
      (runCommand c w s).session = { s with path := c.pathAfter s.path } ∧
      (runCommand c w s).trace = (runBuiltin b c w s).trace := by
  obtain ⟨hresult, hsession⟩ := runBuiltin_spec w s b c
  have hpath : (runBuiltin b c w s).session = { s with path := c.pathAfter s.path } := by
    rw [hsession]
    simp only [Command.pathAfter, hname, Option.some.injEq]
    split <;> rfl
  by_cases hexit : b = .exit ∧ c.operands = []
  · rw [if_pos hexit] at hresult
    obtain ⟨rfl, hbare⟩ := hexit
    simp [runCommand, handleBuiltin, Command.turn, hname, bind_apply, hresult, hbare, hpath]
  · rw [if_neg hexit] at hresult
    simp [runCommand, handleBuiltin, Command.turn, hname, bind_apply, hresult, hexit, hpath]

/-- An external command is launched on the path of the session, and a failure that
    can be reported is. -/
theorem runCommand_external_apply (hname : Builtin.named? c.name = none) :
    let o := launch c s.path w s
    runCommand c w s =
      match o.result with
      | .ok child => ⟨.ok (.launched child), o.session, o.trace⟩
      | .error (.reported e) =>
        ⟨.ok .failed, o.session, o.trace ++ (report e w o.session).trace⟩
      | .error f => ⟨.error f, o.session, o.trace⟩ := by
  have hhere : launchHere c w s = launch c s.path w s := rfl
  have hpassed : handleBuiltin c w s = ⟨.ok false, s, []⟩ := by
    unfold handleBuiltin
    rw [hname]
    rfl
  dsimp only
  unfold runCommand
  rw [bind_ok hpassed, if_neg Bool.false_ne_true, attempt_bind, hhere]
  cases (launch c s.path w s).result with
  | ok child => simp
  | error f =>
    cases f with
    | reported e => simp [bind_apply, report_spec]
    | _ => simp

theorem runCommand_of_external (hname : Builtin.named? c.name = none) :
    (runCommand c w s).result =
        (match (launch c s.path w s).result with
        | .ok child => .ok (.launched child)
        | .error (.reported _) => .ok .failed
        | .error f => .error f) ∧
      (runCommand c w s).session = (launch c s.path w s).session ∧
      (runCommand c w s).trace.spawns = (launch c s.path w s).trace.spawns := by
  rw [runCommand_external_apply w s hname]
  cases (launch c s.path w s).result with
  | ok child => exact ⟨rfl, rfl, rfl⟩
  | error f =>
    cases f with
    | reported e =>
      have hquiet : (report e w (launch c s.path w s).session).trace.spawns = [] :=
        Trace.spawns_eq_nil fun e he => Or.inr (Or.inr (report_leaves _ w _ e he).ofWait)
      refine ⟨rfl, rfl, ?_⟩
      rw [Trace.spawns_append, hquiet, List.append_nil]
    | _ => exact ⟨rfl, rfl, rfl⟩

theorem runCommand_result (hargs : c.args.head? = some c.name) :
    (runCommand c w s).result = c.turn w s := by
  cases hname : Builtin.named? c.name with
  | some b => exact (runCommand_of_builtin w s hname).1
  | none =>
    rw [(runCommand_of_external w s hname).1, (launch_spec w s s.path hargs).1]
    simp only [Command.turn, hname]

theorem runCommand_path (hargs : c.args.head? = some c.name) :
    (runCommand c w s).session.path = c.pathAfter s.path := by
  cases hname : Builtin.named? c.name with
  | some b => rw [(runCommand_of_builtin w s hname).2.1]
  | none =>
    rw [(runCommand_of_external w s hname).2.1, (launch_spec w s s.path hargs).2.1]
    simp [Command.pathAfter, hname]

theorem runCommand_started (hargs : c.args.head? = some c.name) :
    Started w s (runCommand c w s).trace (runCommand c w s).session
      (Step.children (runCommand c w s).result.toOption.toList) := by
  cases hname : Builtin.named? c.name with
  | some b =>
    obtain ⟨hresult, hsession, htrace⟩ := runCommand_of_builtin w s hname
    have hnone : Step.children (runCommand c w s).result.toOption.toList = [] := by
      simp only [hresult, Command.turn, hname]
      split <;> rfl
    rw [hnone]
    refine .nil (Trace.spawns_eq_nil fun e he => ?_) (by rw [hsession])
    exact Or.inr (Or.inl (runBuiltin_leaves b c w s e (htrace ▸ he)))
  | none =>
    obtain ⟨hresult, hsession, hspawns⟩ := runCommand_of_external w s hname
    have hlaunch := launch_started w s s.path hargs
    have hsame : Step.children (runCommand c w s).result.toOption.toList =
        (launch c s.path w s).result.toOption.toList := by
      rw [hresult]
      cases (launch c s.path w s).result with
      | ok child => rfl
      | error f => cases f <;> rfl
    rw [hsame]
    exact ⟨hspawns ▸ hlaunch.spawns, hlaunch.pids, hsession ▸ hlaunch.spawned, hlaunch.endings⟩

end Run

end Action

end LineShell
