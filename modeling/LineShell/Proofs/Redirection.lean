/-
  LineShell/Proofs/Redirection.lean
  =================================
  **The target of a spawn.**

  A spawn opens its target before it starts the program and closes it behind, whatever
  comes of the start.  With the target open there are three ways to go on, and
  `TargetUse` lists them with all their calls: the child gets the target for its output,
  the message of a refused program is written and flushed, or the target is left alone.
  A write that fails belongs to the third way, since it leaves no call.

  `spawn_keepsTarget` puts the calls of opening and closing around these and reads off
  that no target is leaked or half used.
-/
import LineShell.Proofs.Verdict

namespace LineShell

/-- Does the call work on a target? -/
def Event.isOnTarget : Event → Bool
  | .openTarget _ | .writeTarget _ _ | .flushTarget _ | .closeTarget _ => true
  | _ => false

/-- How a spawn goes on once its target is open, with the calls that it makes before it
    closes the target. -/
inductive TargetUse (path name : Text) (argv : List Text) (target : Option Text) :
    Except Fault Child → List Event → Prop
  | handed (pid : Pid) (ending : WaitOutcome) :
      TargetUse path name argv target (.ok ⟨name, path, pid, ending⟩)
        [.spawn pid path argv target target]
  | told {t : Text} (reason : Text) (htarget : target = some t) :
      TargetUse path name argv target (.error (.reported ⟨.exec name reason, true⟩))
        [.writeTarget t ((Failure.exec name reason).render ++ Text.ofString "\n"), .flushTarget t]
  | untouched {f : Fault} (hshown : ∀ e, f = .reported e → e.redirected = false) :
      TargetUse path name argv target (.error f) []

/-- What a spawn owes its target. -/
structure TargetKept (w : World) (path name : Text) (argv : List Text) (target : Option Text)
    (o : Outcome Child) : Prop where
  untargeted : target = none → ∀ e ∈ o.trace.events, e.isOnTarget = false
  unopened : ∀ t f, target = some t → w.openFault t = some f → o.trace.events = [] ∧
    ∃ detail, o.result = .error (.reported (Failure.redirectionFile detail).toError)
  /-- The target is opened first and closed last, and neither happens in between. -/
  bracketed : ∀ t, target = some t → w.openFault t = none → ∃ between,
    o.trace.events = .openTarget t :: (between ++ [.closeTarget t]) ∧
      ∀ t', .openTarget t' ∉ between ∧ .closeTarget t' ∉ between
  /-- A child is returned exactly where it has been started. -/
  started : (∃ child, o.result = .ok child) ↔
    ∃ pid, .spawn pid path argv target target ∈ o.trace.events
  /-- Where a child is started, there is no call besides but opening and closing. -/
  alone : ∀ pid p given out err, .spawn pid p given out err ∈ o.trace.events →
    p = path ∧ given = argv ∧ out = target ∧ err = target ∧
      o.trace.events = target.toList.map .openTarget ++ [.spawn pid p given out err] ++
        target.toList.map .closeTarget
  /-- Only the message of a refused program is ever written, and then no child is started. -/
  routed : ∀ t text, .writeTarget t text ∈ o.trace.events ∨ .flushTarget t ∈ o.trace.events →
    target = some t ∧ (∃ reason, o.result = .error (.reported ⟨.exec name reason, true⟩)) ∧
      ∀ pid p given out err, .spawn pid p given out err ∉ o.trace.events
  redirected : ∀ e, o.result = .error (.reported e) → (e.redirected = true ↔
    ∃ t, .writeTarget t (e.failure.render ++ Text.ofString "\n") ∈ o.trace.events ∧
      .flushTarget t ∈ o.trace.events)

namespace Action

variable (w : World) (s : Session) (path name : Text) (rest : List Text) (target : Option Text)

/-- The start of a program uses the open target in one of the three ways. -/
theorem startOrRefuse_targetUse :
    TargetUse path name (name :: rest) target
      ((startOrRefuse path (name :: rest) target w s).result.map fun (pid, ending) =>
        ⟨name, path, pid, ending⟩)
      (startOrRefuse path (name :: rest) target w s).trace.events := by
  rw [startOrRefuse_apply]
  cases w.startAnswer path (name :: rest) with
  | started ending => exact .handed s.nextPid ending
  | unforked e => exact .untouched (by rintro _ ⟨⟩; rfl)
  | broken kind text => exact .untouched (by rintro _ ⟨⟩)
  | refused reason =>
    dsimp only
    rw [refuse_apply]
    cases target with
    | none => exact .untouched (by rintro _ ⟨⟩; rfl)
    | some t =>
      rw [Option.bind_some]
      cases hfault : w.writeFault _ t with
      | some f =>
        refine .untouched ?_
        rcases World.eq_of_writeFault hfault with rfl | ⟨e, rfl⟩ <;> rintro _ ⟨⟩
      | none => exact .told reason rfl

/-- A spawn without a target, or with one that can be opened, puts opening and closing
    around the use of the target. -/
theorem spawn_targetUse (hopen : target.bind w.openFault = none) :
    ∃ result calls, TargetUse path name (name :: rest) target result calls ∧
      (spawn path (name :: rest) target w s).result = result ∧
      (spawn path (name :: rest) target w s).trace.events =
        target.toList.map .openTarget ++ calls ++ target.toList.map .closeTarget := by
  obtain ⟨hresult, -, hevents⟩ := spawn_spec w s path name rest hopen
  exact ⟨_, _, startOrRefuse_targetUse w s path name rest target, hresult, hevents⟩

end Action

/-- Whatever way the target is used, with opening and closing around it is kept. -/
theorem TargetUse.kept {w : World} {path name : Text} {argv : List Text} {target : Option Text}
    {o : Outcome Child} {result : Except Fault Child} {calls : List Event}
    (h : TargetUse path name argv target result calls) (hopen : target.bind w.openFault = none)
    (hresult : o.result = result)
    (hevents : o.trace.events =
      target.toList.map .openTarget ++ calls ++ target.toList.map .closeTarget) :
    TargetKept w path name argv target o := by
  have hmem : ∀ e, e ∈ o.trace.events ↔ e ∈ target.toList.map .openTarget ∨ e ∈ calls ∨
      e ∈ target.toList.map .closeTarget := by
    intro e
    rw [hevents, List.mem_append, List.mem_append, or_assoc]
  refine {
    untargeted := ?_
    unopened := ?_
    bracketed := ?_
    started := ?_
    alone := ?_
    routed := ?_
    redirected := ?_ }
  · rintro rfl e he
    cases h with
    | handed pid ending =>
      obtain rfl : e = .spawn pid path argv none none := by simpa [hmem] using he
      rfl
    | told reason htarget => cases htarget
    | untouched hshown => simp [hmem] at he
  · rintro t f rfl hrefused
    rw [Option.bind_some, hrefused] at hopen
    cases hopen
  · rintro t rfl -
    refine ⟨calls, by simpa using hevents, fun t' => ?_⟩
    cases h <;> simp
  · simp only [hresult, hmem]
    cases h <;> simp
  · intro pid p given out err hspawn
    cases h with
    | handed pid' ending =>
      obtain ⟨rfl, rfl, rfl, rfl, rfl⟩ : pid = pid' ∧ p = path ∧ given = argv ∧ out = target ∧
          err = target := by simpa [hmem] using hspawn
      exact ⟨rfl, rfl, rfl, rfl, hevents⟩
    | told reason htarget => simp [hmem] at hspawn
    | untouched hshown => simp [hmem] at hspawn
  · intro t text hwritten
    cases h with
    | handed pid ending => simp [hmem] at hwritten
    | untouched hshown => simp [hmem] at hwritten
    | @told t' reason htarget =>
      obtain rfl : t = t' := by
        simp only [hmem] at hwritten
        rcases hwritten with hwritten | hwritten <;> simp at hwritten
        · exact hwritten.1
        · exact hwritten
      refine ⟨htarget, ⟨reason, hresult⟩, ?_⟩
      simp [hmem]
  · intro e he
    rw [hresult] at he
    cases h with
    | handed pid ending => cases he
    | told reason htarget =>
      obtain rfl : _ = e := Fault.reported.inj (Except.error.inj he)
      simp [hmem]
    | untouched hshown => simp [hmem, hshown e (Except.error.inj he)]

theorem spawn_keepsTarget (w : World) (s : Session) (path name : Text) (rest : List Text)
    (target : Option Text) :
    TargetKept w path name (name :: rest) target
      (Action.spawn path (name :: rest) target w s) := by
  cases hopen : target.bind w.openFault with
  | none =>
    obtain ⟨result, calls, huse, hresult, hevents⟩ :=
      Action.spawn_targetUse w s path name rest target hopen
    exact huse.kept hopen hresult hevents
  | some f =>
    rw [Action.spawn_unopened w s path (name :: rest) hopen]
    obtain ⟨t, rfl, hrefused⟩ := Option.bind_eq_some_iff.mp hopen
    -- nothing has happened, so there is only the failure to look at
    refine {
      untargeted := by simp
      unopened := fun t' f' _ _ => ⟨rfl, _, rfl⟩
      bracketed := ?_
      started := by simp [Trace.events]
      alone := by simp [Trace.events]
      routed := by simp [Trace.events]
      redirected := ?_ }
    · intro t' ht' hnone
      obtain rfl := Option.some.inj ht'
      rw [hrefused] at hnone
      cases hnone
    · rintro e ⟨⟩
      simp [Trace.events, Failure.toError]

end LineShell
