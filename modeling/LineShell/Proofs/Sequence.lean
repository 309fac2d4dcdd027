/-
  LineShell/Proofs/Sequence.lean
  ==============================
  **Laws of actions.**

  An action is opened one step at a time: `bind_ok` and `bind_error` say what two
  actions in a row come to, and `attempt_bind` does so for an action whose fault
  is looked at.  No other proof unfolds the sequencing itself.

  The second half is a frame condition.  `Leaves P a` says that every entry that
  the action leaves satisfies `P`, in every world and session.  It is closed under
  all ways to put actions together, so a statement such as "no command waits for a
  child" needs one line for each action and no look at what the action answers.
-/
import LineShell.World.Call

namespace LineShell.Action

variable {α β : Type}

/-! ### One step at a time -/

section Steps

variable (w : World) (s : Session)

@[simp] theorem done_apply (x : α) : (done x : Action α) w s = ⟨.ok x, s, []⟩ := rfl

@[simp] theorem world_apply : world w s = ⟨.ok w, s, []⟩ := rfl

@[simp] theorem session_apply : session w s = ⟨.ok s, s, []⟩ := rfl

@[simp] theorem modify_apply (f : Session → Session) : modify f w s = ⟨.ok (), f s, []⟩ := rfl

@[simp] theorem leave_apply (entries : Trace) : leave entries w s = ⟨.ok (), s, entries⟩ := rfl

@[simp] theorem emit_apply (e : Event) : emit e w s = ⟨.ok (), s, [.event e]⟩ := rfl

@[simp] theorem log_apply (source : LogSource) (level : LogLevel) (message : Text) :
    log source level message w s = ⟨.ok (), s, [.log ⟨source, level, message, none⟩]⟩ := rfl

@[simp] theorem attempt_apply (a : Action α) :
    attempt a w s = ⟨.ok (a w s).result, (a w s).session, (a w s).trace⟩ := rfl

@[simp] theorem failWith_apply (f : Failure) :
    (failWith f : Action α) w s = ⟨.error (.reported f.toError), s, []⟩ := rfl

@[simp] theorem failErrno_apply (e : Errno) :
    (failErrno e : Action α) w s = ⟨.error (.system (.ofErrno e)), s, []⟩ := rfl

theorem outcome_eq {o : Outcome α} {result : Except Fault α} (hresult : o.result = result)
    (hsession : o.session = s) : o = ⟨result, s, o.trace⟩ := by
  subst hresult hsession
  rfl

/-- A run that ended with a value, from what can be seen of the value. -/
theorem exists_ok_of_map {γ : Type} {result : Except Fault α} {view : α → γ} {y : γ}
    (h : result.toOption.map view = some y) : ∃ x, result = .ok x ∧ view x = y := by
  cases result with
  | ok x => exact ⟨x, rfl, Option.some.inj h⟩
  | error f => cases h

theorem bind_apply (a : Action α) (next : α → Action β) :
    (a >>= next) w s =
      match (a w s).result with
      | .error f => ⟨.error f, (a w s).session, (a w s).trace⟩
      | .ok x =>
        ⟨(next x w (a w s).session).result, (next x w (a w s).session).session,
          (a w s).trace ++ (next x w (a w s).session).trace⟩ := rfl

variable {w s}

theorem bind_ok {a : Action α} {next : α → Action β} {x : α} {s' : Session} {t : Trace}
    (h : a w s = ⟨.ok x, s', t⟩) :
    (a >>= next) w s =
      ⟨(next x w s').result, (next x w s').session, t ++ (next x w s').trace⟩ := by
  rw [bind_apply, h]

/-- Looking at how an action ended: what follows always runs. -/
theorem attempt_bind (a : Action α) (next : Except Fault α → Action β) :
    (attempt a >>= next) w s =
      ⟨(next (a w s).result w (a w s).session).result,
        (next (a w s).result w (a w s).session).session,
        (a w s).trace ++ (next (a w s).result w (a w s).session).trace⟩ := rfl

theorem ensuring_apply {a : Action α} {last : Action Unit}
    (h : (last w (a w s).session).result = .ok ()) :
    ensuring a last w s =
      ⟨(a w s).result, (last w (a w s).session).session,
        (a w s).trace ++ (last w (a w s).session).trace⟩ := by
  unfold ensuring
  rw [attempt_bind, bind_apply, h]
  cases hr : (a w s).result with
  | ok x => simp
  | error f => simp

end Steps

/-! ### What an action can leave -/

/-- Every entry that the action leaves satisfies `P`, whatever the world and the
    session. -/
def Leaves (P : Entry → Prop) (a : Action α) : Prop := ∀ w s, ∀ e ∈ (a w s).trace, P e

section Leaves

variable {P Q : Entry → Prop}

theorem Leaves.mono {a : Action α} (h : Leaves P a) (hPQ : ∀ e, P e → Q e) : Leaves Q a :=
  fun w s e he => hPQ e (h w s e he)

theorem leaves_done (x : α) : Leaves P (done x) := by
  intro w s e he
  simp at he

theorem leaves_fail (f : Fault) : Leaves P (fail f : Action α) := by
  intro w s e he
  simp at he

theorem leaves_world : Leaves P world := by
  intro w s e he
  simp at he

theorem leaves_session : Leaves P session := by
  intro w s e he
  simp at he

theorem leaves_modify (f : Session → Session) : Leaves P (modify f) := by
  intro w s e he
  simp at he

theorem leaves_leave {entries : Trace} (h : ∀ e ∈ entries, P e) : Leaves P (leave entries) :=
  fun _ _ => h

theorem leaves_emit {e : Event} (h : P (.event e)) : Leaves P (emit e) :=
  leaves_leave (by simpa using h)

theorem leaves_log {source : LogSource} {level : LogLevel} {message : Text}
    (h : P (.log ⟨source, level, message, none⟩)) : Leaves P (log source level message) :=
  leaves_leave (by simpa using h)

theorem Leaves.bind {a : Action α} {next : α → Action β} (ha : Leaves P a)
    (hnext : ∀ x, Leaves P (next x)) : Leaves P (a >>= next) := by
  intro w s e he
  rw [bind_apply] at he
  cases hr : (a w s).result with
  | error f =>
    rw [hr] at he
    exact ha w s e he
  | ok x =>
    rw [hr] at he
    rcases List.mem_append.mp he with he | he
    · exact ha w s e he
    · exact hnext x w _ e he

theorem Leaves.attempt {a : Action α} (ha : Leaves P a) : Leaves P (attempt a) := ha

theorem Leaves.ensuring {a : Action α} {last : Action Unit} (ha : Leaves P a)
    (hlast : Leaves P last) : Leaves P (ensuring a last) := by
  refine ha.attempt.bind fun result => hlast.bind fun _ => ?_
  cases result with
  | ok x => exact leaves_done x
  | error f => exact leaves_fail f

end Leaves

end LineShell.Action
