/-
  LineShell/Proofs/Reaping.lean
  =============================
  **Waiting for the children of a line.**

  Children are awaited in the order of launch, up to and including the first one
  whose wait breaks (`awaited`).  A wait that the system refuses is reported and
  gives no status; it stops nobody.  `waitAll_spec` says all that waiting does: how
  it ends, whom it waits for, what it reports, and that the session stays as it is.
-/
import LineShell.Proofs.Footprint

namespace LineShell

namespace Child

def breakage? (child : Child) : Option Fault :=
  match child.ending with
  | .breaks kind text => some (.breakdown kind text)
  | _ => none

def status? (child : Child) : Option Int :=
  match child.ending with
  | .exits status => some status
  | _ => none

/-- What waiting for a child says to the user: a refused wait has its line. -/
def waitReport (child : Child) : List Text :=
  match child.ending with
  | .fails _ => [Text.ofString DiagnosticKind.wait.message]
  | _ => []

theorem breakdown_of_findSome? {children : List Child} {f : Fault}
    (h : children.findSome? breakage? = some f) : ∃ kind text, f = .breakdown kind text := by
  obtain ⟨child, -, hchild⟩ := List.exists_of_findSome?_eq_some h
  unfold breakage? at hchild
  split at hchild
  · exact ⟨_, _, (Option.some.inj hchild).symm⟩
  · cases hchild

end Child

/-- The children that are waited for: all of them, up to the first whose wait
    breaks. -/
def awaited : List Child → List Child
  | [] => []
  | child :: rest => if child.breakage?.isSome then [child] else child :: awaited rest

theorem awaited_eq_self {children : List Child} (h : children.findSome? Child.breakage? = none) :
    awaited children = children := by
  induction children with
  | nil => rfl
  | cons child rest ih =>
    obtain ⟨hchild, hrest⟩ := List.forall_mem_cons.mp (List.findSome?_eq_none_iff.mp h)
    simp [awaited, hchild, ih (List.findSome?_eq_none_iff.mpr hrest)]

/-- Everyone is waited for when only the last wait may break. -/
theorem awaited_eq_self_iff {children : List Child} :
    awaited children = children ↔ children.Pairwise fun child _ => child.breakage? = none := by
  induction children with
  | nil => simp [awaited]
  | cons child rest ih =>
    unfold awaited
    rw [List.pairwise_cons, ← ih]
    cases hbreaks : child.breakage? with
    | none => simp
    | some f =>
      cases rest with
      | nil => simp [awaited]
      | cons next rest =>
        refine iff_of_false (by simp) fun h => ?_
        simpa using h.1 next List.mem_cons_self

/-- The wait for a child of the program breaks. -/
def World.BreaksWait (w : World) (path : Text) : Prop :=
  ∃ program kind text, w.program path = some program ∧ program.ending = .breaks kind text

theorem Child.breakage?_eq_none_iff {w : World} {child : Child}
    (hending : (w.program child.path).map Program.ending = some child.ending) :
    child.breakage? = none ↔ ¬ w.BreaksWait child.path := by
  obtain ⟨program, hprogram, hends⟩ := Option.map_eq_some_iff.mp hending
  unfold breakage? World.BreaksWait
  rw [← hends]
  cases hprogramEnds : program.ending <;> simp [hprogram, hprogramEnds]

/-- No wait of the world breaks: each gives a status or is refused. -/
def World.WaitsNeverBreak (w : World) : Prop :=
  ∀ path program, w.program path = some program →
    ∀ kind text, program.ending ≠ .breaks kind text

theorem World.ofPrograms_mem {programs : List (Text × Program)} {path : Text} {program : Program}
    (h : (ofPrograms programs).program path = some program) : (path, program) ∈ programs := by
  induction programs with
  | nil => cases h
  | cons entry rest ih =>
    obtain ⟨path', program'⟩ := entry
    simp only [ofPrograms, List.lookup_cons] at h
    split at h
    · next heq =>
      obtain rfl := Option.some.inj h
      obtain rfl := eq_of_beq heq
      exact List.mem_cons_self
    · exact List.mem_cons_of_mem _ (ih h)

theorem World.ofPrograms_waitsNeverBreak {programs : List (Text × Program)}
    (h : ∀ entry ∈ programs, ∀ kind text, entry.2.ending ≠ .breaks kind text) :
    (ofPrograms programs).WaitsNeverBreak :=
  fun _ _ hprogram => h _ (ofPrograms_mem hprogram)

theorem World.WaitsNeverBreak.unbroken {w : World} (hwaits : w.WaitsNeverBreak)
    {children : List Child}
    (hendings : ∀ child ∈ children, (w.program child.path).map Program.ending = some child.ending) :
    children.findSome? Child.breakage? = none := by
  rw [List.findSome?_eq_none_iff]
  intro child hchild
  obtain ⟨program, hprogram, hending⟩ := Option.map_eq_some_iff.mp (hendings child hchild)
  unfold Child.breakage?
  split
  · next kind text hbreaks => exact absurd (hending.trans hbreaks) (hwaits _ _ hprogram kind text)
  · rfl

/-- Does the system refuse to wait for a child of the program? -/
def World.refusesWait (w : World) (path : Text) : Bool :=
  match (w.program path).map Program.ending with
  | some (.fails _) => true
  | _ => false

theorem flatMap_waitReport {w : World} {children : List Child}
    (hendings : ∀ child ∈ children, (w.program child.path).map Program.ending = some child.ending) :
    children.flatMap Child.waitReport =
      List.replicate (children.countP fun child => w.refusesWait child.path)
        (Text.ofString DiagnosticKind.wait.message) := by
  induction children with
  | nil => rfl
  | cons child rest ih =>
    obtain ⟨hchild, hrest⟩ := List.forall_mem_cons.mp hendings
    rw [List.flatMap_cons, ih hrest, List.countP_cons]
    unfold Child.waitReport World.refusesWait
    rw [hchild]
    cases child.ending with
    | exits status => rfl
    | breaks kind text => rfl
    | fails e => rfl

theorem awaited_isPrefix (children : List Child) : awaited children <+: children := by
  induction children with
  | nil => exact List.prefix_rfl
  | cons child rest ih =>
    unfold awaited
    split
    · exact ⟨rest, rfl⟩
    · exact List.cons_prefix_cons.mpr ⟨rfl, ih⟩

namespace Action

variable (w : World) (s : Session)

theorem wait_apply (child : Child) :
    wait child w s =
      match child.ending with
      | .exits status =>
        ⟨.ok status, s, [.event (.wait child.pid), .log ⟨.launch, .debug,
          Text.ofString "Reaped " ++ child.name ++ Text.ofString " (pid " ++ Text.ofNat child.pid ++
            Text.ofString ") with status " ++ Text.ofInt status, none⟩]⟩
      | .fails e =>
        ⟨.error (.reported (Failure.wait (Text.ofString "pid " ++ Text.ofNat child.pid ++
          Text.ofString ": " ++ (SystemError.ofErrno e).message)).toError), s,
          [.event (.wait child.pid)]⟩
      | .breaks kind text => ⟨.error (.breakdown kind text), s, [.event (.wait child.pid)]⟩ := by
  unfold wait waitProcess
  cases child.ending <;> rfl

theorem reap_spec (child : Child) :
    (reap child w s).result =
        (match child.breakage? with
        | some f => .error f
        | none => .ok child.status?) ∧
      (reap child w s).session = s ∧
      (reap child w s).trace.waitedPids = [child.pid] ∧
      (reap child w s).trace.diagnostics = child.waitReport := by
  unfold reap Child.breakage? Child.status? Child.waitReport
  rw [attempt_bind, wait_apply]
  cases child.ending with
  | exits status => exact ⟨rfl, rfl, rfl, rfl⟩
  | breaks kind text => exact ⟨rfl, rfl, rfl, rfl⟩
  | fails e => exact ⟨rfl, rfl, rfl, rfl⟩

theorem waitAll_spec (children : List Child) :
    (waitAll children w s).result =
        (match children.findSome? Child.breakage? with
        | some f => .error f
        | none => .ok (children.map Child.status?)) ∧
      (waitAll children w s).session = s ∧
      (waitAll children w s).trace.waitedPids = (awaited children).map Child.pid ∧
      (waitAll children w s).trace.diagnostics = (awaited children).flatMap Child.waitReport := by
  induction children with
  | nil => exact ⟨rfl, rfl, rfl, rfl⟩
  | cons child rest ih =>
    obtain ⟨hresult, hsession, hwaited, hreport⟩ := reap_spec w s child
    obtain ⟨ihresult, ihsession, ihwaited, ihreport⟩ := ih
    unfold waitAll awaited
    rw [bind_apply, hresult, hsession, List.findSome?_cons]
    cases child.breakage? with
    | some f => simp [hwaited, hreport]
    | none =>
      simp only [bind_apply, ihresult, ihsession]
      cases rest.findSome? Child.breakage? <;>
        simp [hwaited, hreport, ihwaited, ihreport]

end Action

end LineShell
