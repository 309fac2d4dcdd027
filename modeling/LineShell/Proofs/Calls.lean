/-
  LineShell/Proofs/Calls.lean
  ===========================
  **The calls of one command.**

  The world alone fixes which calls a command makes and in which order.  A search
  asks about one candidate after another and stops at the first that can be executed
  (`World.asked`); a launch then opens its target, makes the calls that its verdict
  brings with it, and closes the target (`Verdict.calls`).  Of the built-ins only `cd`
  makes a call.

  `runCommand_events` is the law of all of them: the calls of a command are
  `Command.calls`, however the command ends.
-/
import LineShell.Proofs.Search
import LineShell.Proofs.Turn

namespace LineShell

/-! ### The calls that the world fixes -/

/-- The candidates that the world is asked about: those without NUL, up to the first
    that can be executed. -/
def World.asked (w : World) (name : Text) : List Text → List Text
  | [] => []
  | d :: rest =>
    if (candidate d name).hasNul then w.asked name rest
    else if w.executable (candidate d name) then [candidate d name]
    else candidate d name :: w.asked name rest

/-- The questions of a search; the empty name is not searched for. -/
def World.search (w : World) (name : Text) (directories : List Text) : List Event :=
  if name.isEmpty then []
  else (w.asked name directories).map fun path => .access path (w.executable path)

/-- Why a directory cannot be entered, if it cannot. -/
def World.entryFault (w : World) (directory : Text) : Option Fault :=
  if directory.hasNul then some .nulCharacter
  else (w.directory directory).map fun e => .system (.about e directory)

/-- What is called with an open target once the system has answered. -/
def StartAnswer.calls (c : Command) (w : World) (pid : Pid) (path : Text) :
    StartAnswer → List Event
  | .started _ => [.spawn pid path c.args c.target c.target]
  | .refused reason =>
    if (c.messageFault w reason).isSome then []
    else c.target.toList.flatMap fun t =>
      [.writeTarget t ((Failure.exec c.name reason).render ++ Text.ofString "\n"), .flushTarget t]
  | .unforked _ | .broken _ _ => []

/-- The calls of a launch after its search. -/
def Verdict.calls (c : Command) (w : World) (pid : Pid) : Verdict → List Event
  | .notFound | .targetRefused _ => []
  | .answered path answer =>
    c.target.toList.map .openTarget ++ answer.calls c w pid path ++
      c.target.toList.map .closeTarget

def Builtin.calls (w : World) : Builtin → List Text → List Event
  | .cd, [d] => if (w.entryFault d).isNone then [.chdir d] else []
  | _, _ => []

/-- The calls of a command on a search path, where `pid` is the number of the next
    child. -/
def Command.calls (c : Command) (w : World) (path : List Text) (pid : Pid) : List Event :=
  match Builtin.named? c.name with
  | some b => b.calls w c.operands
  | none => w.search c.name path ++ (c.verdict w path).calls c w pid

/-- Where no program is found, the world is asked about every candidate that can exist,
    and the search goes on behind. -/
theorem World.Lacks.asked_append {w : World} {name : Text} {front : List Text}
    (h : w.Lacks name front) (rest : List Text) :
    w.asked name (front ++ rest) =
      (front.map (candidate · name)).filter (!·.hasNul) ++ w.asked name rest := by
  induction front with
  | nil => rfl
  | cons d front ih =>
    obtain ⟨hd, hfront⟩ := List.forall_mem_cons.mp h
    rw [List.cons_append, asked, List.map_cons, ih hfront]
    cases hnul : (candidate d name).hasNul with
    | true => rw [if_pos rfl, List.filter_cons_of_neg (by simp [hnul])]
    | false =>
      have hexec : w.executable (candidate d name) = false := by simpa [hnul] using hd
      rw [if_neg Bool.false_ne_true, hexec, if_neg Bool.false_ne_true,
        List.filter_cons_of_pos (by simp [hnul]), List.cons_append]

/-- A search that finds nothing is told no every time. -/
theorem World.Lacks.search_eq {w : World} {name : Text} {directories : List Text}
    (h : w.Lacks name directories) (hname : name ≠ []) :
    w.search name directories =
      ((directories.map (candidate · name)).filter (!·.hasNul)).map (.access · false) := by
  have hasked := h.asked_append []
  rw [List.append_nil, asked, List.append_nil] at hasked
  rw [search, if_neg (by simpa using hname), hasked]
  apply List.map_congr_left
  intro path hpath
  obtain ⟨hcandidate, hnul⟩ := List.mem_filter.mp hpath
  obtain ⟨d, hd, rfl⟩ := List.mem_map.mp hcandidate
  have hexec : w.executable (candidate d name) = false := by
    rcases h d hd with hholds | hexec
    · simp [hholds] at hnul
    · exact hexec
  rw [hexec]

/-- A search that finds a program asks about it last. -/
theorem World.asked_of_resolved {w : World} {name path : Text} {directories : List Text}
    (h : w.resolved name directories = some path) :
    ∃ others, w.search name directories = others ++ [.access path true] := by
  unfold resolved at h
  split at h
  · cases h
  · next hname =>
    obtain ⟨front, d, back, rfl, rfl, hnul, hexec, hfront⟩ := firstExecutable_eq_some_iff.mp h
    have hlast : w.asked name (d :: back) = [candidate d name] := by simp [asked, hnul, hexec]
    rw [search, if_neg hname, hfront.asked_append, hlast, List.map_append]
    exact ⟨_, by rw [List.map_singleton, hexec]⟩

theorem World.mem_search {w : World} {name : Text} {directories : List Text} {e : Event}
    (h : e ∈ w.search name directories) : ∃ path executable, e = .access path executable := by
  unfold search at h
  split at h
  · cases h
  · obtain ⟨path, -, rfl⟩ := List.mem_map.mp h
    exact ⟨path, _, rfl⟩

/-- A call of a command is a question of its search, enters a directory, opens or closes its
    target, or comes with the answer of the system. -/
theorem Command.mem_calls {w : World} {c : Command} {path : List Text} {pid : Pid} {e : Event}
    (h : e ∈ c.calls w path pid) :
    (∃ p executable, e = .access p executable) ∨ (∃ d, e = .chdir d) ∨
      (∃ t, e = .openTarget t ∨ e = .closeTarget t) ∨
      Builtin.named? c.name = none ∧ ∃ program answer,
        c.verdict w path = .answered program answer ∧ e ∈ answer.calls c w pid program := by
  unfold calls at h
  cases hname : Builtin.named? c.name with
  | some b =>
    rw [hname] at h
    dsimp only at h
    unfold Builtin.calls at h
    split at h
    · split at h
      · exact Or.inr (Or.inl ⟨_, List.mem_singleton.mp h⟩)
      · cases h
    · cases h
  | none =>
    rw [hname] at h
    rcases List.mem_append.mp h with h | h
    · exact Or.inl (World.mem_search h)
    · cases hverdict : c.verdict w path with
      | notFound => simp [hverdict, Verdict.calls] at h
      | targetRefused f => simp [hverdict, Verdict.calls] at h
      | answered program answer =>
        rw [hverdict, Verdict.calls] at h
        rcases List.mem_append.mp h with h | h
        · rcases List.mem_append.mp h with h | h
          · obtain ⟨t, -, rfl⟩ := List.mem_map.mp h
            exact Or.inr (Or.inr (Or.inl ⟨t, Or.inl rfl⟩))
          · exact Or.inr (Or.inr (Or.inr ⟨rfl, program, answer, rfl, h⟩))
        · obtain ⟨t, -, rfl⟩ := List.mem_map.mp h
          exact Or.inr (Or.inr (Or.inl ⟨t, Or.inr rfl⟩))

namespace Action

section Calls

variable (w : World) (s : Session)

/-! ### Searching and launching -/

theorem searchDirectories_events (name : Text) (directories : List Text) :
    (searchDirectories name directories w s).trace.events =
      (w.asked name directories).map fun path => .access path (w.executable path) := by
  induction directories with
  | nil => rfl
  | cons d rest ih =>
    unfold searchDirectories World.asked
    dsimp only
    cases hnul : (candidate d name).hasNul with
    | true => exact ih
    | false =>
      rw [if_neg Bool.false_ne_true, if_neg Bool.false_ne_true, bind_ok (access_apply w s hnul)]
      cases hexec : w.executable (candidate d name) with
      | true =>
        simp only [if_true, bind_ok (log_apply w s _ _ _), Trace.events_append, List.map_cons,
          List.map_nil, hexec]
        rfl
      | false =>
        simp only [Bool.false_eq_true, if_false, Trace.events_append, List.map_cons, hexec, ih]
        rfl

theorem resolve_events (name : Text) (directories : List Text) :
    (resolve name directories w s).trace.events = w.search name directories := by
  unfold resolve World.search
  split
  · rfl
  · exact searchDirectories_events w s name directories

theorem refuse_events {α : Type} (name reason : Text) (target : Option Text) :
    ((refuse name reason target : Action α) w s).trace.events =
      if (target.bind (w.writeFault
          ((Failure.exec name reason).render ++ Text.ofString "\n"))).isSome then []
      else target.toList.flatMap fun t =>
        [.writeTarget t ((Failure.exec name reason).render ++ Text.ofString "\n"),
          .flushTarget t] := by
  rw [refuse_apply]
  cases target with
  | none => rfl
  | some t =>
    rw [Option.bind_some]
    cases w.writeFault _ t <;> simp [Trace.events]

theorem startOrRefuse_events {c : Command} (hargs : c.args.head? = some c.name) (path : Text) :
    (startOrRefuse path c.args c.target w s).trace.events =
      (w.startAnswer path c.args).calls c w s.nextPid path := by
  obtain ⟨rest, hrest⟩ := List.head?_eq_some_iff.mp hargs
  rw [hrest, startOrRefuse_apply]
  cases w.startAnswer path (c.name :: rest) with
  | started ending => simp [StartAnswer.calls, Trace.events, hrest]
  | unforked e => rfl
  | broken kind text => rfl
  | refused reason => exact refuse_events w s c.name reason c.target

/-- A launch searches, and then makes the calls of its verdict. -/
theorem launch_events {c : Command} (directories : List Text)
    (hargs : c.args.head? = some c.name) :
    (launch c directories w s).trace.events =
      w.search c.name directories ++ (c.verdict w directories).calls c w s.nextPid := by
  obtain ⟨rest, hrest⟩ := List.head?_eq_some_iff.mp hargs
  rw [launch_apply, Command.verdict]
  cases w.resolved c.name directories with
  | none =>
    dsimp only
    rw [resolve_events]
    exact (List.append_nil _).symm
  | some path =>
    dsimp only
    rw [Trace.events_append, resolve_events]
    congr 1
    cases hopen : c.target.bind w.openFault with
    | some f =>
      rw [spawn_unopened w s path c.args hopen]
      rfl
    | none =>
      obtain ⟨-, -, hevents⟩ := spawn_spec w s path c.name rest hopen
      rw [← hrest] at hevents
      rw [hevents, startOrRefuse_events w s hargs]
      rfl

/-! ### Built-ins -/

theorem chdir_apply (d : Text) :
    chdir d w s =
      match w.entryFault d with
      | none => ⟨.ok (), s, [.event (.chdir d)]⟩
      | some f => ⟨.error f, s, []⟩ := by
  unfold chdir refuseNul World.entryFault
  split
  · rfl
  · rw [bind_ok (done_apply w s ()), bind_ok (world_apply w s)]
    cases w.directory d <;> rfl

theorem report_events (e : ShellError) : (report e w s).trace.events = [] :=
  Trace.events_eq_nil fun _ he => report_leaves e w s _ he

theorem reporting_events (a : Action Unit) :
    (reporting a w s).trace.events = (a w s).trace.events := by
  unfold reporting
  rw [attempt_bind, Trace.events_append]
  cases (a w s).result with
  | ok u => exact List.append_nil _
  | error f =>
    cases f with
    | reported e =>
      dsimp only
      rw [report_events, List.append_nil]
    | _ => exact List.append_nil _

theorem changeDirectory_events (operands : List Text) :
    (changeDirectory operands w s).trace.events = Builtin.cd.calls w operands := by
  unfold changeDirectory
  split
  · next d =>
    rw [attempt_bind, chdir_apply, Builtin.calls]
    cases w.entryFault d <;> rfl
  · next hone =>
    unfold Builtin.calls
    split
    · exact absurd rfl (hone _)
    · rfl

theorem runBuiltin_events (b : Builtin) (c : Command) :
    (runBuiltin b c w s).trace.events = b.calls w c.operands := by
  unfold runBuiltin
  rw [bind_ok (log_apply w s _ _ _), Trace.events_append, reporting_events]
  cases b with
  | exit =>
    cases c.operands <;> rfl
  | cd => exact changeDirectory_events w s c.operands
  | path => rfl

/-! ### A command -/

/-- The calls of a command are those that the world fixes. -/
theorem runCommand_events {c : Command} (hargs : c.args.head? = some c.name) :
    (runCommand c w s).trace.events = c.calls w s.path s.nextPid := by
  unfold Command.calls
  cases hname : Builtin.named? c.name with
  | some b => rw [(runCommand_of_builtin w s hname).2.2, runBuiltin_events]
  | none =>
    dsimp only
    rw [← launch_events w s s.path hargs, runCommand_external_apply w s hname]
    cases (launch c s.path w s).result with
    | ok child => rfl
    | error f =>
      cases f with
      | reported e =>
        dsimp only
        rw [Trace.events_append, report_events, List.append_nil]
      | _ => rfl

end Calls

end Action

end LineShell
