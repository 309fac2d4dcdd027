/-
  LineShell/Proofs/Ledger.lean
  ============================
  **The children that a stretch of a run started.**

  `Started w s t s' children` ties three accounts of the same children to each other:
  the handles that the shell keeps, the calls in the trace, and the count in the
  session from which the next process number is taken.  The ledger of two stretches
  in a row is the ledger of the first followed by that of the second
  (`Started.append`), so it extends to every run from a single launch
  (`launch_started`).
-/
import LineShell.Proofs.Verdict

namespace LineShell

/-- Exactly these children were started, in this order, on the way from session `s`
    to session `s'`, which left the trace `t`. -/
structure Started (w : World) (s : Session) (t : Trace) (s' : Session) (children : List Child) :
    Prop where
  /-- The trace names each child by its number and its program. -/
  spawns : t.spawns = children.map fun child => (child.pid, child.path)
  /-- The numbers follow one another from the next one of the session. -/
  pids : children.map Child.pid = List.range' s.nextPid children.length
  /-- The session has counted them. -/
  spawned : s'.spawned = s.spawned + children.length
  /-- Each child will end as the world has its program end. -/
  endings : ∀ child ∈ children, (w.program child.path).map Program.ending = some child.ending

namespace Started

variable {w : World} {s s' s'' : Session} {t t' : Trace} {children more : List Child}

theorem nil (hspawns : t.spawns = []) (hspawned : s'.spawned = s.spawned) :
    Started w s t s' [] where
  spawns := hspawns
  pids := rfl
  spawned := hspawned
  endings := by simp

theorem nextPid_eq (h : Started w s t s' children) :
    s'.nextPid = s.nextPid + children.length := by
  rw [Session.nextPid, Session.nextPid, h.spawned, Nat.add_assoc]

theorem append (h : Started w s t s' children) (hmore : Started w s' t' s'' more) :
    Started w s (t ++ t') s'' (children ++ more) where
  spawns := by rw [Trace.spawns_append, h.spawns, hmore.spawns, List.map_append]
  pids := by
    rw [List.map_append, h.pids, hmore.pids, h.nextPid_eq, List.length_append, List.range'_append_1]
  spawned := by rw [hmore.spawned, h.spawned, List.length_append, Nat.add_assoc]
  endings := by
    intro child hchild
    rcases List.mem_append.mp hchild with hchild | hchild
    · exact h.endings child hchild
    · exact hmore.endings child hchild

theorem spawnedPids (h : Started w s t s' children) :
    t.spawnedPids = children.map Child.pid := by
  rw [Trace.spawnedPids_eq_map_spawns, h.spawns, List.map_map]
  rfl

/-- The process numbers lie between the next ones of the two sessions. -/
theorem pid_mem_range (h : Started w s t s' children) {pid : Pid}
    (hpid : pid ∈ children.map Child.pid) : s.nextPid ≤ pid ∧ pid < s'.nextPid := by
  rw [h.pids, List.mem_range'_1] at hpid
  rw [h.nextPid_eq]
  exact hpid

theorem nodup (h : Started w s t s' children) : (children.map Child.pid).Nodup := by
  rw [h.pids]
  exact List.nodup_range'

end Started

namespace Action

/-- A launch starts the child that it returns, and no other. -/
theorem launch_started (w : World) (s : Session) {c : Command} (directories : List Text)
    (hargs : c.args.head? = some c.name) :
    Started w s (launch c directories w s).trace (launch c directories w s).session
      (launch c directories w s).result.toOption.toList := by
  obtain ⟨hresult, hsession, hspawns⟩ := launch_spec w s directories hargs
  rw [hresult]
  cases hverdict : (c.verdict w directories).result c w s.nextPid with
  | error f =>
    rw [hverdict] at hsession hspawns
    exact .nil hspawns (by rw [hsession]; rfl)
  | ok child =>
    rw [hverdict] at hsession hspawns
    obtain ⟨hpid, hending⟩ := Command.child_of_verdict hverdict
    exact {
      spawns := hspawns
      pids := by simp [Except.toOption, hpid]
      spawned := by rw [hsession]
      endings := by simpa [Except.toOption] using hending }

end Action

end LineShell
