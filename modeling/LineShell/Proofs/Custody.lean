/-
  LineShell/Proofs/Custody.lean
  =============================
  **Every child belongs to its line.**

  A line waits for children of its own only, in the order in which it has started
  them, and for none of them twice; whether it comes to all of them depends on how it
  ends (`LineReaps`, `runLine_reaps`).

  A run of many lines adds nothing to that, since what lies between its lines starts
  and awaits nobody.  The children are numbered through the whole run, so that the
  numbers of two lines never meet.  `runs_reap_in_turn` says so of every batch file and
  of every run of the loop, whatever breaks on the way.
-/
import LineShell.Proofs.Drives

namespace LineShell

/-- Whom a line has waited for, among the children that it has started. -/
structure LineReaps (o : Outcome LineResult) : Prop where
  inOrder : o.trace.waitedPids <+: o.trace.spawnedPids
  returned : ∀ r, o.result = .ok r → o.trace.waitedPids = o.trace.spawnedPids
  left : ∀ status, o.result = .error (.exit status) → o.trace.waitedPids = []

/-- A run comes to the line in session `s₁`, with `earlier` behind it and `later` ahead. -/
structure LineAt (w : World) (s : Session) (lines : List Text) (t : Trace) (line : Text)
    (s₁ : Session) (earlier later : Trace) : Prop where
  position : ∃ done rest, lines = done ++ line :: rest ∧ Driven w s done s₁ earlier
  whole : t = earlier ++ ((Action.runLine line w s₁).trace ++ later)

/-- The children of a run, and who waits for them. -/
structure ReapsInTurn (w : World) (s : Session) (lines : List Text) (t : Trace) : Prop where
  /-- The numbers follow one another from the next one of the session. -/
  numbered : t.spawnedPids = List.range' s.nextPid t.spawnedPids.length
  once : t.waitedPids.Nodup
  /-- A wait belongs to the line that has started the child before it. -/
  atHome : ∀ before after pid, t = before ++ .event (.wait pid) :: after →
    ∃ line s₁ earlier later own more, LineAt w s lines t line s₁ earlier later ∧
      before = earlier ++ own ∧
      (Action.runLine line w s₁).trace = own ++ .event (.wait pid) :: more ∧
      after = more ++ later ∧ pid ∈ own.spawnedPids
  eachLine : ∀ line s₁ earlier later, LineAt w s lines t line s₁ earlier later →
    LineReaps (Action.runLine line w s₁)

/-! ### One line -/

theorem Action.reaped_isPrefix (steps : List Step) (fault : Option Fault) :
    reaped steps fault <+: Step.children steps := by
  unfold reaped
  split
  · exact List.nil_prefix
  · exact awaited_isPrefix _

theorem runLine_reaps (w : World) (s : Session) (line : Text) :
    LineReaps (Action.runLine line w s) := by
  obtain ⟨steps, fault, s', noted, t, waits, hline⟩ := exists_lineRun w s line
  have hspawned := hline.started.spawnedPids
  have hwaited := hline.waitedPids
  constructor
  · rw [hwaited, hspawned]
    exact (Action.reaped_isPrefix steps fault).map Child.pid
  · intro r hreturns
    rw [hline.result] at hreturns
    obtain ⟨rfl, hunbroken, -⟩ := Action.lineEnding_eq_ok_iff.mp hreturns
    rw [hwaited, hspawned, Action.reaped_eq_children (by simp) hunbroken]
  · intro status hleaves
    rw [hline.result] at hleaves
    obtain rfl := Action.lineEnding_eq_exit_iff.mp hleaves
    exact hwaited

/-- When a line begins to wait, all its children have been started. -/
theorem runLine_spawned_before_wait {w : World} {s : Session} {line : Text} {own more : Trace}
    {pid : Pid} (ht : (Action.runLine line w s).trace = own ++ .event (.wait pid) :: more) :
    pid ∈ own.spawnedPids := by
  obtain ⟨steps, fault, s', noted, t, waits, hline⟩ := exists_lineRun w s line
  have hmem : pid ∈ (Action.runLine line w s).trace.spawnedPids := by
    apply (runLine_reaps w s line).inOrder.subset
    rw [ht, Trace.waitedPids_append]
    exact List.mem_append_right _ List.mem_cons_self
  have hquiet : Trace.spawnedPids more = [] := by
    rw [hline.outcome] at ht
    -- the wait is neither among what was noted nor among the calls of the commands
    rcases append_eq_append_cons ht with ⟨rest, hnoted, -⟩ | ⟨rest, -, hlater⟩
    · have hcall : Event.wait pid ∈ noted.events := Trace.mem_events.mpr (by simp [hnoted])
      rw [hline.notedEvents] at hcall
      cases hcall
    rcases append_eq_append_cons hlater with ⟨rest', hran, -⟩ | ⟨rest', -, hwaits⟩
    · have hcall : pid ∈ t.waitedPids :=
        Trace.wait_mem_events.mp (Trace.mem_events.mpr (by simp [hran]))
      rw [Trace.waitedPids_eq_nil hline.ran.leaves] at hcall
      cases hcall
    refine Trace.filterMap_events_eq_nil fun e he => ?_
    have hcall : e ∈ waits.events := Trace.mem_events.mpr (by simp [hwaits, he])
    rw [hline.waitEvents, List.mem_map] at hcall
    obtain ⟨child, -, rfl⟩ := hcall
    rfl
  rw [ht, Trace.spawnedPids_append] at hmem
  rcases List.mem_append.mp hmem with hown | hlater
  · exact hown
  · have : pid ∈ Trace.spawnedPids more := hlater
    rw [hquiet] at this
    cases this

/-! ### Runs of lines -/

theorem Entry.OfPause.not_call {e : Entry} (h : e.OfPause) :
    (∀ pid path argv out err, e ≠ .event (.spawn pid path argv out err)) ∧
      ∀ pid, e ≠ .event (.wait pid) := by
  constructor
  · rintro pid path argv out err rfl
    exact h
  · rintro pid rfl
    exact h

theorem Trace.spawns_eq_nil_of_pause {t : Trace} (h : ∀ e ∈ t, e.OfPause) : t.spawns = [] := by
  refine filterMap_events_eq_nil fun e he => ?_
  cases e with
  | spawn pid path argv out err => exact absurd rfl ((h _ he).not_call.1 pid path argv out err)
  | _ => rfl

theorem Trace.waitedPids_eq_nil_of_pause {t : Trace} (h : ∀ e ∈ t, e.OfPause) :
    t.waitedPids = [] := by
  refine filterMap_events_eq_nil fun e he => ?_
  cases e with
  | wait pid => exact absurd rfl ((h _ he).not_call.2 pid)
  | _ => rfl

namespace Driven

variable {w : World} {s s' : Session} {lines : List Text} {t : Trace}

/-- The children of a run are those of its lines, one line after another. -/
theorem started (h : Driven w s lines s' t) : ∃ children, Started w s t s' children := by
  induction h with
  | nil => exact ⟨[], .nil rfl rfl⟩
  | pause hown _ ih =>
    obtain ⟨children, hchildren⟩ := ih
    exact ⟨[] ++ children, (Started.nil (Trace.spawns_eq_nil_of_pause hown) rfl).append hchildren⟩
  | @line s s' line rest t _ ih =>
    obtain ⟨children, hchildren⟩ := ih
    obtain ⟨steps, fault, s₁, noted, t', waits, hline⟩ := exists_lineRun w s line
    rw [hline.session] at hchildren
    exact ⟨_, hline.started.append hchildren⟩

/-- The waits of a run are among its starts, in the same order. -/
theorem waited_sublist (h : Driven w s lines s' t) : t.waitedPids.Sublist t.spawnedPids := by
  induction h with
  | nil => exact List.Sublist.refl _
  | pause hown _ ih =>
    rw [Trace.waitedPids_append, Trace.spawnedPids_append, Trace.waitedPids_eq_nil_of_pause hown]
    exact ih.trans (List.sublist_append_right _ _)
  | @line s s' line rest t _ ih =>
    rw [Trace.waitedPids_append, Trace.spawnedPids_append]
    exact (runLine_reaps w s line).inOrder.sublist.append ih

/-- A wait of a run lies in one of its lines. -/
theorem exists_line (h : Driven w s lines s' t) {before after : Trace} {pid : Pid}
    (ht : t = before ++ .event (.wait pid) :: after) :
    ∃ line s₁ earlier later own more, LineAt w s lines t line s₁ earlier later ∧
      before = earlier ++ own ∧
      (Action.runLine line w s₁).trace = own ++ .event (.wait pid) :: more ∧
      after = more ++ later := by
  induction h generalizing before with
  | nil => simp at ht
  | @pause s s' lines own t hown _ ih =>
    rcases append_eq_append_cons ht with ⟨rest, hmem, -⟩ | ⟨rest, rfl, hlater⟩
    · exact absurd rfl ((hown (.event (.wait pid)) (by simp [hmem])).not_call.2 pid)
    · obtain ⟨line, s₁, earlier, later, own', more, hat, rfl, htrace, rfl⟩ := ih hlater
      obtain ⟨done, rest', hlines, hdone⟩ := hat.position
      refine ⟨line, s₁, own ++ earlier, later, own', more,
        ⟨⟨done, rest', hlines, .pause hown hdone⟩, ?_⟩, ?_, htrace, rfl⟩
      · rw [List.append_assoc, ← hat.whole]
      · rw [List.append_assoc]
  | @line s s' line rest t _ ih =>
    rcases append_eq_append_cons ht with ⟨more, hmem, rfl⟩ | ⟨more, rfl, hlater⟩
    · exact ⟨line, s, [], t, before, more, ⟨⟨[], rest, rfl, .nil⟩, rfl⟩, rfl, hmem, rfl⟩
    · obtain ⟨line', s₁, earlier, later, own', more', hat, rfl, htrace, rfl⟩ := ih hlater
      obtain ⟨done, rest', rfl, hdone⟩ := hat.position
      refine ⟨line', s₁, (Action.runLine line w s).trace ++ earlier, later, own', more',
        ⟨⟨line :: done, rest', rfl, .line hdone⟩, ?_⟩, ?_, htrace, rfl⟩
      · rw [List.append_assoc, ← hat.whole]
      · rw [List.append_assoc]

theorem reapsInTurn {all : List Text} (hlines : lines <+: all) (h : Driven w s lines s' t) :
    ReapsInTurn w s all t := by
  obtain ⟨children, hchildren⟩ := h.started
  have hspawned := hchildren.spawnedPids
  constructor
  · rw [hspawned, List.length_map]
    exact hchildren.pids
  · apply h.waited_sublist.nodup
    rw [hspawned]
    exact hchildren.nodup
  · intro before after pid ht
    obtain ⟨line, s₁, earlier, later, own, more, hat, hbefore, htrace, hafter⟩ := h.exists_line ht
    obtain ⟨done, rest, rfl, hdone⟩ := hat.position
    obtain ⟨unread, rfl⟩ := hlines
    exact ⟨line, s₁, earlier, later, own, more,
      ⟨⟨done, rest ++ unread, by simp, hdone⟩, hat.whole⟩, hbefore, htrace, hafter,
      runLine_spawned_before_wait htrace⟩
  · intro line s₁ earlier later _
    exact runLine_reaps w s₁ line

end Driven

/-- In every run of a batch file and of the loop, each child is awaited at most once, by
    the line that has started it and in its turn. -/
theorem runs_reap_in_turn (w : World) (s : Session) :
    (∀ content, ReapsInTurn w s (Text.decode content).lines
        (Action.runScript content w s).trace) ∧
      ∀ prompt history inputs, ReapsInTurn w s (inputLines inputs)
        (Action.interactive prompt history inputs w s).trace := by
  constructor
  · intro content
    obtain ⟨reached, hreached, hdriven⟩ := Action.runScript_driven w content s
    exact hdriven.reapsInTurn hreached
  · intro prompt history inputs
    obtain ⟨reached, hreached, hdriven⟩ := Action.interactive_driven w prompt history inputs s
    exact hdriven.reapsInTurn hreached

end LineShell
