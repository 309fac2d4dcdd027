/-
  LineShell/Proofs/Barrier.lean
  =============================
  **The barrier between interactive lines.**

  Whenever the loop reads an input, every child of the lines before it should have
  been awaited once (`Trace.SettledAtReads`).

  A run of the loop is a sequence of rounds, each ending with the next read
  (`Rounds`, `interact_rounds`).  Children are numbered through the whole run, so the
  barrier holds of a run when it holds of each round on its own; and a round is
  settled unless a wait in it breaks while there are children behind
  (`settledAtReads_iff`).  Such a wait makes the line forget the others, and the loop
  goes on.
-/
import LineShell.Proofs.Drives

namespace LineShell

/-! ### Reads and rounds -/

namespace Trace

/-- Every child that was started has been awaited once. -/
def Settled (t : Trace) : Prop := ∀ pid ∈ t.spawnedPids, t.waitedPids.count pid = 1

/-- At every read, all children so far are settled. -/
def SettledAtReads (t : Trace) : Prop :=
  ∀ (before after : Trace) (text : Text), t = before ++ .prompt text :: after → before.Settled

/-- The stretches of a trace between its reads; the last one is followed by none. -/
def rounds (t : Trace) : List Trace := Text.cutWhere Entry.isPrompt t

/-- A stretch without a read. -/
def Quiet (t : Trace) : Prop := ∀ e ∈ t, e.isPrompt = false

theorem rounds_of_quiet {t : Trace} (h : t.Quiet) : t.rounds = [t] := Text.cutWhere_eq_self h

theorem dropLast_rounds {round t : Trace} {text : Text} (h : round.Quiet) :
    (rounds (round ++ .prompt text :: t)).dropLast = round :: t.rounds.dropLast := by
  have hcut : rounds (round ++ .prompt text :: t) = round.rounds ++ t.rounds :=
    Text.cutWhere_append_separator _ round t rfl
  rw [hcut, rounds_of_quiet h]
  exact List.dropLast_append_of_ne_nil (Text.cutWhere_ne_nil _ _)

/-- Where the reads of a trace are: the first one ends a quiet stretch, and the others
    come after it. -/
theorem eq_append_prompt_iff {round t before after : Trace} {text text' : Text}
    (h : round.Quiet) :
    round ++ .prompt text :: t = before ++ .prompt text' :: after ↔
      before = round ∧ text = text' ∧ t = after ∨
        ∃ more, before = round ++ .prompt text :: more ∧ t = more ++ .prompt text' :: after := by
  constructor
  · intro heq
    rcases append_eq_append_cons heq with ⟨rest, hround, -⟩ | ⟨more, hbefore, hrest⟩
    · -- the read would lie inside the quiet stretch
      have := h (.prompt text') (by simp [hround])
      cases this
    · cases more with
      | nil =>
        obtain ⟨hprompt, hafter⟩ := List.cons.inj hrest
        exact Or.inl ⟨by simpa using hbefore, Entry.prompt.inj hprompt, hafter⟩
      | cons e more =>
        obtain ⟨rfl, ht⟩ := List.cons.inj hrest
        exact Or.inr ⟨more, hbefore, ht⟩
  · rintro (⟨rfl, rfl, rfl⟩ | ⟨more, rfl, rfl⟩)
    · rfl
    · simp

theorem settled_append {t t' : Trace} (h : ∀ pid ∈ t.spawnedPids, pid ∉ t'.waitedPids)
    (h' : ∀ pid ∈ t'.spawnedPids, pid ∉ t.waitedPids) :
    Settled (t ++ t') ↔ t.Settled ∧ t'.Settled := by
  have hfirst : ∀ pid ∈ t.spawnedPids,
      (waitedPids (t ++ t')).count pid = t.waitedPids.count pid := by
    intro pid hpid
    rw [waitedPids_append, List.count_append, List.count_eq_zero.mpr (h pid hpid), Nat.add_zero]
  have hsecond : ∀ pid ∈ t'.spawnedPids,
      (waitedPids (t ++ t')).count pid = t'.waitedPids.count pid := by
    intro pid hpid
    rw [waitedPids_append, List.count_append, List.count_eq_zero.mpr (h' pid hpid), Nat.zero_add]
  unfold Settled
  rw [spawnedPids_append, List.forall_mem_append]
  constructor
  · rintro ⟨ht, ht'⟩
    exact ⟨fun pid hpid => hfirst pid hpid ▸ ht pid hpid,
      fun pid hpid => hsecond pid hpid ▸ ht' pid hpid⟩
  · rintro ⟨ht, ht'⟩
    exact ⟨fun pid hpid => (hfirst pid hpid).trans (ht pid hpid),
      fun pid hpid => (hsecond pid hpid).trans (ht' pid hpid)⟩

end Trace

/-! ### The rounds of a run -/

/-- A stretch of a run in which these children were started, and then awaited in order
    up to the first wait that breaks. -/
structure Round (w : World) (s : Session) (t : Trace) (s' : Session) (children : List Child) :
    Prop where
  quiet : t.Quiet
  started : Started w s t s' children
  waited : t.waitedPids = (awaited children).map Child.pid

/-- A run that reads after each of its rounds but the last.  What happens after the
    last read is left open. -/
inductive Rounds (w : World) : Session → Trace → Prop
  | last {s : Session} {t : Trace} (hquiet : t.Quiet) : Rounds w s t
  | next {s s' : Session} {round t : Trace} {children : List Child} {text : Text}
      (hround : Round w s round s' children) (hrest : Rounds w s' t) :
      Rounds w s (round ++ .prompt text :: t)

namespace Round

variable {w : World} {s s' : Session} {t : Trace} {children : List Child}

theorem waited_subset (h : Round w s t s' children) : t.waitedPids ⊆ children.map Child.pid := by
  rw [h.waited]
  exact ((awaited_isPrefix children).map Child.pid).subset

theorem settled_iff_awaited (h : Round w s t s' children) :
    t.Settled ↔ awaited children = children := by
  unfold Trace.Settled
  rw [h.started.spawnedPids, h.waited]
  constructor
  · intro hsettled
    have hsub : children.map Child.pid ⊆ (awaited children).map Child.pid := by
      intro pid hpid
      have hone := hsettled pid hpid
      exact List.count_pos_iff.mp (by omega)
    have hlength := h.started.nodup.length_le_of_subset hsub
    rw [List.length_map, List.length_map] at hlength
    exact (awaited_isPrefix children).eq_of_length_le hlength
  · intro hall pid hpid
    rw [hall, h.started.nodup.count, if_pos hpid]

/-- A round is settled when no child is behind one whose wait breaks. -/
theorem settled_iff (h : Round w s t s' children) :
    t.Settled ↔ t.spawns.Pairwise fun child _ => ¬ w.BreaksWait child.2 := by
  rw [h.settled_iff_awaited, awaited_eq_self_iff, h.started.spawns, List.pairwise_map]
  refine List.Pairwise.iff_of_mem fun {child _} hchild _ => ?_
  exact Child.breakage?_eq_none_iff (h.started.endings child hchild)

theorem append_notice (h : Round w s t s' children) {said : Trace}
    (hsaid : ∀ e ∈ said, e.OfNotice) : Round w s (t ++ said) s' children := by
  have hevents := Trace.events_eq_nil fun e he => hsaid (.event e) he
  refine ⟨?_, ?_, ?_⟩
  · intro e he
    rcases List.mem_append.mp he with he | he
    · exact h.quiet e he
    · have hnotice := hsaid e he
      cases e <;> simp_all [Entry.OfNotice, Entry.isPrompt]
  · have hnobody : Started w s' said s' [] := .nil (by rw [Trace.spawns, hevents]; rfl) rfl
    simpa using h.started.append hnobody
  · have hnobody : said.waitedPids = [] := by rw [Trace.waitedPids, hevents]; rfl
    rw [Trace.waitedPids_append, hnobody, List.append_nil, h.waited]

end Round

namespace Rounds

variable {w : World} {s : Session} {t : Trace}

/-- Before a read only children of the run have been started and awaited. -/
theorem before_read (h : Rounds w s t) {before after : Trace} {text : Text}
    (ht : t = before ++ .prompt text :: after) :
    ∃ s' children, Started w s before s' children ∧
      before.waitedPids ⊆ children.map Child.pid := by
  induction h generalizing before with
  | last hquiet =>
    have := hquiet (.prompt text) (by simp [ht])
    cases this
  | @next s s' round t children text' hround hrest ih =>
    rcases (Trace.eq_append_prompt_iff hround.quiet).mp ht with ⟨rfl, -, -⟩ | ⟨more, rfl, hmore⟩
    · exact ⟨s', children, hround.started, hround.waited_subset⟩
    · obtain ⟨s'', others, hothers, hsub⟩ := ih hmore
      have hread : Started w s' (.prompt text' :: more) s'' others :=
        ⟨hothers.spawns, hothers.pids, hothers.spawned, hothers.endings⟩
      refine ⟨s'', children ++ others, hround.started.append hread, ?_⟩
      rw [Trace.waitedPids_append, List.map_append]
      exact List.append_subset.mpr ⟨List.subset_append_of_subset_left _ hround.waited_subset,
        List.subset_append_of_subset_right _ hsub⟩

/-- What is settled up to a later read is settled in the round and after it, since a
    round and what follows it have no process number in common. -/
theorem settled_round_append {s' : Session} {round : Trace} {children : List Child}
    {text : Text} (hround : Round w s round s' children) (h : Rounds w s' t)
    {more after : Trace} {text' : Text} (hmore : t = more ++ .prompt text' :: after) :
    Trace.Settled (round ++ .prompt text :: more) ↔ round.Settled ∧ more.Settled := by
  obtain ⟨s'', others, hothers, hsub⟩ := h.before_read hmore
  have hdisjoint : ∀ pid ∈ children.map Child.pid, pid ∉ others.map Child.pid := by
    intro pid hpid hpid'
    exact absurd (hround.started.pid_mem_range hpid).2
      (Nat.not_lt.mpr (hothers.pid_mem_range hpid').1)
  refine Trace.settled_append (fun pid hpid hpid' => ?_) fun pid hpid hpid' => ?_
  · rw [hround.started.spawnedPids] at hpid
    exact hdisjoint pid hpid (hsub hpid')
  · have hpid : pid ∈ others.map Child.pid := hothers.spawnedPids ▸ hpid
    exact hdisjoint pid (hround.waited_subset hpid') hpid

/-- A run is settled at its reads when each round is settled on its own. -/
theorem settledAtReads_iff (h : Rounds w s t) :
    t.SettledAtReads ↔
      ∀ round ∈ t.rounds.dropLast, round.spawns.Pairwise fun child _ => ¬ w.BreaksWait child.2 := by
  induction h with
  | @last s t hquiet =>
    refine iff_of_true (fun before after text ht => ?_) ?_
    · have := hquiet (.prompt text) (by simp [ht])
      cases this
    · simp [Trace.rounds_of_quiet hquiet]
  | @next s s' round t children text hround hrest ih =>
    rw [Trace.dropLast_rounds hround.quiet, List.forall_mem_cons, ← ih, ← hround.settled_iff]
    constructor
    · intro hall
      refine ⟨hall round t text rfl, fun more after text' hmore => ?_⟩
      have hlater := hall (round ++ .prompt text :: more) after text' (by simp [hmore])
      exact ((settled_round_append hround hrest hmore).mp hlater).2
    · rintro ⟨hsettled, hlater⟩ before after text' heq
      rcases (Trace.eq_append_prompt_iff hround.quiet).mp heq with ⟨rfl, -, -⟩ | ⟨more, rfl, ht⟩
      · exact hsettled
      · exact (settled_round_append hround hrest ht).mpr ⟨hsettled, hlater more after text' ht⟩

end Rounds

/-! ### The loop runs in rounds -/

theorem exists_round_of_line (w : World) (s : Session) {line : Text}
    (hstays : ∀ status, (Action.runLine line w s).result ≠ .error (.exit status)) :
    ∃ children, Round w s (Action.runLine line w s).trace (Action.runLine line w s).session
      children := by
  obtain ⟨steps, fault, s', noted, t, waits, hline⟩ := exists_lineRun w s line
  have hsession : (Action.runLine line w s).session = s' := by rw [hline.outcome]
  have hfault : ∀ status, fault ≠ some (.exit status) := by
    rintro status rfl
    exact hstays status (by rw [hline.outcome]; rfl)
  refine ⟨Step.children steps, ?_, hsession ▸ hline.started, ?_⟩
  · intro e he
    exact Entry.OfLine.isPrompt_eq_false (Action.runLine_leaves line w s e he)
  · rw [hline.waitedPids, Action.reaped_eq_awaited hfault]

namespace Action

section Loop
variable (w : World) (s : Session)

theorem interact_line (prompt text : Text) (rest : List Input) :
    ∃ t : Trace, (interact prompt (.line text :: rest) w s).trace = .prompt prompt :: t ∧
      (t.Quiet ∨ ∃ round s' children, Round w s round s' children ∧
        t = round ++ (interact prompt rest w s').trace) := by
  rw [interact_line_cons]
  refine ⟨_, rfl, ?_⟩
  cases hresult : (runFirstLine text w s).result with
  | ok r =>
    obtain ⟨children, hround⟩ := exists_round_of_line w s
      fun status hexit => by cases hresult.symm.trans hexit
    exact Or.inr ⟨_, _, children, hround, rfl⟩
  | error f =>
    rcases recover_apply w (runFirstLine text w s).session (interact prompt rest) f with
      ⟨-, result, hends⟩ | ⟨hstays, said, hsaid, hgoes⟩
    · dsimp only
      rw [hends, List.append_nil]
      exact Or.inl fun e he => Entry.OfLine.isPrompt_eq_false (runLine_leaves _ w s e he)
    · obtain ⟨children, hround⟩ := exists_round_of_line w s fun status hexit => by
        obtain rfl := Except.error.inj (hresult.symm.trans hexit)
        cases hstays
      refine Or.inr ⟨_, _, children, hround.append_notice hsaid, ?_⟩
      dsimp only
      rw [hgoes, List.append_assoc]
      rfl

/-- A run of the loop is a read, followed by rounds. -/
theorem interact_rounds (prompt : Text) (inputs : List Input) :
    ∃ t : Trace, (interact prompt inputs w s).trace = .prompt prompt :: t ∧ Rounds w s t := by
  induction inputs generalizing s with
  | nil => exact ⟨[], rfl, .last (by simp [Trace.Quiet])⟩
  | cons input rest ih =>
    cases input with
    | interrupt =>
      obtain ⟨t, ht, hrounds⟩ := ih s
      have hidle : Round w s [.lineEnd] s [] :=
        ⟨by simp [Trace.Quiet, Entry.isPrompt], .nil rfl rfl, rfl⟩
      refine ⟨[.lineEnd] ++ .prompt prompt :: t, ?_, .next hidle hrounds⟩
      rw [← ht]
      rfl
    | line text =>
      obtain ⟨t, ht, hquiet | ⟨round, s', children, hround, hgoes⟩⟩ :=
        interact_line w s prompt text rest
      · exact ⟨t, ht, .last hquiet⟩
      · obtain ⟨t', ht', hrounds⟩ := ih s'
        refine ⟨t, ht, ?_⟩
        rw [hgoes, ht']
        exact .next hround hrounds

theorem openHistory_round (h : History) : Round w s (openHistory h w s).trace s [] := by
  have hleaves := openHistory_leaves h w s
  refine ⟨fun e he => ?_, .nil ?_ rfl, ?_⟩
  · have hentry := hleaves e he
    cases e with
    | prompt text => cases hentry
    | _ => rfl
  · refine Trace.filterMap_events_eq_nil fun e he => ?_
    have hentry := hleaves _ he
    cases e with
    | spawn pid path argv out err => cases hentry
    | _ => rfl
  · refine Trace.filterMap_events_eq_nil fun e he => ?_
    have hentry := hleaves _ he
    cases e with
    | wait pid => cases hentry
    | _ => rfl

/-- The whole run is made of rounds. -/
theorem interactive_rounds (prompt : Text) (history : Option History) (inputs : List Input) :
    Rounds w s (interactive prompt history inputs w s).trace := by
  obtain ⟨t, ht, hrounds⟩ := interact_rounds w s prompt inputs
  cases history with
  | none =>
    have hidle : Round w s [] s [] := ⟨by simp [Trace.Quiet], .nil rfl rfl, rfl⟩
    have hrun : (interactive prompt none inputs w s).trace = [] ++ .prompt prompt :: t := ht
    rw [hrun]
    exact .next hidle hrounds
  | some h =>
    have hopen := openHistory_round w s h
    have hrun : interactive prompt (some h) inputs w s = _ :=
      bind_apply w s (openHistory h) fun _ => interact prompt inputs
    rw [hrun, (openHistory_spec w s h).2]
    cases (openHistory h w s).result with
    | error f => exact .last hopen.quiet
    | ok u =>
      dsimp only
      rw [ht]
      exact .next hopen hrounds

end Loop

end Action

theorem interactive_settledAtReads_iff (w : World) (s : Session) (prompt : Text)
    (history : Option History) (inputs : List Input) :
    (Action.interactive prompt history inputs w s).trace.SettledAtReads ↔
      ∀ round ∈ (Action.interactive prompt history inputs w s).trace.rounds.dropLast,
        round.spawns.Pairwise fun child _ => ¬ w.BreaksWait child.2 :=
  (Action.interactive_rounds w s prompt history inputs).settledAtReads_iff

/-! ### A wait that breaks -/

/-- The wait for `/bin/a` breaks. -/
def World.brokenWait : World :=
  ofPrograms [(Text.ofString "/bin/a", ⟨.starts, .breaks .runtime (Text.ofString "boom")⟩),
    (Text.ofString "/bin/b", .ordinary), (Text.ofString "/bin/c", .ordinary)]

/-- The child `b` is not awaited before the second read, nor ever after. -/
theorem brokenWait_passes_barrier :
    let t := (Action.interactive defaultPrompt none
      [.line (Text.ofString "a & b"), .line (Text.ofString "c")] World.brokenWait
      (.start defaultPath)).trace
    ¬ t.SettledAtReads ∧ t.spawnedPids = [101, 102, 103] ∧ t.waitedPids = [101, 103] := by
  intro t
  refine ⟨fun hsettled => ?_, by decide +kernel, by decide +kernel⟩
  -- the first line leaves 13 entries, and so the second read is entry 14
  have hspawned : Trace.spawnedPids (t.take 14) = [101, 102] := by decide +kernel
  have hwaited : Trace.waitedPids (t.take 14) = [101] := by decide +kernel
  have hread := hsettled (t.take 14) (t.drop 15) defaultPrompt (by decide +kernel) 102
    (by simp [hspawned])
  rw [hwaited] at hread
  cases hread

end LineShell
