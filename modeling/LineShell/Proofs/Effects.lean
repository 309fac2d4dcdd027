/-
  LineShell/Proofs/Effects.lean
  =============================
  **Which commands change what.**

  The search path is shared by all commands and replaced in the middle of lines that may
  fail later.  Only `path` replaces it, and only when its turn comes; whatever else a line
  does, and however it ends, the path stays (`TurnEffects`).  So it is always the one that
  the last executed `path` has set (`Turns.path`), at every turn and at the end of the run.

  Calls are divided in the same way.  A built-in calls nobody but for `cd`, which enters
  its directory when it can, and the calls of a search and of a launch come from external
  commands.  `runs_have_effects` says so of every run.
-/
import LineShell.Proofs.Provenance

namespace LineShell

/-! ### What a turn does -/

def Event.isChdir : Event → Bool
  | .chdir _ => true
  | _ => false

/-- Does the call belong to the search for a program or to its launch? -/
def Event.isLaunching : Event → Bool
  | .access _ _ | .openTarget _ | .writeTarget _ _ | .flushTarget _ | .closeTarget _
  | .spawn _ _ _ _ _ => true
  | _ => false

/-- The directory that the command enters, if it is a `cd` with one operand that can be
    entered. -/
def Command.entered (w : World) (c : Command) : Option Text :=
  match Builtin.named? c.name, c.operands with
  | some .cd, [d] => if (w.entryFault d).isNone then some d else none
  | _, _ => none

/-- What the turn of a command does to the search path, and whom it calls. -/
structure TurnEffects (w : World) (c : Command) (s : Session) (o : Outcome Step) : Prop where
  path : o.session.path = if Builtin.named? c.name = some .path then c.operands else s.path
  /-- A built-in enters a directory at most; its target is not looked at. -/
  builtin : c.isBuiltin = true → o.trace.events = (c.entered w).toList.map .chdir
  external : c.isBuiltin = false → ∀ e ∈ o.trace.events, e.isLaunching = true

theorem Command.isBuiltin_eq_false_iff {c : Command} :
    c.isBuiltin = false ↔ Builtin.named? c.name = none := by
  simp [isBuiltin]

theorem Builtin.calls_eq_entered {w : World} {c : Command} {b : Builtin}
    (hname : Builtin.named? c.name = some b) :
    b.calls w c.operands = (c.entered w).toList.map .chdir := by
  unfold Command.entered
  rw [hname]
  cases b with
  | cd =>
    rcases c.operands with _ | ⟨d, _ | ⟨d', rest⟩⟩
    · rfl
    · by_cases henter : (w.entryFault d).isNone = true <;> simp [calls, henter]
    · rfl
  | exit => rfl
  | path => rfl

theorem Entry.OfLaunch.isLaunching {e : Event} (h : Entry.OfLaunch (.event e)) :
    e.isLaunching = true := by
  cases e with
  | chdir d => cases h
  | wait pid => cases h
  | historyRead file => cases h
  | historyLength length => cases h
  | historySave file => cases h
  | _ => rfl

theorem runCommand_effects (w : World) (s : Session) {c : Command} (hargs : NamesItself c) :
    TurnEffects w c s (Action.runCommand c w s) := by
  constructor
  · exact Action.runCommand_path w s hargs
  · intro hbuiltin
    obtain ⟨b, hname⟩ := Option.isSome_iff_exists.mp hbuiltin
    rw [Action.runCommand_events w s hargs, Command.calls, hname]
    exact Builtin.calls_eq_entered hname
  · intro hexternal e he
    have hname := Command.isBuiltin_eq_false_iff.mp hexternal
    rw [Action.runCommand_events w s hargs, Command.calls, hname] at he
    dsimp only at he
    rw [← Action.launch_events w s s.path hargs] at he
    exact (Action.launch_leaves c s.path w s _ (Trace.mem_events.mp he)).isLaunching

theorem TurnEffects.chdirs {w : World} {c : Command} {s : Session} {o : Outcome Step}
    (h : TurnEffects w c s o) :
    o.trace.events.filter Event.isChdir = (c.entered w).toList.map .chdir := by
  by_cases hbuiltin : c.isBuiltin = true
  · rw [h.builtin hbuiltin]
    apply List.filter_eq_self.mpr
    simp [Event.isChdir]
  · have hexternal := Bool.eq_false_iff.mpr hbuiltin
    have hnone : c.entered w = none := by
      unfold Command.entered
      rw [Command.isBuiltin_eq_false_iff.mp hexternal]
    rw [hnone]
    apply List.filter_eq_nil_iff.mpr
    intro e he hchdir
    have hlaunching := h.external hexternal e he
    cases e <;> simp [Event.isChdir, Event.isLaunching] at hchdir hlaunching

/-! ### What a run does -/

/-- What a run that comes to these lines does to the search path, and which of its commands
    calls whom. -/
structure RunEffects (w : World) (s : Session) (lines : List Text) (s' : Session) (t : Trace) :
    Prop where
  /-- In the end the last executed `path` has set the search path. -/
  path : s'.path = lastPath s.path (performed w s.path lines)
  /-- Each executed command has its turn, on the path that the last `path` before it has
      set. -/
  turns : ∀ before c, Executed w s.path lines before c →
    ∃ s₁ earlier later, Turns w s before s₁ earlier ∧
      t = earlier ++ ((Action.runCommand c w s₁).trace ++ later) ∧
      s₁.path = lastPath s.path before ∧ TurnEffects w c s₁ (Action.runCommand c w s₁)
  /-- A call that belongs to a launch has been made in the turn of an external command. -/
  launching : ∀ before after e, t = before ++ .event e :: after → e.isLaunching = true →
    ∃ executed c s₁ earlier own more, Executed w s.path lines executed c ∧
      c.isBuiltin = false ∧ Turns w s executed s₁ earlier ∧ before = earlier ++ own ∧
      (Action.runCommand c w s₁).trace = own ++ .event e :: more
  /-- Directories are entered by `cd` alone, each time once and in the order of execution. -/
  chdirs : t.events.filter Event.isChdir =
    ((performed w s.path lines).filterMap (Command.entered w)).map .chdir
  /-- Waiting for children changes nothing in the shell. -/
  waits : ∀ children s₁, (Action.waitAll children w s₁).session = s₁

theorem Entry.OfAside.isChdir_eq_false {e : Event} (h : Entry.OfAside (.event e)) :
    e.isChdir = false := by
  cases e with
  | chdir d => cases h
  | _ => rfl

theorem Entry.not_ofAside_of_isLaunching {e : Event} (h : e.isLaunching = true) :
    ¬ Entry.OfAside (.event e) := by
  intro haside
  cases e <;> simp [Event.isLaunching, Entry.OfAside] at h haside

theorem Executed.namesItself {w : World} {path lines : List Text} {before : List Command}
    {c : Command} (h : Executed w path lines before c) : ∀ d ∈ before ++ [c], NamesItself d := by
  obtain ⟨back, hperformed⟩ := executed_iff.mp h
  intro d hd
  apply performed_namesItself w path lines d
  rw [hperformed]
  rcases List.mem_append.mp hd with hd | hd
  · exact List.mem_append_left _ hd
  · rw [List.mem_singleton.mp hd]
    exact List.mem_append_right _ List.mem_cons_self

theorem Turns.chdirs {w : World} {s s' : Session} {commands : List Command} {t : Trace}
    (h : Turns w s commands s' t) (hnames : ∀ c ∈ commands, NamesItself c) :
    t.events.filter Event.isChdir = (commands.filterMap (Command.entered w)).map .chdir := by
  induction h with
  | nil => rfl
  | @aside s s' commands own t hown _ ih =>
    have hquiet : own.events.filter Event.isChdir = [] := by
      apply List.filter_eq_nil_iff.mpr
      intro e he
      simp [(hown _ (Trace.mem_events.mp he)).isChdir_eq_false]
    rw [Trace.events_append, List.filter_append, hquiet, ih hnames, List.nil_append]
  | @turn s s' c rest t _ ih =>
    obtain ⟨hc, hrest⟩ := List.forall_mem_cons.mp hnames
    rw [Trace.events_append, List.filter_append, (runCommand_effects w s hc).chdirs, ih hrest,
      List.filterMap_cons]
    cases c.entered w <;> rfl

theorem Driven.runEffects {w : World} {s s' : Session} {lines : List Text} {t : Trace}
    (h : Driven w s lines s' t) : RunEffects w s lines s' t := by
  have hnames := performed_namesItself w s.path lines
  constructor
  · exact h.turns.path_eq_lastPath hnames
  · intro before c hexecuted
    obtain ⟨back, hperformed⟩ := executed_iff.mp hexecuted
    obtain ⟨s₁, earlier, later, hbefore, hwhole⟩ := h.turns.exists_split hperformed
    have hown := hexecuted.namesItself
    refine ⟨s₁, earlier, later, hbefore, hwhole, ?_, runCommand_effects w s₁ (hown c (by simp))⟩
    exact hbefore.path_eq_lastPath fun d hd => hown d (List.mem_append_left _ hd)
  · intro before after e ht hlaunching
    obtain ⟨executed, c, back, s₁, earlier, own, more, -, hperformed, hturns, -, hbefore, htrace⟩ :=
      h.turns.exists_turn (Entry.not_ofAside_of_isLaunching hlaunching) ht
    have hexecuted := executed_iff.mpr ⟨back, hperformed⟩
    refine ⟨executed, c, s₁, earlier, own, more, hexecuted, ?_, hturns, hbefore, htrace⟩
    -- a built-in could only have entered a directory
    by_contra hexternal
    have hbuiltin : c.isBuiltin = true := by simpa using hexternal
    have heffects := runCommand_effects w s₁ (hexecuted.namesItself c (by simp))
    have hcall : e ∈ (Action.runCommand c w s₁).trace.events :=
      Trace.mem_events.mpr (by simp [htrace])
    rw [heffects.builtin hbuiltin, List.mem_map] at hcall
    obtain ⟨d, -, rfl⟩ := hcall
    cases hlaunching
  · exact h.turns.chdirs hnames
  · intro children s₁
    exact (Action.waitAll_spec w s₁ children).2.1

/-- In every run of a batch file and of the loop, however it ends, each effect belongs to
    the right kind of command. -/
theorem runs_have_effects (w : World) (s : Session) :
    (∀ content, RunEffects w s (scriptLines w s content) (Action.runScript content w s).session
        (Action.runScript content w s).trace) ∧
      ∀ prompt history inputs, RunEffects w s (loopLines w s history inputs)
        (Action.interactive prompt history inputs w s).session
        (Action.interactive prompt history inputs w s).trace := by
  constructor
  · intro content
    exact (Action.runScript_driven_scriptLines w content s).runEffects
  · intro prompt history inputs
    exact (Action.interactive_driven_loopLines w prompt history inputs s).runEffects

/-- The target of `path` is no operand, and behind the exit no `path` has its turn. -/
example :
    let content := (Text.ofString "path /a > f & nope & exit & path /b\npath /c").encode
    (Action.runScript content .empty (.start defaultPath)).session.path =
      [Text.ofString "/a"] := by
  decide +kernel

end LineShell
