/-
  LineShell/Proofs/Commands.lean
  ==============================
  **The commands of a line, in order.**

  `Ran` describes a run of commands one turn after another, up to the first fault;
  `runCommands_ran` says that `runCommands` always makes such a run, so every fact
  about the commands of a line is an induction over `Ran`.

  From it: the children that the steps name are exactly those that were started
  (`Ran.started`), every command before the fault has its step (`Ran.counts`), the
  search path is that of the last command `path` (`Ran.path`), and a fault is that of
  the first command that halts (`Ran.fault_iff`).
-/
import LineShell.Proofs.Turn

namespace LineShell

/-- Every command names itself in its argument list, as the parser writes it. -/
def NamesItself (c : Command) : Prop := c.args.head? = some c.name

/-- The search path that commands leave, one after another. -/
def searchPathAfter (path : List Text) (commands : List Command) : List Text :=
  commands.foldl (fun p c => c.pathAfter p) path

/-- Every command has its turn: none of them ends the line. -/
def RunsThrough (w : World) : List Text → List Command → Prop
  | _, [] => True
  | path, c :: rest => (∀ f, ¬ c.Halts w path f) ∧ RunsThrough w (c.pathAfter path) rest

/-- The first command that ends the line does so with this fault. -/
def HaltsWith (w : World) (path : List Text) (commands : List Command) (f : Fault) : Prop :=
  ∃ front c back, commands = front ++ c :: back ∧ RunsThrough w path front ∧
    c.Halts w (searchPathAfter path front) f

theorem haltsWith_cons {w : World} {path : List Text} {c : Command} {rest : List Command}
    {f : Fault} :
    HaltsWith w path (c :: rest) f ↔
      c.Halts w path f ∨
        (∀ g, ¬ c.Halts w path g) ∧ HaltsWith w (c.pathAfter path) rest f := by
  constructor
  · rintro ⟨front, d, back, heq, hfront, hd⟩
    cases front with
    | nil =>
      obtain ⟨rfl, rfl⟩ := List.cons.inj heq
      exact Or.inl hd
    | cons c' front =>
      obtain ⟨rfl, rfl⟩ := List.cons.inj heq
      exact Or.inr ⟨hfront.1, front, d, back, rfl, hfront.2, hd⟩
  · rintro (hc | ⟨hnone, front, d, back, rfl, hfront, hd⟩)
    · exact ⟨[], c, rest, rfl, trivial, hc⟩
    · exact ⟨c :: front, d, back, rfl, ⟨hnone, hfront⟩, hd⟩

theorem Step.count_add (steps : List Step) :
    steps.count .builtin + (children steps).length + steps.count .failed = steps.length := by
  induction steps with
  | nil => rfl
  | cons step rest ih =>
    simp only [children] at ih
    cases step <;> simp [children] <;> omega

theorem Step.children_append (steps more : List Step) :
    children (steps ++ more) = children steps ++ children more := by
  unfold children
  rw [List.filterMap_append]

/-- A run of commands: the steps before the first fault, that fault, and the session
    and the trace that they leave. -/
inductive Ran (w : World) :
    Session → List Command → List Step → Option Fault → Session → Trace → Prop
  | nil {s : Session} : Ran w s [] [] none s []
  | halt {s : Session} {c : Command} {rest : List Command} {f : Fault}
      (hturn : (Action.runCommand c w s).result = .error f) :
      Ran w s (c :: rest) [] (some f) (Action.runCommand c w s).session
        (Action.runCommand c w s).trace
  | step {s s' : Session} {c : Command} {rest : List Command} {step : Step} {steps : List Step}
      {fault : Option Fault} {t : Trace}
      (hturn : (Action.runCommand c w s).result = .ok step)
      (hrest : Ran w (Action.runCommand c w s).session rest steps fault s' t) :
      Ran w s (c :: rest) (step :: steps) fault s' ((Action.runCommand c w s).trace ++ t)

namespace Action

/-- Running commands never faults itself: it makes a run and returns it. -/
theorem runCommands_ran (w : World) (commands : List Command) (s : Session) :
    ∃ steps fault s' t, runCommands commands w s = ⟨.ok (steps, fault), s', t⟩ ∧
      Ran w s commands steps fault s' t := by
  induction commands generalizing s with
  | nil => exact ⟨[], none, s, [], rfl, .nil⟩
  | cons c rest ih =>
    unfold runCommands
    rw [attempt_bind]
    cases hturn : (runCommand c w s).result with
    | error f =>
      refine ⟨[], some f, _, _, ?_, .halt hturn⟩
      simp
    | ok step =>
      obtain ⟨steps, fault, s', t, hrun, hran⟩ := ih (runCommand c w s).session
      refine ⟨step :: steps, fault, s', _, ?_, .step hturn hran⟩
      simp [bind_ok hrun]

end Action

namespace Ran

variable {w : World} {s s' : Session} {commands : List Command} {steps : List Step}
  {fault : Option Fault} {t : Trace}

theorem leaves (h : Ran w s commands steps fault s' t) : ∀ e ∈ t, e.OfCommand := by
  induction h with
  | nil => simp
  | halt _ => exact Action.runCommand_leaves _ w _
  | step _ _ ih =>
    intro e he
    rcases List.mem_append.mp he with he | he
    · exact Action.runCommand_leaves _ w _ e he
    · exact ih e he

theorem outcome (h : Ran w s commands steps fault s' t) :
    Action.runCommands commands w s = ⟨.ok (steps, fault), s', t⟩ := by
  induction h with
  | nil => rfl
  | halt hturn =>
    unfold Action.runCommands
    rw [Action.attempt_bind, hturn]
    simp
  | step hturn _ ih =>
    unfold Action.runCommands
    rw [Action.attempt_bind, hturn]
    simp [Action.bind_ok ih]

theorem of_outcome
    (h : Action.runCommands commands w s = ⟨.ok (steps, fault), s', t⟩) :
    Ran w s commands steps fault s' t := by
  obtain ⟨steps', fault', s'', t', hrun, hran⟩ := Action.runCommands_ran w commands s
  rw [h] at hrun
  cases hrun
  exact hran

theorem append {front back : List Command} {more : List Step} {s'' : Session} {t' : Trace}
    (h : Ran w s front steps none s' t) (hback : Ran w s' back more fault s'' t') :
    Ran w s (front ++ back) (steps ++ more) fault s'' (t ++ t') := by
  generalize hnone : (none : Option Fault) = reached at h
  induction h with
  | nil => exact hback
  | halt _ => cases hnone
  | step hturn _ ih =>
    rw [List.append_assoc]
    exact .step hturn (ih hback hnone)

/-- A run that meets a fault ends with the turn of a command that halts, behind commands
    that have all had theirs. -/
theorem exists_halt (h : Ran w s commands steps fault s' t) {f : Fault} (hfault : fault = some f) :
    ∃ front c back s₁ before, commands = front ++ c :: back ∧ Ran w s front steps none s₁ before ∧
      (Action.runCommand c w s₁).result = .error f ∧ s' = (Action.runCommand c w s₁).session ∧
      t = before ++ (Action.runCommand c w s₁).trace := by
  induction h with
  | nil => cases hfault
  | @halt s c rest g hturn =>
    obtain rfl := Option.some.inj hfault
    exact ⟨[], c, rest, s, [], rfl, .nil, hturn, rfl, rfl⟩
  | @step s s' c rest step steps fault t hturn hrest ih =>
    obtain ⟨front, d, back, s₁, before, rfl, hfront, hresult, hsession, rfl⟩ := ih hfault
    exact ⟨c :: front, d, back, s₁, _, rfl, .step hturn hfront, hresult, hsession,
      (List.append_assoc _ _ _).symm⟩

theorem started (h : Ran w s commands steps fault s' t) (hnames : ∀ c ∈ commands, NamesItself c) :
    Started w s t s' (Step.children steps) := by
  induction h with
  | nil => exact .nil rfl rfl
  | @halt s c rest f hturn =>
    have hturn' := Action.runCommand_started w s (hnames c (by simp))
    rw [hturn] at hturn'
    exact hturn'
  | @step s s' c rest step steps fault t hturn hrest ih =>
    have hturn' := Action.runCommand_started w s (hnames c (by simp))
    rw [hturn] at hturn'
    have hmore := ih fun d hd => hnames d (by simp [hd])
    rw [← List.singleton_append, Step.children_append]
    exact hturn'.append hmore

/-- Without a fault every command has its step, and the built-ins are those that are
    named so. -/
theorem counts (h : Ran w s commands steps fault s' t) (hnames : ∀ c ∈ commands, NamesItself c)
    (hfault : fault = none) :
    steps.length = commands.length ∧ steps.count .builtin = commands.countP Command.isBuiltin := by
  induction h with
  | nil => exact ⟨rfl, rfl⟩
  | halt _ => cases hfault
  | @step s s' c rest step steps fault t hturn hrest ih =>
    obtain ⟨hlength, hcount⟩ := ih (fun d hd => hnames d (by simp [hd])) hfault
    have hbuiltin : step = .builtin ↔ c.isBuiltin = true :=
      Command.turn_eq_builtin_iff (Action.runCommand_result w s (hnames c (by simp)) ▸ hturn)
    refine ⟨by simp [hlength], ?_⟩
    rw [List.count_cons, List.countP_cons, hcount]
    congr 1
    simp only [beq_iff_eq, hbuiltin]

theorem path (h : Ran w s commands steps fault s' t) (hnames : ∀ c ∈ commands, NamesItself c)
    (hfault : fault = none) : s'.path = searchPathAfter s.path commands := by
  induction h with
  | nil => rfl
  | halt _ => cases hfault
  | @step s s' c rest step steps fault t hturn hrest ih =>
    rw [ih (fun d hd => hnames d (by simp [hd])) hfault,
      Action.runCommand_path w s (hnames c (by simp))]
    rfl

/-- The run meets no fault when every command has its turn, and otherwise the fault of
    the first command that halts. -/
theorem fault_iff (h : Ran w s commands steps fault s' t)
    (hnames : ∀ c ∈ commands, NamesItself c) :
    (fault = none ↔ RunsThrough w s.path commands) ∧
      ∀ f, fault = some f ↔ HaltsWith w s.path commands f := by
  induction h with
  | nil => exact ⟨by simp [RunsThrough], fun f => by simp [HaltsWith]⟩
  | @halt s c rest g hturn =>
    have hhalts : c.Halts w s.path g :=
      Command.turn_eq_error_iff.mp (Action.runCommand_result w s (hnames c (by simp)) ▸ hturn)
    refine ⟨by simpa [RunsThrough] using fun hnone => absurd hhalts (hnone g), fun f => ?_⟩
    rw [haltsWith_cons]
    constructor
    · intro hfault
      exact Or.inl (Option.some.inj hfault ▸ hhalts)
    · rintro (hf | ⟨hnone, -⟩)
      · rw [hhalts.unique hf]
      · exact absurd hhalts (hnone g)
  | @step s s' c rest step steps fault t hturn hrest ih =>
    have hnames' : ∀ d ∈ rest, NamesItself d := fun d hd => hnames d (by simp [hd])
    have hpasses : ∀ g, ¬ c.Halts w s.path g := by
      intro g hg
      have := Action.runCommand_result w s (hnames c (by simp))
      rw [hturn, Command.turn_eq_error_iff.mpr hg] at this
      cases this
    obtain ⟨hnone, hsome⟩ := ih hnames'
    rw [Action.runCommand_path w s (hnames c (by simp))] at hnone hsome
    refine ⟨?_, fun f => ?_⟩
    · rw [hnone]
      simp [RunsThrough, hpasses]
    · rw [hsome, haltsWith_cons]
      simp [hpasses]

end Ran

end LineShell
