/-
  LineShell/Proofs/Containment.lean
  =================================
  **Which failures a line keeps to itself.**

  Where the system answers every call, if only with an error, a failing command
  should stop nobody: the line returns an account of all its commands, or a bare
  `exit` among them leaves the shell (`EndsWell`).

  One failure does escape.  The message of a refused program goes into the target
  of its command, and writing it there can itself fail: the target does not take it,
  or the name or the reason holds a symbol that no bytes spell.
  `runLine_endsWell_iff` says that nothing else escapes: a line ends well unless
  it loses such a message, and then it ends with the fault that lost it.
-/
import LineShell.Proofs.Phases
import Mathlib.Control.Monad.Basic

namespace LineShell

/-- The world answers every call, if only with a system error. -/
structure World.NeverBreaks (w : World) : Prop where
  starts : ∀ path program, w.program path = some program →
    ∀ kind text, program.start ≠ .breaks kind text
  waits : w.WaitsNeverBreak

def Command.IsBareExit (c : Command) : Prop :=
  Builtin.named? c.name = some .exit ∧ c.operands = []

/-- A run of the line returns and accounts for each of its commands, or leaves the
    shell because the line holds a bare `exit`. -/
def EndsWell (line : Text) (o : Outcome LineResult) : Prop :=
  (∃ r, o.result = .ok r ∧ r.commands = line.commands ∧
    r.builtins + r.launched + r.failed = r.commands.length) ∨
  (o.result = .error (.exit 0) ∧ ∃ c ∈ line.commands, c.IsBareExit)

/-- The commands come to one whose program is refused, and whose message does not reach its
    target on account of this fault. -/
def LosesMessage (w : World) (path : List Text) (commands : List Command) (f : Fault) : Prop :=
  ∃ front c back, commands = front ++ c :: back ∧ RunsThrough w path front ∧
    Builtin.named? c.name = none ∧ ∃ program reason,
      c.verdict w (searchPathAfter path front) = .answered program (.refused reason) ∧
        c.messageFault w reason = some f

/-! ### What can stop a line in such a world -/

theorem World.startAnswer_eq_broken {w : World} {path : Text} {argv : List Text}
    {kind : Breakdown} {text : Text} (h : w.startAnswer path argv = .broken kind text) :
    ∃ program, w.program path = some program ∧ program.start = .breaks kind text := by
  unfold startAnswer at h
  split at h
  · cases h
  · split at h
    · cases h
    · next program hprogram =>
      refine ⟨program, hprogram, ?_⟩
      split at h
      · cases h
      · next hstart =>
        cases h
        exact hstart
      · split at h <;> cases h

theorem Command.Halts.bareExit_or_lost {w : World} (hcalm : w.NeverBreaks) {path : List Text}
    {c : Command} {f : Fault} (h : c.Halts w path f) :
    f = .exit 0 ∧ c.IsBareExit ∨
      ∃ program reason, c.verdict w path = .answered program (.refused reason) ∧
        c.messageFault w reason = some f := by
  cases h with
  | leaves hname hbare => exact Or.inl ⟨rfl, hname, hbare⟩
  | breaks hname hverdict =>
    obtain ⟨-, -, hanswer⟩ := Command.verdict_eq_answered_iff.mp hverdict
    obtain ⟨program, hprogram, hstart⟩ := World.startAnswer_eq_broken hanswer
    exact absurd hstart (hcalm.starts _ _ hprogram _ _)
  | losesMessage hname hverdict hlost => exact Or.inr ⟨_, _, hverdict, hlost⟩

theorem haltsWith_iff_losesMessage {w : World} {path : List Text} {commands : List Command}
    {f : Fault} (hf : f.IsOfMessage) :
    HaltsWith w path commands f ↔ LosesMessage w path commands f := by
  simp only [HaltsWith, LosesMessage, Command.halts_iff_of_message hf]

/-- A line ends with the fault of a message exactly when it loses one by it, unless a wait
    breaks before the line is over. -/
theorem LineRun.lost_iff {w : World} {s s' : Session} {line : Text}
    {steps : List Step} {fault : Option Fault} {noted commands waits : Trace}
    (h : LineRun w s line steps fault s' noted commands waits) {f : Fault} (hf : f.IsOfMessage) :
    (Action.runLine line w s).result = .error f ↔
      LosesMessage w s.path line.commands f ∧
        (Step.children steps).findSome? Child.breakage? = none := by
  obtain ⟨-, hsome⟩ := h.ran.fault_iff line.commands_namesItself
  rw [h.outcome, ← haltsWith_iff_losesMessage hf, ← hsome]
  exact Action.lineEnding_eq_error_iff_of_message hf

theorem LineRun.lost_iff_losesMessage {w : World} {s s' : Session} {line : Text}
    {steps : List Step} {fault : Option Fault} {noted commands waits : Trace}
    (h : LineRun w s line steps fault s' noted commands waits) (hwaits : w.WaitsNeverBreak)
    {f : Fault} (hf : f.IsOfMessage) :
    (Action.runLine line w s).result = .error f ↔ LosesMessage w s.path line.commands f := by
  rw [h.lost_iff hf]
  exact and_iff_left (h.unbroken hwaits)

/-- In every world: the children whose waits count are those that the line has started. -/
theorem runLine_system_iff {w : World} {s : Session} {line : Text} {e : Errno} :
    (Action.runLine line w s).result = .error (.system (.ofErrno e)) ↔
      LosesMessage w s.path line.commands (.system (.ofErrno e)) ∧
        ∀ child ∈ (Action.runLine line w s).trace.spawns, ¬ w.BreaksWait child.2 := by
  obtain ⟨steps, fault, s', noted, t, waits, hline⟩ := exists_lineRun w s line
  rw [hline.lost_iff (.system _), hline.started.spawns, List.forall_mem_map,
    List.findSome?_eq_none_iff]
  refine and_congr_right' (forall₂_congr fun child hchild => ?_)
  exact Child.breakage?_eq_none_iff (hline.started.endings child hchild)

theorem exists_errno_of_runLine {w : World} {s : Session} {line : Text} {e : SystemError}
    (h : (Action.runLine line w s).result = .error (.system e)) : ∃ n, e = .ofErrno n := by
  obtain ⟨steps, fault, s', noted, t, waits, hline⟩ := exists_lineRun w s line
  obtain ⟨⟨_, _, _, -, -, -, _, _, -, hlost⟩, -⟩ := (hline.lost_iff (.system e)).mp h
  rcases Command.eq_of_messageFault hlost with hfault | ⟨n, hfault⟩
  · cases hfault
  · exact ⟨n, Fault.system.inj hfault⟩

/-- A line ends well exactly when no message of a refused program is lost: neither by an error of
    its target, nor because no bytes spell it.  Otherwise it ends with that very fault. -/
theorem runLine_endsWell_iff (line : Text) {w : World} (s : Session) (hcalm : w.NeverBreaks) :
    (EndsWell line (Action.runLine line w s) ↔
        (∀ e, ¬ LosesMessage w s.path line.commands (.system (.ofErrno e))) ∧
          ∀ message, ¬ LosesMessage w s.path line.commands (.unspellable message)) ∧
      (∀ e, (Action.runLine line w s).result = .error (.system (.ofErrno e)) ↔
        LosesMessage w s.path line.commands (.system (.ofErrno e))) ∧
      ∀ message, (Action.runLine line w s).result = .error (.unspellable message) ↔
        LosesMessage w s.path line.commands (.unspellable message) := by
  obtain ⟨steps, fault, s', noted, t, waits, hline⟩ := exists_lineRun w s line
  have hlost : ∀ {f : Fault}, f.IsOfMessage →
      ((Action.runLine line w s).result = .error f ↔ LosesMessage w s.path line.commands f) :=
    hline.lost_iff_losesMessage hcalm.waits
  have hunbroken := hline.unbroken hcalm.waits
  obtain ⟨-, hsome⟩ := hline.ran.fault_iff line.commands_namesItself
  refine ⟨⟨fun hwell => ?_, fun ⟨hwritten, hspelled⟩ => ?_⟩, fun e => hlost (.system _),
    fun message => hlost (.unspellable message)⟩
  · have hkept : ∀ f : Fault, f.IsOfMessage → ¬ LosesMessage w s.path line.commands f := by
      intro f hf hloses
      have herror := (hlost hf).mpr hloses
      rcases hwell with ⟨r, hreturns, -⟩ | ⟨hleaves, -⟩
      · cases hreturns.symm.trans herror
      · obtain rfl := Except.error.inj (hleaves.symm.trans herror)
        cases hf
    exact ⟨fun e => hkept _ (.system _), fun message => hkept _ (.unspellable message)⟩
  · have hresult : (Action.runLine line w s).result =
        Action.lineEnding line.commands steps fault := by rw [hline.outcome]
    cases hfault : fault with
    | none =>
      have hreturns : Action.lineEnding line.commands steps fault = .ok _ :=
        Action.lineEnding_eq_ok_iff.mpr ⟨hfault, hunbroken, rfl⟩
      have hcounts := hline.ran.counts line.commands_namesItself hfault
      exact Or.inl ⟨_, hresult.trans hreturns, rfl, (Step.count_add steps).trans hcounts.1⟩
    | some f =>
      obtain ⟨front, c, back, hcommands, -, hhalts⟩ := (hsome f).mp hfault
      rcases hhalts.bareExit_or_lost hcalm with ⟨rfl, hexit⟩ | ⟨program, reason, -, hmessage⟩
      · rw [hfault, Action.lineEnding_of_fault hunbroken] at hresult
        exact Or.inr ⟨hresult, c, by simp [hcommands], hexit⟩
      · -- the fault of a message, which no command of this line loses
        rcases Command.eq_of_messageFault hmessage with rfl | ⟨e, rfl⟩
        · exact absurd ((haltsWith_iff_losesMessage (.unspellable _)).mp ((hsome _).mp hfault))
            (hspelled _)
        · exact absurd ((haltsWith_iff_losesMessage (.system _)).mp ((hsome _).mp hfault))
            (hwritten e)

/-! ### Messages that are lost -/

def Program.denied : Program :=
  ⟨.fails .permissionDenied (some (Text.ofString "Permission denied")), .exits 0⟩

/-- `/bin/x` may not be run, `/bin/y` may, and the target `f` cannot be written. -/
def World.fullDisk : World :=
  { ofPrograms [(Text.ofString "/bin/x", .denied), (Text.ofString "/bin/y", .ordinary)] with
    target := fun name => if name = Text.ofString "f" then ⟨none, some .noSpace⟩ else .ordinary }

/-- `/bin/x` is refused for a reason that no bytes spell, and `/bin/y` may be run. -/
def World.garbled : World :=
  ofPrograms [(Text.ofString "/bin/x", ⟨.fails .permissionDenied (some [.half 0]), .exits 0⟩),
    (Text.ofString "/bin/y", .ordinary)]

/-- What the targets are makes no difference to whether calls are answered. -/
theorem World.neverBreaks_of_programs {programs : List (Text × Program)} {w : World}
    (hprogram : w.program = (ofPrograms programs).program)
    (hstarts : ∀ entry ∈ programs, ∀ kind text, entry.2.start ≠ .breaks kind text)
    (hends : ∀ entry ∈ programs, ∀ kind text, entry.2.ending ≠ .breaks kind text) :
    w.NeverBreaks where
  starts _ _ h := hstarts _ (ofPrograms_mem (hprogram ▸ h))
  waits _ _ h := hends _ (ofPrograms_mem (hprogram ▸ h))

theorem World.fullDisk_neverBreaks : fullDisk.NeverBreaks :=
  neverBreaks_of_programs rfl (by simp [Program.denied, Program.ordinary])
    (by simp [Program.denied, Program.ordinary])

/-- Neither message reaches `f`: the disk takes no bytes, or there are none to write. -/
theorem lostMessages_end_line :
    let line := Text.ofString "x > f & y"
    World.fullDisk.NeverBreaks ∧ World.garbled.NeverBreaks ∧
      (Action.runLine line World.fullDisk (.start defaultPath)).result =
        .error (.system (.ofErrno .noSpace)) ∧
      (Action.runLine line World.garbled (.start defaultPath)).result =
        .error (.unspellable (Text.ofString "x: " ++ .half 0 :: Text.ofString "\n")) := by
  intro line
  have hgarbled : World.garbled.NeverBreaks :=
    World.neverBreaks_of_programs rfl (by simp [Program.ordinary]) (by simp [Program.ordinary])
  refine ⟨World.fullDisk_neverBreaks, hgarbled,
    ((runLine_endsWell_iff line _ World.fullDisk_neverBreaks).2.1 .noSpace).mpr ?_,
    ((runLine_endsWell_iff line _ hgarbled).2.2 _).mpr ?_⟩
  · refine ⟨[], ⟨Text.ofString "x", [Text.ofString "x"], some (Text.ofString "f")⟩,
      [⟨Text.ofString "y", [Text.ofString "y"], none⟩], by decide, trivial, by decide,
      Text.ofString "/bin/x", Text.ofString "Permission denied", by decide, by decide⟩
  · refine ⟨[], ⟨Text.ofString "x", [Text.ofString "x"], some (Text.ofString "f")⟩,
      [⟨Text.ofString "y", [Text.ofString "y"], none⟩], by decide, trivial, by decide,
      Text.ofString "/bin/x", [.half 0], by decide, by decide⟩

/-- On the full disk the line does not end well, and its other command is never started. -/
theorem fullDisk_stops_sibling :
    World.fullDisk.NeverBreaks ∧
      ¬ EndsWell (Text.ofString "x > f & y")
        (Action.runLine (Text.ofString "x > f & y") World.fullDisk (.start defaultPath)) ∧
      (Action.runLine (Text.ofString "x > f & y") World.fullDisk
        (.start defaultPath)).trace.spawnedPids = [] := by
  have herror : (Action.runLine (Text.ofString "x > f & y") World.fullDisk
      (.start defaultPath)).result = .error (.system (.ofErrno .noSpace)) := by decide +kernel
  refine ⟨World.fullDisk_neverBreaks, ?_, by decide +kernel⟩
  rintro (⟨r, hreturns, -⟩ | ⟨hleaves, -⟩)
  · cases herror.symm.trans hreturns
  · cases herror.symm.trans hleaves

end LineShell
