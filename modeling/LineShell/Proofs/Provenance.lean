/-
  LineShell/Proofs/Provenance.lean
  ================================
  **Where every child comes from.**

  A child is started by one command of one line.  `Launched` lists what must have
  happened for it: the command is no built-in, its words are clean, its program is the
  first that the search path in force offers, the world has been asked about that
  program, and the target, if there is one, has been opened since.

  `runs_have_provenance` says so of every child of every run, of a batch file as of the
  loop.  A run is cut at the start of the child: before it lie the turns of the
  commands executed so far (`TurnAt`), and the search path in force is that of the last
  command `path` among them (`lastPath`).
-/
import LineShell.Proofs.Calls
import LineShell.Proofs.Drives
import LineShell.Proofs.Tokens
import Mathlib.Data.List.Basic
import Mathlib.Data.List.Induction

namespace LineShell

/-! ### The moment of a start -/

/-- The operands of the last command `path`, or the path at the start. -/
def lastPath (path : List Text) (executed : List Command) : List Text :=
  match executed.reverse.find? fun c => Builtin.named? c.name = some .path with
  | some c => c.operands
  | none => path

theorem searchPathAfter_eq_lastPath (path : List Text) (executed : List Command) :
    searchPathAfter path executed = lastPath path executed := by
  induction executed using List.reverseRecOn with
  | nil => rfl
  | append_singleton front c ih =>
    unfold searchPathAfter lastPath at ih ⊢
    rw [List.foldl_append, ih, List.reverse_append, List.reverse_singleton, List.singleton_append,
      List.find?_cons]
    by_cases hname : Builtin.named? c.name = some .path <;> simp [Command.pathAfter, hname]

/-- At every turn the search path is the one that the last executed `path` has set. -/
theorem Turns.path_eq_lastPath {w : World} {s s' : Session} {executed : List Command} {t : Trace}
    (h : Turns w s executed s' t) (hnames : ∀ c ∈ executed, NamesItself c) :
    s'.path = lastPath s.path executed := by
  rw [h.path hnames, searchPathAfter_eq_lastPath]

/-- A command `c` of a run has its turn in session `s₁`, after `earlier` and behind the
    commands executed so far. -/
structure TurnAt (w : World) (s : Session) (lines : List Text) (t : Trace)
    (executed : List Command) (c : Command) (s₁ : Session) (earlier : Trace) : Prop where
  /-- All commands executed in the lines before, and those before it in its own line. -/
  position : ∃ done line later front back, lines = done ++ line :: later ∧
    line.commands = front ++ c :: back ∧ executed = performed w s.path done ++ front
  turns : Turns w s executed s₁ earlier
  whole : ∃ later, t = earlier ++ ((Action.runCommand c w s₁).trace ++ later)

/-- What lies behind the start of a child by command `c`, whose turn has left `own` so
    far, on the search path in force. -/
structure Launched (w : World) (path : List Text) (c : Command) (own : Trace) (program : Text)
    (argv : List Text) (out err : Option Text) : Prop where
  external : Builtin.named? c.name = none
  named : argv = c.args ∧ argv.head? = some c.name
  words : ∀ a ∈ argv, Command.IsWord a ∧ a.hasNul = false
  /-- The program lies in the first directory that offers one. -/
  found : ∃ front d back, path = front ++ d :: back ∧ program = candidate d c.name ∧
    program.hasNul = false ∧ w.executable program = true ∧
    ∀ d' ∈ front, (candidate d' c.name).hasNul = true ∨ w.executable (candidate d' c.name) = false
  streams : out = c.target ∧ err = c.target
  /-- The last calls of the turn so far: the question about the program, and the
      target. -/
  calls : ∃ others, own.events =
    others ++ .access program true :: c.target.toList.map .openTarget

/-- Every child that the run starts has been launched by a command in its turn. -/
def HasProvenance (w : World) (path : List Text) (lines : List Text) (t : Trace) : Prop :=
  ∀ before after pid program argv out err,
    t = before ++ .event (.spawn pid program argv out err) :: after →
    ∃ executed c s₁ earlier own more,
      TurnAt w (.start path) lines t executed c s₁ earlier ∧ before = earlier ++ own ∧
      (Action.runCommand c w s₁).trace =
        own ++ .event (.spawn pid program argv out err) :: more ∧
      Launched w (lastPath path executed) c own program argv out err

/-! ### Cutting a run at an entry -/

theorem Driven.exists_turn {w : World} {s s' : Session} {lines : List Text}
    {t before after : Trace} {e : Entry} (h : Driven w s lines s' t) (he : ¬ e.OfAside)
    (ht : t = before ++ e :: after) :
    ∃ executed c s₁ earlier own more, TurnAt w s lines t executed c s₁ earlier ∧
      before = earlier ++ own ∧ (Action.runCommand c w s₁).trace = own ++ e :: more := by
  obtain ⟨executed, c, back, s₁, earlier, own, more, later, hperformed, hturns, hwhole, hbefore,
    htrace⟩ := h.turns.exists_turn he ht
  obtain ⟨done, line, rest, front, after', hlines, hcommands, hexecuted, -⟩ :=
    executed_iff.mpr ⟨back, hperformed⟩
  exact ⟨executed, c, s₁, earlier, own, more,
    ⟨⟨done, line, rest, front, after', hlines, hcommands, hexecuted⟩, hturns, later, hwhole⟩,
    hbefore, htrace⟩

/-! ### The calls before a start -/

def Event.isSpawn : Event → Bool
  | .spawn _ _ _ _ _ => true
  | _ => false

/-- A search that finds a program has passed over every directory before it. -/
theorem World.resolved_eq_some {w : World} {name program : Text} {directories : List Text}
    (h : w.resolved name directories = some program) :
    ∃ front d back, directories = front ++ d :: back ∧ program = candidate d name ∧
      program.hasNul = false ∧ w.executable program = true ∧
      ∀ d' ∈ front,
        (candidate d' name).hasNul = true ∨ w.executable (candidate d' name) = false := by
  unfold resolved at h
  split at h
  · cases h
  · exact firstExecutable_eq_some_iff.mp h

theorem World.hasNul_of_started {w : World} {path : Text} {argv : List Text}
    {ending : WaitOutcome} (h : w.startAnswer path argv = .started ending) :
    ∀ a ∈ argv, a.hasNul = false := by
  unfold startAnswer at h
  split at h
  · cases h
  · next hnul =>
    intro a ha
    simp only [Bool.or_eq_true, List.any_eq_true, not_or, not_exists, not_and] at hnul
    simpa using hnul.2 a ha

/-- Only a command whose program starts makes such a call. -/
theorem Command.exists_started {w : World} {c : Command} {path : List Text} {pid : Pid} {e : Event}
    (he : e.isSpawn = true) (h : e ∈ c.calls w path pid) :
    Builtin.named? c.name = none ∧
      ∃ program ending, c.verdict w path = .answered program (.started ending) := by
  rcases Command.mem_calls h with ⟨p, executable, rfl⟩ | ⟨d, rfl⟩ | ⟨t, rfl | rfl⟩ |
    ⟨hname, program, answer, hverdict, hown⟩
  · cases he
  · cases he
  · cases he
  · cases he
  · cases answer with
    | started ending => exact ⟨hname, program, ending, hverdict⟩
    | refused reason =>
      rw [StartAnswer.calls] at hown
      split at hown
      · cases hown
      · obtain ⟨t, -, ht⟩ := List.mem_flatMap.mp hown
        rcases List.mem_cons.mp ht with rfl | ht
        · cases he
        · rw [List.mem_singleton.mp ht] at he
          cases he
    | unforked f => cases hown
    | broken kind text => cases hown

/-- The calls of a command whose program starts. -/
theorem Command.calls_of_started {w : World} {c : Command} {path : List Text} {pid : Pid}
    {program : Text} {ending : WaitOutcome} (hname : Builtin.named? c.name = none)
    (hverdict : c.verdict w path = .answered program (.started ending)) :
    c.calls w path pid = (w.search c.name path ++ c.target.toList.map .openTarget) ++
      .spawn pid program c.args c.target c.target :: c.target.toList.map .closeTarget := by
  rw [calls, hname, hverdict]
  simp [Verdict.calls, StartAnswer.calls]

/-- A turn that starts a child has launched it. -/
theorem Action.runCommand_launched {w : World} {s : Session} {c : Command} {own more : Trace}
    {pid : Pid} {program : Text} {argv : List Text} {out err : Option Text} (hc : c.WellFormed)
    (htrace : (runCommand c w s).trace = own ++ .event (.spawn pid program argv out err) :: more) :
    Launched w s.path c own program argv out err := by
  have hcalls : own.events ++ .spawn pid program argv out err :: Trace.events more =
      c.calls w s.path s.nextPid := by
    rw [← runCommand_events w s hc.args_head, htrace, Trace.events_append]
    rfl
  have hmem : .spawn pid program argv out err ∈ c.calls w s.path s.nextPid := by simp [← hcalls]
  obtain ⟨hname, found, ending, hverdict⟩ := Command.exists_started rfl hmem
  obtain ⟨hresolved, -, hanswer⟩ := Command.verdict_eq_answered_iff.mp hverdict
  obtain ⟨others, hsearch⟩ := World.asked_of_resolved hresolved
  -- the start is the only one among the calls, and so both lists are cut at the same place
  have hbefore : .spawn pid program argv out err ∉
      w.search c.name s.path ++ c.target.toList.map .openTarget := by
    intro h
    rcases List.mem_append.mp h with h | h
    · obtain ⟨p, executable, haccess⟩ := World.mem_search h
      cases haccess
    · simp at h
  rw [Command.calls_of_started hname hverdict] at hcalls
  obtain ⟨hown, hspawn, -⟩ :=
    (List.append_cons_inj_of_notMem hbefore (by simp)).mp hcalls.symm
  obtain ⟨-, rfl, rfl, rfl, rfl⟩ := Event.spawn.inj hspawn
  refine {
    external := hname
    named := ⟨rfl, hc.args_head⟩
    words := fun a ha => ⟨hc.args_word a ha, World.hasNul_of_started hanswer a ha⟩
    found := World.resolved_eq_some hresolved
    streams := ⟨rfl, rfl⟩
    calls := ⟨others, ?_⟩ }
  rw [← hown, hsearch, List.append_assoc]
  rfl

/-! ### Every run -/

theorem Driven.hasProvenance {w : World} {path lines reached : List Text} {s' : Session}
    {t : Trace} (hreached : reached <+: lines) (h : Driven w (.start path) reached s' t) :
    HasProvenance w path lines t := by
  intro before after pid program argv out err ht
  obtain ⟨executed, c, s₁, earlier, own, more, hturn, hbefore, htrace⟩ :=
    h.exists_turn (by simp [Entry.OfAside]) ht
  obtain ⟨done, line, later, front, back, hlines, hcommands, hexecuted⟩ := hturn.position
  obtain ⟨rest, hrest⟩ := hreached
  have hc : c.WellFormed := line.commands_wellFormed c (by simp [hcommands])
  have hnames : ∀ d ∈ executed, NamesItself d := by
    rw [hexecuted]
    exact List.forall_mem_append.mpr ⟨performed_namesItself w _ done,
      fun d hd => line.commands_namesItself d (by simp [hcommands, hd])⟩
  have hpath : s₁.path = lastPath path executed := hturn.turns.path_eq_lastPath hnames
  refine ⟨executed, c, s₁, earlier, own, more, ⟨⟨done, line, later ++ rest, front, back, ?_,
    hcommands, hexecuted⟩, hturn.turns, hturn.whole⟩, hbefore, htrace,
    hpath ▸ Action.runCommand_launched hc htrace⟩
  rw [← hrest, hlines]
  simp

/-- In every run of a batch file and of the loop, every child has been launched by a
    command in its turn, from the search path then in force. -/
theorem runs_have_provenance (w : World) (path : List Text) :
    (∀ content, HasProvenance w path (Text.decode content).lines
        (Action.runScript content w (.start path)).trace) ∧
      ∀ prompt history inputs, HasProvenance w path (inputLines inputs)
        (Action.interactive prompt history inputs w (.start path)).trace := by
  refine ⟨fun content => ?_, fun prompt history inputs => ?_⟩
  · obtain ⟨reached, hreached, hdriven⟩ := Action.runScript_driven w content (.start path)
    exact hdriven.hasProvenance hreached
  · obtain ⟨reached, hreached, hdriven⟩ :=
      Action.interactive_driven w prompt history inputs (.start path)
    exact hdriven.hasProvenance hreached

end LineShell
