/-
  LineShell/Proofs/Verbosity.lean
  ===============================
  **A verbose log only observes.**

  Details of the log are for whoever looks for an error, and asking for them should change
  nothing else.  Two runs are compared by what can be seen of them (`Seen`): they end alike,
  make the same calls, read the same inputs and show the same diagnostics, and the error
  stream of the plain run is that of the verbose one with whole records deleted (`Thinned`).

  For lines and batch files this rests on the level of their records, which are all of
  detail.  The loop also logs faults, which show in either run, and in the same way only if
  both logs stamp them or neither does: a log that has not been set up shows them bare.

  The program itself is told by a flag.  Its options are read word by word, and a flag in
  front of them commutes with every step (`Options.read_verbose`).
-/
import LineShell.Proofs.Agreement
import LineShell.CommandLine.Run
import Mathlib.Data.List.Forall2

namespace LineShell

/-! ### Two runs -/

/-- What can be seen of a run. -/
structure Seen (ρ : Type) where
  result : ρ
  events : List Event
  stdout : Text
  unread : Nat
  diagnostics : List Text
  stderr : Text

/-- What can be seen of an outcome, the search path that it leaves included, when the log is
    shown like this. -/
def Outcome.seen {α : Type} (o : Outcome α) (settings : LogSettings) (inputs : List Input) :
    Seen (Except Fault α × List Text) where
  result := (o.result, o.session.path)
  events := o.trace.events
  stdout := o.trace.stdout
  unread := unreadInputs inputs o.trace
  diagnostics := o.trace.diagnostics
  stderr := o.trace.stderr settings

def CommandLine.Finished.seen (r : Finished) (inputs : List Input) :
    Seen (Except ProgramFault Int) where
  result := r.result
  events := r.trace.events
  stdout := r.trace.stdout
  unread := unreadInputs inputs r.trace
  diagnostics := r.trace.diagnostics
  stderr := r.trace.stderr r.settings

/-- Lines that are run one after another, whatever becomes of each, and what is seen of
    each. -/
def seenLines (settings : LogSettings) (w : World) :
    Session → List Text → List (Seen (Except Fault LineResult × List Text))
  | _, [] => []
  | s, line :: rest =>
    (Action.runLine line w s).seen settings [] ::
      seenLines settings w (Action.runLine line w s).session rest

/-- A text made of these diagnostics and of whole records, and what is left of it when some
    of the records are deleted. -/
inductive Thinned (settings : LogSettings) : List Text → Text → Text → Prop
  | nil : Thinned settings [] [] []
  | diagnostic {lines : List Text} {text left : Text} (line : Text)
      (h : Thinned settings lines text left) :
      Thinned settings (line :: lines) (line ++ [.char '\n'] ++ text) (line ++ [.char '\n'] ++ left)
  | kept {lines : List Text} {text left : Text} (r : LogRecord)
      (h : Thinned settings lines text left) :
      Thinned settings lines (r.lines settings ++ text) (r.lines settings ++ left)
  | deleted {lines : List Text} {text left : Text} (r : LogRecord)
      (h : Thinned settings lines text left) :
      Thinned settings lines (r.lines settings ++ text) left

/-- Whatever the one settings show, the others show too, and in the same way. -/
structure LogSettings.ShowsMore (verbose plain : LogSettings) : Prop where
  stamped : verbose.stamped = plain.stamped
  threshold : verbose.threshold.severity ≤ plain.threshold.severity

/-- Two runs that differ in their error streams at most, and not in the diagnostics there. -/
structure SameButLog {ρ : Type} (verbose plain : Seen ρ) : Prop where
  result : verbose.result = plain.result
  events : verbose.events = plain.events
  stdout : verbose.stdout = plain.stdout
  unread : verbose.unread = plain.unread
  diagnostics : verbose.diagnostics = plain.diagnostics

/-- The plain run shows what the verbose one does, but for some of its records. -/
structure OnlyObserves {ρ : Type} (settings : LogSettings) (verbose plain : Seen ρ) : Prop
    extends SameButLog verbose plain where
  stderr : Thinned settings plain.diagnostics verbose.stderr plain.stderr

/-! ### Deleting records -/

theorem LogSettings.ShowsMore.lines {verbose plain : LogSettings} (h : verbose.ShowsMore plain)
    (r : LogRecord) : r.lines verbose = r.lines plain := by
  rw [LogRecord.lines, LogRecord.lines, h.stamped]

theorem LogSettings.ShowsMore.shown {verbose plain : LogSettings} (h : verbose.ShowsMore plain)
    {r : LogRecord} (hplain : r.shown plain = true) : r.shown verbose = true := by
  rw [LogRecord.shown, decide_eq_true_iff] at hplain ⊢
  exact Nat.le_trans h.threshold hplain

/-- It is enough that the verbose settings show more where the plain ones show anything. -/
theorem Trace.thinned {verbose plain : LogSettings} {t : Trace}
    (h : ∀ r, .log r ∈ t → r.shown plain = true → verbose.ShowsMore plain) :
    Thinned verbose t.diagnostics (t.stderr verbose) (t.stderr plain) := by
  induction t with
  | nil => exact .nil
  | cons e rest ih =>
    have hlater := ih fun r hr => h r (List.mem_cons_of_mem e hr)
    cases e with
    | diagnostic line => exact .diagnostic line hlater
    | log r =>
      have hcons : ∀ settings, stderr settings (.log r :: rest) =
          r.render settings ++ stderr settings rest := fun _ => rfl
      rw [hcons, hcons]
      by_cases hplain : r.shown plain = true
      · have hmore := h r List.mem_cons_self hplain
        rw [LogRecord.render, LogRecord.render, if_pos (hmore.shown hplain), if_pos hplain,
          ← hmore.lines]
        exact .kept r hlater
      · rw [LogRecord.render, LogRecord.render, if_neg hplain, List.nil_append]
        by_cases hverbose : r.shown verbose = true
        · rw [if_pos hverbose]
          exact .deleted r hlater
        · rw [if_neg hverbose]
          exact hlater
    | _ => exact hlater

theorem Outcome.sameButLog {α : Type} (o : Outcome α) (verbose plain : LogSettings)
    (inputs : List Input) : SameButLog (o.seen verbose inputs) (o.seen plain inputs) :=
  ⟨rfl, rfl, rfl, rfl, rfl⟩

/-- Of a run whose records are all of detail, a plain log shows none. -/
theorem Outcome.onlyObserves {α : Type} {o : Outcome α} {verbose plain : LogSettings}
    (hplain : plain.HidesDetail) (h : ∀ r, .log r ∈ o.trace → r.level.IsDetail)
    (inputs : List Input) :
    OnlyObserves verbose (o.seen verbose inputs) (o.seen plain inputs) := by
  refine ⟨o.sameButLog verbose plain inputs, Trace.thinned ?_⟩
  intro r hr hshown
  rw [r.shown_of_detail hplain (h r hr)] at hshown
  cases hshown

/-! ### Lines and batch files -/

theorem runLine_isDetail (w : World) (s : Session) (line : Text) {r : LogRecord}
    (h : .log r ∈ (Action.runLine line w s).trace) : r.level.IsDetail :=
  (Action.runLine_leaves line w s _ h).record.isDetail

theorem seenLines_onlyObserves {verbose plain : LogSettings} (hplain : plain.HidesDetail)
    (w : World) (s : Session) (lines : List Text) :
    List.Forall₂ (OnlyObserves verbose) (seenLines verbose w s lines)
      (seenLines plain w s lines) := by
  induction lines generalizing s with
  | nil => exact .nil
  | cons line rest ih =>
    apply List.Forall₂.cons
    · exact Outcome.onlyObserves hplain (fun r => runLine_isDetail w s line) []
    · exact ih (Action.runLine line w s).session

/-- Between its lines a batch file only announces them. -/
theorem Action.runLines_isDetail (w : World) (number : Nat) (lines : List Text) (s : Session) :
    ∀ r, .log r ∈ (runLines number lines w s).trace → r.level.IsDetail := by
  induction lines generalizing number s with
  | nil => simp [runLines]
  | cons line rest ih =>
    intro r hr
    rw [runLines_cons] at hr
    dsimp only at hr
    have hown : .log r ∈ Entry.log (announcement number line) :: (runLine line w s).trace →
        r.level.IsDetail := by
      intro h
      rcases List.mem_cons.mp h with h | h
      · rw [Entry.log.inj h]
        trivial
      · exact runLine_isDetail w s line h
    split at hr
    · rw [← List.cons_append] at hr
      exact (List.mem_append.mp hr).elim hown (ih (number + 1) _ r)
    · exact hown hr
    · exact hown hr

/-! ### The flag -/

namespace Options

/-- The options with the flag set. -/
def loud (o : Options) : Options := { o with verbose := true }

def Progress.loud (p : Progress) : Progress := { p with verbose := true }

variable (p : Progress)

theorem apply_loud (flag : Flag) : apply p.loud flag = Progress.loud <$> apply p flag := by
  cases flag <;> rfl

theorem applyAll_loud (flags : List Flag) :
    applyAll p.loud flags = Progress.loud <$> applyAll p flags := by
  induction flags generalizing p with
  | nil => rfl
  | cons flag rest ih =>
    rw [applyAll, applyAll, apply_loud, bind_map_left, map_bind]
    simp only [ih]

theorem addOperand_loud (t : Text) : addOperand p.loud t = (addOperand p t).loud := by
  rcases p with ⟨_ | ts | ts, surplus, waiting, config, verbose, quiet⟩ <;> rfl

theorem endRun_loud : endRun p.loud = (endRun p).loud := by
  rcases p with ⟨_ | ts | ts, surplus, waiting, config, verbose, quiet⟩ <;> rfl

/-- No word is read otherwise for the flag. -/
theorem step_loud (word : Word) : step p.loud word = Progress.loud <$> step p word := by
  unfold step
  have hwaiting : p.loud.waiting = p.waiting := rfl
  rw [hwaiting]
  cases p.waiting with
  | some flags =>
    cases word with
    | operand t =>
      have hflags : applyAll { p.loud with waiting := none } flags =
          Progress.loud <$> applyAll { p with waiting := none } flags :=
        applyAll_loud { p with waiting := none } flags
      dsimp only
      rw [hflags, bind_map_left, map_bind]
      rfl
    | _ => rfl
  | none =>
    cases word with
    | operand t => exact congrArg Except.ok (addOperand_loud p t)
    | mark => exact congrArg Except.ok (addOperand_loud p Word.endMark)
    | unknown =>
      dsimp only
      rw [endRun_loud]
      rfl
    | option flag short value =>
      dsimp only
      rw [endRun_loud, map_bind]
      congr
      funext ⟨flags, ending⟩
      cases ending with
      | flags => exact applyAll_loud (endRun p) flags
      | value t =>
        dsimp only
        rw [applyAll_loud, bind_map_left, map_bind]
        rfl
      | valueToCome => rfl

theorem foldlM_loud (words : List Word) :
    words.foldlM step p.loud = Progress.loud <$> words.foldlM step p := by
  induction words generalizing p with
  | nil => rfl
  | cons word rest ih =>
    rw [List.foldlM_cons, List.foldlM_cons, step_loud, bind_map_left, map_bind]
    simp only [ih]

theorem finish_loud : finish p.loud = loud <$> finish p := by
  unfold finish
  rw [Progress.loud]
  dsimp only
  split <;> rfl

/-- The flag in front of the words sets the option, and nothing else. -/
theorem read_verbose (words : List Text) :
    read (Text.ofString "-v" :: words) = loud <$> read words := by
  have hclassify : Word.classifyAll (Text.ofString "-v" :: words) =
      (.option .verbose true none :: ·) <$> Word.classifyAll words := by
    rw [Word.classifyAll, if_neg (by decide)]
    rfl
  have hfirst : step Progress.start (.option .verbose true none) = .ok Progress.start.loud := rfl
  unfold read
  rw [hclassify, bind_map_left, map_bind]
  congr
  funext words
  have hfold : (Word.option .verbose true none :: words).foldlM step Progress.start =
      Progress.loud <$> words.foldlM step Progress.start := by
    rw [List.foldlM_cons, hfirst, ← foldlM_loud]
    rfl
  rw [hfold, bind_map_left, map_bind]
  simp only [finish_loud]

end Options

/-! ### The program -/

namespace CommandLine

/-- Whether the log is verbose decides only how it is shown. -/
theorem runWith_loud (around : Surroundings) (o : Options) (inputs : List Input) :
    (runWith around o.loud inputs).result = (runWith around o inputs).result ∧
      (runWith around o.loud inputs).trace = (runWith around o inputs).trace ∧
      (runWith around o.loud inputs).settings = .ofFlags true o.quiet ∧
      (runWith around o inputs).settings = .ofFlags o.verbose o.quiet := by
  rcases o with ⟨_ | ⟨name, _ | ⟨next, rest⟩⟩, config, verbose, quiet⟩
  case cons.cons => exact ⟨rfl, rfl, rfl, rfl⟩
  -- with one batch file at most, it depends on the configuration how the run goes on
  all_goals
    unfold runWith Options.loud
    dsimp only
    split
    · exact ⟨rfl, rfl, rfl, rfl⟩
    · cases loadConfig around config with
      | ok c => exact ⟨rfl, rfl, rfl, rfl⟩
      | error f =>
        dsimp only
        cases f.isReported <;> exact ⟨rfl, rfl, rfl, rfl⟩

end CommandLine

theorem LogSettings.ofFlags_showsMore (verbose quiet : Bool) :
    (ofFlags true quiet).ShowsMore (ofFlags verbose quiet) := by
  constructor
  · rfl
  · revert verbose quiet
    decide

namespace CommandLine

theorem Finished.onlyObserves {verbose plain : Finished} (hresult : verbose.result = plain.result)
    (htrace : verbose.trace = plain.trace) (hmore : verbose.settings.ShowsMore plain.settings)
    (inputs : List Input) :
    OnlyObserves verbose.settings (verbose.seen inputs) (plain.seen inputs) := by
  unfold seen
  rw [hresult, htrace]
  exact ⟨⟨rfl, rfl, rfl, rfl, rfl⟩, Trace.thinned fun _ _ _ => hmore⟩

theorem run_onlyObserves (around : Surroundings) (words : List Text) (inputs : List Input) :
    let verbose := run around (Text.ofString "-v" :: words) inputs
    OnlyObserves verbose.settings (verbose.seen inputs) ((run around words inputs).seen inputs) := by
  intro verbose
  cases hread : Options.read words with
  | error stop =>
    have hsame : verbose = run around words inputs := by
      simp only [verbose, run, Options.read_verbose, hread]
      cases stop <;> rfl
    rw [hsame]
    exact Finished.onlyObserves rfl rfl ⟨rfl, Nat.le_refl _⟩ inputs
  | ok o =>
    have hplain : run around words inputs = runWith around o inputs := by
      simp only [run, hread]
    have hverbose : verbose = runWith around o.loud inputs := by
      simp only [verbose, run, Options.read_verbose, hread]
      rfl
    obtain ⟨hresult, htrace, hloud, hquiet⟩ := runWith_loud around o inputs
    rw [hplain, hverbose]
    apply Finished.onlyObserves hresult htrace
    rw [hloud, hquiet]
    exact LogSettings.ofFlags_showsMore o.verbose o.quiet

end CommandLine

/-- Whatever runs does what it does without the verbose log, and shows it too; of the loop this
    holds when both logs stamp their records or neither does. -/
structure LogOnlyObserves (verbose plain : LogSettings) : Prop where
  lines : ∀ w s lines, List.Forall₂ (OnlyObserves verbose) (seenLines verbose w s lines)
    (seenLines plain w s lines)
  line : ∀ w s text, OnlyObserves verbose ((Action.runFirstLine text w s).seen verbose [])
    ((Action.runFirstLine text w s).seen plain [])
  batch : ∀ w s content, OnlyObserves verbose ((Action.runScript content w s).seen verbose [])
    ((Action.runScript content w s).seen plain [])
  loop : ∀ w s prompt history inputs,
    SameButLog ((Action.interactive prompt history inputs w s).seen verbose inputs)
        ((Action.interactive prompt history inputs w s).seen plain inputs) ∧
      (verbose.ShowsMore plain →
        OnlyObserves verbose ((Action.interactive prompt history inputs w s).seen verbose inputs)
          ((Action.interactive prompt history inputs w s).seen plain inputs))
  /-- The program sets its log up, with the flag and without, and so shows it in either run. -/
  program : ∀ around words inputs,
    OnlyObserves (CommandLine.run around (Text.ofString "-v" :: words) inputs).settings
      ((CommandLine.run around (Text.ofString "-v" :: words) inputs).seen inputs)
      ((CommandLine.run around words inputs).seen inputs)

/-- However much of the log is wanted, it only observes. -/
theorem verboseLog_only_observes {verbose plain : LogSettings} (hplain : plain.HidesDetail) :
    LogOnlyObserves verbose plain := by
  constructor
  · exact seenLines_onlyObserves hplain
  · intro w s text
    exact Outcome.onlyObserves hplain (fun r => runLine_isDetail w s text.firstLine) []
  · intro w s content
    exact Outcome.onlyObserves hplain (Action.runLines_isDetail w 1 _ s) []
  · intro w s prompt history inputs
    have hsame := (Action.interactive prompt history inputs w s).sameButLog verbose plain inputs
    exact ⟨hsame, fun hmore => ⟨hsame, Trace.thinned fun _ _ _ => hmore⟩⟩
  · exact CommandLine.run_onlyObserves

/-- A name of quotes and of a byte that is no character, which the log shows and the
    diagnostics do not. -/
theorem strangeName_observed :
    let name : List UInt8 := [0x27, 0xFF, 0x22]
    let content := name ++ (Text.ofString " > f\ncd ").encode ++ name ++ (Text.ofString "\n> x\n").encode
    let o := Action.runScript content .empty (.start defaultPath)
    LogSettings.unconfigured.HidesDetail ∧
      OnlyObserves .verbose (o.seen .verbose []) (o.seen .unconfigured []) ∧
      o.trace.stderr .unconfigured =
        Text.ofString "Command not found\nAn error has occurred\nRedirection fail\n" ∧
      Text.ofString "cd '\\'\\udcff\"'" <:+: o.trace.stderr .verbose := by
  intro name content o
  have hhides := LogSettings.unconfigured_hidesDetail
  exact ⟨hhides, (verboseLog_only_observes hhides).batch _ _ content, by decide +kernel,
    by decide +kernel⟩

end LineShell
