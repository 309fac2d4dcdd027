/-
  LineShell/Proofs/Drives.lean
  ============================
  **Runs of many lines.**

  Batch files and the interactive loop differ in where their lines come from and in
  what they do between them, but both only run lines, one after another, and leave
  notes of their own that call nobody (`Driven`).  How far they come depends on how
  their lines end (`scriptLines`, `loopLines`).

  Seen from the commands, a run is a sequence of turns with asides between them that
  no command has left (`Turns`, `Driven.turns`).  Which commands have their turn is
  fixed by the world: in each line all of them, up to the first that ends it
  (`performed`).
-/
import LineShell.Batch
import LineShell.Interactive
import LineShell.Proofs.Phases

namespace LineShell

/-- An element of two lists in a row lies in the first or in the second. -/
theorem append_eq_append_cons {α : Type} {l l' before after : List α} {x : α}
    (h : l ++ l' = before ++ x :: after) :
    (∃ rest, l = before ++ x :: rest ∧ after = rest ++ l') ∨
      ∃ more, before = l ++ more ∧ l' = more ++ x :: after := by
  rcases List.append_eq_append_iff.mp h with ⟨more, hbefore, hl'⟩ | ⟨more, hl, hafter⟩
  · exact Or.inr ⟨more, hbefore, hl'⟩
  · cases more with
    | nil => exact Or.inr ⟨[], by simpa using hl.symm, hafter.symm⟩
    | cons y more =>
      obtain ⟨rfl, rfl⟩ := List.cons.inj hafter
      exact Or.inl ⟨more, hl, rfl⟩

/-! ### The commands that have their turn -/

/-- Does the command end its line? -/
def Command.halts (c : Command) (w : World) (path : List Text) : Bool :=
  (c.turn w (.start path)).toOption.isNone

/-- Commands of one line, up to the first that ends it. -/
def performedOf (w : World) : List Text → List Command → List Command
  | _, [] => []
  | path, c :: rest => if c.halts w path then [c] else c :: performedOf w (c.pathAfter path) rest

/-- The commands that lines perform, one line after another. -/
def performed (w : World) : List Text → List Text → List Command
  | _, [] => []
  | path, line :: rest =>
    performedOf w path line.commands ++
      performed w (searchPathAfter path (performedOf w path line.commands)) rest

theorem Command.halts_iff {c : Command} {w : World} {path : List Text} :
    c.halts w path = true ↔ ∃ f, c.Halts w path f := by
  have hturn : c.halts w path = true ↔ ∃ f, c.turn w (.start path) = .error f := by
    unfold halts
    cases c.turn w (.start path) <;> simp [Except.toOption]
  simp only [hturn, turn_eq_error_iff, Session.start]

/-- The commands that have their turn are those to which their line comes. -/
theorem performedOf_eq_append_cons_iff {w : World} {path : List Text}
    {commands front : List Command} {c : Command} :
    (∃ back, performedOf w path commands = front ++ c :: back) ↔
      RunsThrough w path front ∧ ∃ back, commands = front ++ c :: back := by
  induction commands generalizing path front with
  | nil => simp [performedOf]
  | cons d rest ih =>
    cases front with
    | nil =>
      unfold performedOf
      split <;> simp [RunsThrough]
    | cons d' front =>
      simp only [performedOf, RunsThrough, List.cons_append, List.cons.injEq]
      by_cases hhalts : d.halts w path = true
      · -- behind a command that ends the line none has its turn
        rw [if_pos hhalts]
        constructor
        · rintro ⟨back, hback⟩
          simp at hback
        · rintro ⟨⟨hpasses, -⟩, back, rfl, -⟩
          obtain ⟨f, hf⟩ := Command.halts_iff.mp hhalts
          exact absurd hf (hpasses f)
      · rw [if_neg hhalts]
        constructor
        · rintro ⟨back, hback⟩
          obtain ⟨rfl, hrest⟩ := List.cons.inj hback
          obtain ⟨hthrough, more, hmore⟩ := ih.mp ⟨back, hrest⟩
          exact ⟨⟨fun f hf => hhalts (Command.halts_iff.mpr ⟨f, hf⟩), hthrough⟩, more, rfl, hmore⟩
        · rintro ⟨⟨-, hthrough⟩, back, rfl, hback⟩
          obtain ⟨more, hmore⟩ := ih.mpr ⟨hthrough, back, hback⟩
          exact ⟨more, by rw [hmore]⟩

theorem performedOf_isPrefix (w : World) (path : List Text) (commands : List Command) :
    performedOf w path commands <+: commands := by
  induction commands generalizing path with
  | nil => exact List.prefix_rfl
  | cons c rest ih =>
    unfold performedOf
    split
    · exact ⟨rest, rfl⟩
    · exact List.cons_prefix_cons.mpr ⟨rfl, ih _⟩

theorem performedOf_namesItself (w : World) (path : List Text) (line : Text) :
    ∀ c ∈ performedOf w path line.commands, NamesItself c :=
  fun c hc => line.commands_namesItself c ((performedOf_isPrefix w path _).subset hc)

theorem performed_namesItself (w : World) (path lines : List Text) :
    ∀ c ∈ performed w path lines, NamesItself c := by
  induction lines generalizing path with
  | nil => simp [performed]
  | cons line rest ih =>
    exact List.forall_mem_append.mpr ⟨performedOf_namesItself w path line, ih _⟩

theorem searchPathAfter_append (path : List Text) (front back : List Command) :
    searchPathAfter path (front ++ back) = searchPathAfter (searchPathAfter path front) back :=
  List.foldl_append

theorem performed_append (w : World) (path done more : List Text) :
    performed w path (done ++ more) =
      performed w path done ++ performed w (searchPathAfter path (performed w path done)) more := by
  induction done generalizing path with
  | nil => rfl
  | cons line rest ih =>
    rw [List.cons_append, performed, performed, ih, searchPathAfter_append, List.append_assoc]

/-- Lines come to the command `c`, behind the commands `before`: those of the lines before
    its own, and those before it in its line, none of which ends the line. -/
def Executed (w : World) (path lines : List Text) (before : List Command) (c : Command) : Prop :=
  ∃ done line later front back, lines = done ++ line :: later ∧
    line.commands = front ++ c :: back ∧ before = performed w path done ++ front ∧
    RunsThrough w (searchPathAfter path (performed w path done)) front

theorem executed_iff {w : World} {path lines : List Text} {before : List Command} {c : Command} :
    Executed w path lines before c ↔ ∃ back, performed w path lines = before ++ c :: back := by
  constructor
  · rintro ⟨done, line, later, front, back, rfl, hcommands, rfl, hthrough⟩
    obtain ⟨more, hmore⟩ := performedOf_eq_append_cons_iff.mpr ⟨hthrough, back, hcommands⟩
    rw [performed_append, performed, hmore]
    simp
  · rintro ⟨back, hback⟩
    induction lines generalizing path before with
    | nil => simp [performed] at hback
    | cons line rest ih =>
      rcases append_eq_append_cons hback with ⟨more, hline, -⟩ | ⟨more, rfl, hrest⟩
      · obtain ⟨hthrough, after, hcommands⟩ :=
          performedOf_eq_append_cons_iff.mp ⟨more, hline⟩
        exact ⟨[], line, rest, before, after, rfl, hcommands, rfl, hthrough⟩
      · obtain ⟨done, line', later, front, after, rfl, hcommands, rfl, hthrough⟩ := ih hrest
        refine ⟨line :: done, line', later, front, after, rfl, hcommands, ?_, ?_⟩
        · rw [performed, List.append_assoc]
        · rw [performed, searchPathAfter_append]
          exact hthrough

/-! ### Turns and asides -/

/-- What the loop says of a line that met a fault. -/
def Entry.OfNotice : Entry → Prop
  | .diagnostic _ | .log _ => True
  | _ => False

def Entry.OfHistory : Entry → Prop
  | .event (.historyRead _) | .event (.historyLength _) | .event (.historySave _) => True
  | .log r => r.source = .loop
  | _ => False

/-- What the loop adds to a line that has ended in a fault: a record, and one line for the
    user. -/
def Fault.notice (f : Fault) : Trace :=
  [.log ⟨.loop, .error, Text.ofString "Dispatch failed", some f⟩,
    .diagnostic (Text.ofString DiagnosticKind.generic.message)]

theorem Fault.notice_ofNotice (f : Fault) : ∀ e ∈ f.notice, e.OfNotice := by
  simp [notice, Entry.OfNotice]

/-- What is left between the turns of commands: no call that a command makes. -/
def Entry.OfAside : Entry → Prop
  | .event (.wait _) | .event (.historyRead _) | .event (.historyLength _)
  | .event (.historySave _) => True
  | .event _ => False
  | _ => True

/-- What is left between lines: no call but those about the history. -/
def Entry.OfPause : Entry → Prop
  | .event (.historyRead _) | .event (.historyLength _) | .event (.historySave _) => True
  | .event _ => False
  | _ => True

theorem Entry.OfWait.ofAside {e : Entry} (h : e.OfWait) : e.OfAside := by
  cases e with
  | event call =>
    cases call with
    | wait pid => trivial
    | _ => cases h
  | _ => trivial

theorem Entry.OfPause.ofAside {e : Entry} (h : e.OfPause) : e.OfAside := by
  cases e with
  | event call =>
    cases call with
    | historyRead file => trivial
    | historyLength length => trivial
    | historySave file => trivial
    | _ => cases h
  | _ => trivial

theorem Entry.OfNotice.ofPause {e : Entry} (h : e.OfNotice) : e.OfPause := by
  cases e with
  | event call => cases h
  | _ => trivial

theorem Entry.OfHistory.ofPause {e : Entry} (h : e.OfHistory) : e.OfPause := by
  unfold OfHistory at h
  split at h <;> trivial

/-- Commands that have their turns one after another, with asides between them that
    leave the session as it is. -/
inductive Turns (w : World) : Session → List Command → Session → Trace → Prop
  | nil {s : Session} : Turns w s [] s []
  | aside {s s' : Session} {commands : List Command} {own t : Trace}
      (hown : ∀ e ∈ own, e.OfAside) (hrest : Turns w s commands s' t) :
      Turns w s commands s' (own ++ t)
  | turn {s s' : Session} {c : Command} {rest : List Command} {t : Trace}
      (hrest : Turns w (Action.runCommand c w s).session rest s' t) :
      Turns w s (c :: rest) s' ((Action.runCommand c w s).trace ++ t)

theorem Turns.append {w : World} {s s' s'' : Session} {front back : List Command} {t t' : Trace}
    (h : Turns w s front s' t) (hback : Turns w s' back s'' t') :
    Turns w s (front ++ back) s'' (t ++ t') := by
  induction h with
  | nil => exact hback
  | aside hown _ ih =>
    rw [List.append_assoc]
    exact .aside hown (ih hback)
  | turn _ ih =>
    rw [List.append_assoc]
    exact .turn (ih hback)

theorem Turns.of_aside {w : World} {s : Session} {t : Trace} (h : ∀ e ∈ t, e.OfAside) :
    Turns w s [] s t := by
  rw [← List.append_nil t]
  exact .aside h .nil

/-- The search path of a run is the one that its commands leave. -/
theorem Turns.path {w : World} {s s' : Session} {commands : List Command} {t : Trace}
    (h : Turns w s commands s' t) (hnames : ∀ c ∈ commands, NamesItself c) :
    s'.path = searchPathAfter s.path commands := by
  induction h with
  | nil => rfl
  | aside _ _ ih => exact ih hnames
  | @turn s s' c rest t _ ih =>
    rw [ih fun d hd => hnames d (by simp [hd]),
      Action.runCommand_path w s (hnames c (by simp))]
    rfl

/-- Each command has its turn behind those before it. -/
theorem Turns.exists_split {w : World} {s s' : Session} {commands front back : List Command}
    {c : Command} {t : Trace} (h : Turns w s commands s' t) (hc : commands = front ++ c :: back) :
    ∃ s₁ earlier later, Turns w s front s₁ earlier ∧
      t = earlier ++ ((Action.runCommand c w s₁).trace ++ later) := by
  induction h generalizing front with
  | nil => simp at hc
  | aside hown _ ih =>
    obtain ⟨s₁, earlier, later, hfront, rfl⟩ := ih hc
    exact ⟨s₁, _, later, .aside hown hfront, (List.append_assoc _ _ _).symm⟩
  | @turn s s' d rest t _ ih =>
    cases front with
    | nil =>
      obtain ⟨rfl, rfl⟩ := List.cons.inj hc
      exact ⟨s, [], t, .nil, rfl⟩
    | cons d' front =>
      obtain ⟨rfl, hrest⟩ := List.cons.inj hc
      obtain ⟨s₁, earlier, later, hfront, rfl⟩ := ih hrest
      exact ⟨s₁, _, later, .turn hfront, (List.append_assoc _ _ _).symm⟩

/-- An entry that is no aside has been left by a command in its turn. -/
theorem Turns.exists_turn {w : World} {s s' : Session} {commands : List Command}
    {t before after : Trace} {e : Entry} (h : Turns w s commands s' t) (he : ¬ e.OfAside)
    (ht : t = before ++ e :: after) :
    ∃ front c back s₁ earlier own more later, commands = front ++ c :: back ∧
      Turns w s front s₁ earlier ∧ t = earlier ++ ((Action.runCommand c w s₁).trace ++ later) ∧
      before = earlier ++ own ∧ (Action.runCommand c w s₁).trace = own ++ e :: more := by
  induction h generalizing before with
  | nil => simp at ht
  | @aside s s' commands own t hown _ ih =>
    rcases append_eq_append_cons ht with ⟨more, hmem, -⟩ | ⟨more, rfl, hlater⟩
    · exact absurd (hown e (by simp [hmem])) he
    · obtain ⟨front, c, back, s₁, earlier, own', more', later, hcommands, hfront, hwhole, rfl,
        htrace⟩ := ih hlater
      exact ⟨front, c, back, s₁, own ++ earlier, own', more', later, hcommands,
        .aside hown hfront, by rw [hwhole, List.append_assoc], by rw [List.append_assoc], htrace⟩
  | @turn s s' c rest t _ ih =>
    -- the entry lies in this turn, or behind it
    rcases append_eq_append_cons ht with ⟨more, hown, -⟩ | ⟨more, rfl, hlater⟩
    · exact ⟨[], c, rest, s, [], before, more, t, rfl, .nil, rfl, rfl, hown⟩
    · obtain ⟨front, d, back, s₁, earlier, own, more', later, rfl, hfront, hwhole, rfl, htrace⟩ :=
        ih hlater
      exact ⟨c :: front, d, back, s₁, _, own, more', later, rfl, .turn hfront,
        by rw [hwhole, List.append_assoc], by rw [List.append_assoc], htrace⟩

theorem not_halts_of_ok {w : World} {s : Session} {c : Command} {step : Step}
    (hargs : NamesItself c) (hturn : (Action.runCommand c w s).result = .ok step) :
    ¬ c.halts w s.path = true := by
  rw [Command.halts_iff]
  rintro ⟨f, hf⟩
  rw [Action.runCommand_result w s hargs, Command.turn_eq_error_iff.mpr hf] at hturn
  cases hturn

theorem Ran.turns {w : World} {s s' : Session} {commands : List Command} {steps : List Step}
    {fault : Option Fault} {t : Trace} (h : Ran w s commands steps fault s' t)
    (hnames : ∀ c ∈ commands, NamesItself c) :
    Turns w s (performedOf w s.path commands) s' t := by
  induction h with
  | nil => exact .nil
  | @halt s c rest f hturn =>
    have hhalts : c.halts w s.path = true :=
      Command.halts_iff.mpr ⟨f, Command.turn_eq_error_iff.mp
        (Action.runCommand_result w s (hnames c (by simp)) ▸ hturn)⟩
    rw [performedOf, if_pos hhalts, ← List.append_nil (Action.runCommand c w s).trace]
    exact .turn .nil
  | @step s s' c rest step steps fault t hturn hrest ih =>
    have hlater := ih fun d hd => hnames d (by simp [hd])
    rw [Action.runCommand_path w s (hnames c (by simp))] at hlater
    rw [performedOf, if_neg (not_halts_of_ok (hnames c (by simp)) hturn)]
    exact .turn hlater

/-! ### A line -/

namespace LineRun

variable {w : World} {s s' : Session} {line : Text} {steps : List Step} {fault : Option Fault}
  {noted commands waits : Trace}

theorem noted_ofAside (h : LineRun w s line steps fault s' noted commands waits) :
    ∀ e ∈ noted, e.OfAside := by
  intro e he
  cases e with
  | event call =>
    have hcall := Trace.mem_events.mpr he
    rw [h.notedEvents] at hcall
    cases hcall
  | _ => trivial

theorem waits_ofAside (h : LineRun w s line steps fault s' noted commands waits) :
    ∀ e ∈ waits, e.OfAside := by
  intro e he
  cases e with
  | event call =>
    have hcall := Trace.mem_events.mpr he
    rw [h.waitEvents, List.mem_map] at hcall
    obtain ⟨child, -, rfl⟩ := hcall
    trivial
  | _ => trivial

theorem turns (h : LineRun w s line steps fault s' noted commands waits) :
    Turns w s (performedOf w s.path line.commands) s' (Action.runLine line w s).trace := by
  have hran := (h.ran.turns line.commands_namesItself).append (.of_aside h.waits_ofAside)
  rw [List.append_nil] at hran
  rw [h.outcome]
  exact .aside h.noted_ofAside hran

end LineRun

theorem runLine_turns (w : World) (s : Session) (line : Text) :
    Turns w s (performedOf w s.path line.commands) (Action.runLine line w s).session
      (Action.runLine line w s).trace := by
  obtain ⟨steps, fault, s', noted, t, waits, hline⟩ := exists_lineRun w s line
  have hturns := hline.turns
  rw [hline.outcome] at hturns ⊢
  exact hturns

/-! ### Runs of lines -/

/-- Lines that are run one after another, with pauses between them. -/
inductive Driven (w : World) : Session → List Text → Session → Trace → Prop
  | nil {s : Session} : Driven w s [] s []
  | pause {s s' : Session} {lines : List Text} {own t : Trace}
      (hown : ∀ e ∈ own, e.OfPause) (hrest : Driven w s lines s' t) :
      Driven w s lines s' (own ++ t)
  | line {s s' : Session} {line : Text} {rest : List Text} {t : Trace}
      (hrest : Driven w (Action.runLine line w s).session rest s' t) :
      Driven w s (line :: rest) s' ((Action.runLine line w s).trace ++ t)

/-- The commands of a run of lines have their turns. -/
theorem Driven.turns {w : World} {s s' : Session} {lines : List Text} {t : Trace}
    (h : Driven w s lines s' t) : Turns w s (performed w s.path lines) s' t := by
  induction h with
  | nil => exact .nil
  | pause hown _ ih => exact .aside (fun e he => (hown e he).ofAside) ih
  | @line s s' line rest t _ ih =>
    have hline := runLine_turns w s line
    rw [hline.path (performedOf_namesItself w s.path line)] at ih
    exact hline.append ih

/-- The texts that a list of inputs has the loop run. -/
def inputLines (inputs : List Input) : List Text :=
  inputs.filterMap fun
    | .line text => some text.firstLine
    | .interrupt => none

/-- The lines that a run comes to: behind each it goes on or stops, as its result says. -/
def reached (w : World) (goesOn : Except Fault LineResult → Bool) :
    Session → List Text → List Text
  | _, [] => []
  | s, line :: rest =>
    line :: if goesOn (Action.runLine line w s).result
      then reached w goesOn (Action.runLine line w s).session rest else []

/-- Any fault stops a batch file. -/
def scriptGoesOn : Except Fault LineResult → Bool
  | .ok _ => true
  | .error _ => false

/-- The loop stops when the shell is left and at an interrupt, and at no other fault. -/
def loopGoesOn : Except Fault LineResult → Bool
  | .error (.exit _) | .error (.breakdown .interrupt _) => false
  | _ => true

/-- Only an exit and an interrupt stop the loop. -/
theorem eq_exit_or_interrupt {f : Fault} (h : ¬ loopGoesOn (.error f) = true) :
    (∃ status, f = .exit status) ∨ ∃ text, f = .breakdown .interrupt text := by
  cases f with
  | exit status => exact Or.inl ⟨status, rfl⟩
  | breakdown kind text =>
    cases kind with
    | interrupt => exact Or.inr ⟨text, rfl⟩
    | _ => exact absurd rfl h
  | _ => exact absurd rfl h

/-- Why a history cannot be opened, if it cannot: its name is refused, or its length.  That
    it cannot be read is no reason. -/
def History.openFault (w : World) (h : History) : Option Fault :=
  if w.nativeHistory && h.file.hasHalf then some (.unspellable h.file)
  else if h.file.hasNul then some .nulCharacter
  else if w.nativeHistory && !fitsWord h.length then some .outOfRange
  else none

def History.opens (w : World) (h : History) : Bool := (h.openFault w).isNone

/-- The lines that a run of a batch file comes to. -/
def scriptLines (w : World) (s : Session) (content : List UInt8) : List Text :=
  reached w scriptGoesOn s (Text.decode content).lines

/-- The lines that a run of the loop comes to. -/
def loopLines (w : World) (s : Session) (history : Option History) (inputs : List Input) :
    List Text :=
  if history.all (History.opens w) then reached w loopGoesOn s (inputLines inputs) else []

theorem reached_isPrefix (w : World) (goesOn : Except Fault LineResult → Bool) (s : Session)
    (lines : List Text) : reached w goesOn s lines <+: lines := by
  induction lines generalizing s with
  | nil => exact List.prefix_rfl
  | cons line rest ih =>
    unfold reached
    apply List.cons_prefix_cons.mpr
    constructor
    · rfl
    · split
      · exact ih _
      · exact List.nil_prefix

theorem scriptLines_isPrefix (w : World) (s : Session) (content : List UInt8) :
    scriptLines w s content <+: (Text.decode content).lines :=
  reached_isPrefix w _ s _

theorem loopLines_isPrefix (w : World) (s : Session) (history : Option History)
    (inputs : List Input) : loopLines w s history inputs <+: inputLines inputs := by
  unfold loopLines
  split
  · exact reached_isPrefix w _ s _
  · exact List.nil_prefix

/-- The record that names a line of a batch file before it runs. -/
def announcement (number : Nat) (line : Text) : LogRecord :=
  ⟨.loop, .debug, Text.ofString "Executing line " ++ Text.ofNat number ++ Text.ofString ": " ++
    line.trimRight, none⟩

namespace Action

/-- A batch file names the line in the log, runs it, and goes on if it returns. -/
theorem runLines_cons (w : World) (s : Session) (number : Nat) (line : Text) (rest : List Text) :
    runLines number (line :: rest) w s =
      let o := runLine line w s
      match o.result with
      | .ok _ =>
        let later := runLines (number + 1) rest w o.session
        ⟨later.result, later.session, .log (announcement number line) :: (o.trace ++ later.trace)⟩
      | .error (.exit status) =>
        ⟨.ok status, o.session, .log (announcement number line) :: o.trace⟩
      | .error f => ⟨.error f, o.session, .log (announcement number line) :: o.trace⟩ := by
  dsimp only
  rw [runLines, bind_ok (log_apply w s _ _ _), attempt_bind]
  cases (runLine line w s).result with
  | ok r => rfl
  | error f => cases f <;> simp [announcement]

/-- The loop reads the line, runs it, and goes on, if it returns, with the next input. -/
theorem interact_line_cons (w : World) (s : Session) (prompt text : Text) (rest : List Input) :
    interact prompt (.line text :: rest) w s =
      let o := runFirstLine text w s
      let later := match o.result with
        | .ok _ => interact prompt rest w o.session
        | .error f => recover (interact prompt rest) f w o.session
      ⟨later.result, later.session, .prompt prompt :: (o.trace ++ later.trace)⟩ := by
  dsimp only
  rw [interact, bind_ok (leave_apply w s _), attempt_bind]
  cases (runFirstLine text w s).result <;> rfl

theorem runLines_driven (w : World) (lines : List Text) (number : Nat) (s : Session) :
    Driven w s (reached w scriptGoesOn s lines) (runLines number lines w s).session
      (runLines number lines w s).trace := by
  induction lines generalizing number s with
  | nil => exact .nil
  | cons line rest ih =>
    have hnote : ∀ e ∈ [Entry.log (announcement number line)], e.OfPause := by
      simp [Entry.OfPause]
    have hlast : Driven w s [line] (runLine line w s).session
        ([.log (announcement number line)] ++ ((runLine line w s).trace ++ [])) :=
      .pause hnote (.line .nil)
    rw [List.append_nil] at hlast
    rw [runLines_cons, reached]
    dsimp only
    cases (runLine line w s).result with
    | ok r => exact .pause hnote (.line (ih (number + 1) _))
    | error f => cases f <;> exact hlast

/-- A batch file runs the lines that it comes to. -/
theorem runScript_driven_scriptLines (w : World) (content : List UInt8) (s : Session) :
    Driven w s (scriptLines w s content) (runScript content w s).session
      (runScript content w s).trace :=
  runLines_driven w _ 1 s

theorem runScript_driven (w : World) (content : List UInt8) (s : Session) :
    ∃ reached, reached <+: (Text.decode content).lines ∧
      Driven w s reached (runScript content w s).session (runScript content w s).trace :=
  ⟨_, scriptLines_isPrefix w s content, runScript_driven_scriptLines w content s⟩

/-- Where the loop goes on after a fault, it says so first. -/
theorem recover_of_goesOn {f : Fault} (h : loopGoesOn (.error f) = true) (w : World) (s : Session)
    (next : Action Int) :
    recover next f w s =
      ⟨(next w s).result, (next w s).session, f.notice ++ (next w s).trace⟩ := by
  cases f with
  | exit status => cases h
  | breakdown kind text =>
    cases kind with
    | interrupt => cases h
    | runtime => rfl
    | memory => rfl
  | _ => rfl

/-- After a fault the loop ends, or says so and goes on. -/
theorem recover_apply (w : World) (s : Session) (next : Action Int) (f : Fault) :
    (loopGoesOn (.error f) = false ∧ ∃ result, recover next f w s = ⟨result, s, []⟩) ∨
      (loopGoesOn (.error f) = true ∧ ∃ said : Trace, (∀ e ∈ said, e.OfNotice) ∧
        recover next f w s =
          ⟨(next w s).result, (next w s).session, said ++ (next w s).trace⟩) := by
  by_cases hgoes : loopGoesOn (.error f) = true
  · exact Or.inr ⟨hgoes, f.notice, f.notice_ofNotice, recover_of_goesOn hgoes w s next⟩
  · rcases eq_exit_or_interrupt hgoes with ⟨status, rfl⟩ | ⟨text, rfl⟩
    · exact Or.inl ⟨rfl, _, rfl⟩
    · exact Or.inl ⟨rfl, _, rfl⟩

theorem interact_driven (w : World) (prompt : Text) (inputs : List Input) (s : Session) :
    Driven w s (reached w loopGoesOn s (inputLines inputs)) (interact prompt inputs w s).session
      (interact prompt inputs w s).trace := by
  induction inputs generalizing s with
  | nil => exact .pause (by simp [Entry.OfPause]) .nil
  | cons input rest ih =>
    cases input with
    | interrupt => exact .pause (by simp [Entry.OfPause]) (ih s)
    | line text =>
      have hprompt : ∀ e ∈ [Entry.prompt prompt], e.OfPause := by simp [Entry.OfPause]
      have hlines : inputLines (.line text :: rest) = text.firstLine :: inputLines rest := rfl
      rw [interact_line_cons, runFirstLine, hlines, reached]
      dsimp only
      cases (runLine text.firstLine w s).result with
      | ok r => exact .pause hprompt (.line (ih _))
      | error f =>
        dsimp only
        rcases recover_apply w (runLine text.firstLine w s).session (interact prompt rest) f with
          ⟨hstops, result, hends⟩ | ⟨hstays, said, hsaid, hgoes⟩
        · rw [hends, if_neg (by simp [hstops])]
          exact .pause hprompt (.line .nil)
        · rw [hgoes, if_pos hstays]
          exact .pause hprompt (.line (.pause (fun e he => (hsaid e he).ofPause) (ih _)))

theorem refuseHistoryName_leaves {P : Entry → Prop} (file : Text) :
    Leaves P (refuseHistoryName file) := by
  refine leaves_world.bind fun w => ?_
  split
  · exact leaves_fail _
  · exact refuseNul_leaves file

theorem openHistory_leaves (h : History) : Leaves Entry.OfHistory (openHistory h) := by
  have hread : Leaves Entry.OfHistory (readHistory h.file) := by
    refine (refuseHistoryName_leaves _).bind fun _ => (leaves_emit trivial).bind fun _ =>
      leaves_world.bind fun w => ?_
    split
    · exact leaves_fail _
    · exact leaves_done _
  have hlimit : Leaves Entry.OfHistory (limitHistory h.length) := by
    refine leaves_world.bind fun w => ?_
    split
    · exact leaves_fail _
    · exact leaves_emit trivial
  have hsave : Leaves Entry.OfHistory (do saveHistoryAtEnd h.file; limitHistory h.length) :=
    (leaves_emit trivial).bind fun _ => hlimit
  refine hread.attempt.bind fun result => ?_
  split
  · exact (leaves_done _).bind fun _ => hsave
  · split
    · exact (leaves_log (by simp [Entry.OfHistory])).bind fun _ => hsave
    · exact hsave
  · exact (leaves_fail _).bind fun _ => hsave

theorem refuseHistoryName_apply (w : World) (s : Session) (file : Text) :
    refuseHistoryName file w s =
      ⟨if w.nativeHistory && file.hasHalf then .error (.unspellable file)
        else if file.hasNul then .error .nulCharacter else .ok (), s, []⟩ := by
  unfold refuseHistoryName refuseNul
  rw [bind_ok (world_apply w s)]
  split
  · rfl
  · split <;> rfl

theorem limitHistory_apply (w : World) (s : Session) (length : Int) :
    limitHistory length w s =
      if w.nativeHistory && !fitsWord length then ⟨.error .outOfRange, s, []⟩
      else ⟨.ok (), s, [.event (.historyLength length)]⟩ := by
  unfold limitHistory
  rw [bind_ok (world_apply w s)]
  split <;> rfl

/-- A history opens unless its name or its length is refused, and leaves the session alone. -/
theorem openHistory_spec (w : World) (s : Session) (h : History) :
    (openHistory h w s).result = (match h.openFault w with
        | some f => .error f
        | none => .ok ()) ∧
      (openHistory h w s).session = s := by
  unfold openHistory readHistory History.openFault
  rw [attempt_bind, bind_apply, refuseHistoryName_apply]
  cases hhalf : w.nativeHistory && h.file.hasHalf with
  | true => exact ⟨rfl, rfl⟩
  | false =>
    cases hnul : h.file.hasNul with
    | true => exact ⟨rfl, rfl⟩
    | false =>
      -- the name is taken, so the length decides, whether or not the file can be read
      have hlimit := limitHistory_apply w s h.length
      cases hlong : w.nativeHistory && !fitsWord h.length <;> rw [hlong] at hlimit
      all_goals
        cases hhistory : w.history with
        | none => simp [bind_apply, hhistory, hlimit, saveHistoryAtEnd]
        | some e =>
          by_cases hmissing : e = .noSuchFile <;>
            simp [bind_apply, hhistory, hmissing, hlimit, SystemError.ofErrno, saveHistoryAtEnd]

/-- A length of ten digits is no machine word. -/
example : (openHistory ⟨Text.ofString "h", 3000000000⟩ .empty (.start defaultPath)).result =
    .error .outOfRange := rfl

/-- The loop runs the lines that it comes to. -/
theorem interactive_driven_loopLines (w : World) (prompt : Text) (history : Option History)
    (inputs : List Input) (s : Session) :
    Driven w s (loopLines w s history inputs) (interactive prompt history inputs w s).session
      (interactive prompt history inputs w s).trace := by
  have hloop := interact_driven w prompt inputs s
  unfold loopLines
  cases history with
  | none => exact hloop
  | some h =>
    have hopen : ∀ e ∈ (openHistory h w s).trace, e.OfPause :=
      fun e he => (openHistory_leaves h w s e he).ofPause
    have hrun : interactive prompt (some h) inputs w s = _ :=
      bind_apply w s (openHistory h) fun _ => interact prompt inputs
    obtain ⟨hresult, hsession⟩ := openHistory_spec w s h
    rw [hrun, hsession, hresult, Option.all_some, History.opens]
    cases h.openFault w with
    | some f =>
      have hempty := Driven.pause (w := w) (s := s) hopen .nil
      rw [List.append_nil] at hempty
      exact hempty
    | none => exact .pause hopen hloop

theorem interactive_driven (w : World) (prompt : Text) (history : Option History)
    (inputs : List Input) (s : Session) :
    ∃ reached, reached <+: inputLines inputs ∧
      Driven w s reached (interactive prompt history inputs w s).session
        (interactive prompt history inputs w s).trace :=
  ⟨_, loopLines_isPrefix w s history inputs, interactive_driven_loopLines w prompt history inputs s⟩

end Action

end LineShell
