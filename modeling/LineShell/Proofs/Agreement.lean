/-
  LineShell/Proofs/Agreement.lean
  ===============================
  **The two ways to run lines agree.**

  The interactive loop is given its lines one by one, and a batch file holds them in
  one text.  Around each line the two leave notes of their own, a prompt and a record
  of detail, which neither the outside world nor the error stream sees
  (`Trace.Alike`).

  `loops_agree` runs both loops side by side over the same lines.  A blank line at the
  end, which a file may lose or gain, does nothing in either.  With
  `lines_of_holdsLines` for the text of the file this gives `script_agrees`.
-/
import LineShell.Proofs.Complaints
import LineShell.Proofs.Decoding
import LineShell.Proofs.Drives

namespace LineShell

/-! ### Traces that look the same -/

/-- Two traces that hold the same calls and show the same error stream, when details
    of the log are hidden. -/
structure Trace.Alike (t t' : Trace) : Prop where
  events : t.events = t'.events
  stderr : ∀ settings : LogSettings, settings.HidesDetail → t.stderr settings = t'.stderr settings

namespace Trace.Alike

variable {t t' u u' : Trace}

theorem refl (t : Trace) : t.Alike t := ⟨rfl, fun _ _ => rfl⟩

theorem trans (h : t.Alike t') (h' : t'.Alike u) : t.Alike u :=
  ⟨h.events.trans h'.events, fun settings hhides =>
    (h.stderr settings hhides).trans (h'.stderr settings hhides)⟩

theorem symm (h : t.Alike t') : t'.Alike t :=
  ⟨h.events.symm, fun settings hhides => (h.stderr settings hhides).symm⟩

theorem append (h : t.Alike t') (h' : u.Alike u') : (t ++ u).Alike (t' ++ u') := by
  refine ⟨?_, fun settings hhides => ?_⟩
  · rw [events_append, events_append, h.events, h'.events]
  · rw [stderr_append, stderr_append, h.stderr settings hhides, h'.stderr settings hhides]

end Trace.Alike

/-- A read is seen by nobody but the reader of the prompt. -/
theorem Trace.prompt_alike (text : Text) : Trace.Alike [.prompt text] [] := ⟨rfl, fun _ _ => rfl⟩

theorem Trace.detail_alike {r : LogRecord} (h : r.level.IsDetail) : Trace.Alike [.log r] [] := by
  refine ⟨rfl, fun settings hhides => ?_⟩
  simp [stderr, r.render_of_detail hhides h]

theorem announcement_alike (number : Nat) (line : Text) :
    Trace.Alike [.log (announcement number line)] [] := Trace.detail_alike trivial

/-- Two runs that nobody can tell apart. -/
structure Indistinguishable {α : Type} (o o' : Outcome α) : Prop where
  result : o.result = o'.result
  session : o.session = o'.session
  alike : o.trace.Alike o'.trace

/-! ### Where the lines stop -/

/-- How many lines a batch file has come to: each is named in the log before it runs. -/
def Trace.announced (t : Trace) : Nat :=
  t.countP fun
    | .log r => r.source = .loop
    | _ => false

@[simp] theorem Trace.announced_append (t t' : Trace) :
    announced (t ++ t') = t.announced + t'.announced := by
  simp [announced]

theorem Trace.announced_cons_announcement (number : Nat) (line : Text) (t : Trace) :
    announced (.log (announcement number line) :: t) = t.announced + 1 := by
  simp [announced, announcement]

theorem Trace.reads_cons_prompt (text : Text) (t : Trace) :
    reads (.prompt text :: t) = t.reads + 1 := by
  simp [reads]

/-- A line itself announces nothing and reads nothing. -/
theorem runLine_announced (w : World) (s : Session) (line : Text) :
    (Action.runLine line w s).trace.announced = 0 := by
  refine List.countP_eq_zero.mpr fun e he => ?_
  cases e with
  | log r => simpa using (Action.runLine_leaves line w s _ he).record.source_ne
  | _ => simp

theorem runLine_reads (w : World) (s : Session) (line : Text) :
    (Action.runLine line w s).trace.reads = 0 := by
  refine List.countP_eq_zero.mpr fun e he => ?_
  have hquiet := (Action.runLine_leaves line w s e he).isPrompt_eq_false
  cases e with
  | prompt text => cases hquiet
  | _ => simp

/-- Lines of which each returns, up to one that leaves the shell, if one does. -/
inductive Orderly (w : World) : Session → List Text → Prop
  | ended {s : Session} : Orderly w s []
  | left {s : Session} {line : Text} {rest : List Text} {status : Int}
      (hleaves : (Action.runLine line w s).result = .error (.exit status)) :
      Orderly w s (line :: rest)
  | next {s : Session} {line : Text} {rest : List Text} {r : LineResult}
      (hreturns : (Action.runLine line w s).result = .ok r)
      (hrest : Orderly w (Action.runLine line w s).session rest) : Orderly w s (line :: rest)

/-- The line at this place comes to an `exit` without operands, after lines that
    return. -/
inductive LeavesAt (w : World) : Session → List Text → Nat → Prop
  | here {s : Session} {line : Text} {rest : List Text}
      (hexit : HaltsWith w s.path line.commands (.exit 0)) : LeavesAt w s (line :: rest) 0
  | later {s : Session} {line : Text} {rest : List Text} {n : Nat} {r : LineResult}
      (hreturns : (Action.runLine line w s).result = .ok r)
      (hrest : LeavesAt w (Action.runLine line w s).session rest n) :
      LeavesAt w s (line :: rest) (n + 1)

/-- A run of a batch file and a run of the loop that nobody can tell apart. -/
structure Agree (script loop : Outcome Int) : Prop where
  status : script.result = .ok 0 ∧ loop.result = .ok 0
  alike : script.trace.Alike loop.trace
  session : script.session = loop.session

/-! ### Side by side -/

namespace Action

variable {w : World}

theorem runLine_blank (w : World) (s : Session) : ∃ r, runLine [] w s = ⟨.ok r, s, []⟩ := ⟨_, rfl⟩

theorem runLines_blank {blanks : List Text} (h : ∀ l ∈ blanks, l = []) (number : Nat)
    (s : Session) :
    ∃ t : Trace, runLines number blanks w s = ⟨.ok 0, s, t⟩ ∧ t.Alike [] := by
  induction blanks generalizing number with
  | nil => exact ⟨[], rfl, .refl _⟩
  | cons l rest ih =>
    obtain ⟨rfl, hrest⟩ := List.forall_mem_cons.mp h
    obtain ⟨t, hrun, ht⟩ := ih hrest (number + 1)
    obtain ⟨r, hline⟩ := runLine_blank w s
    refine ⟨[.log (announcement number [])] ++ t, ?_, (announcement_alike number []).append ht⟩
    rw [runLines_cons, hline]
    dsimp only
    rw [hrun]
    rfl

theorem interact_blank {blanks : List Text} (h : ∀ l ∈ blanks, l = []) (prompt : Text)
    (s : Session) :
    ∃ t : Trace, interact prompt (blanks.map .line) w s = ⟨.ok 0, s, t⟩ ∧ t.Alike [] := by
  induction blanks with
  | nil => exact ⟨[.prompt prompt], rfl, Trace.prompt_alike prompt⟩
  | cons l rest ih =>
    obtain ⟨rfl, hrest⟩ := List.forall_mem_cons.mp h
    obtain ⟨t, hrun, ht⟩ := ih hrest
    obtain ⟨r, hline⟩ := runLine_blank w s
    refine ⟨[.prompt prompt] ++ t, ?_, (Trace.prompt_alike prompt).append ht⟩
    have hread : runFirstLine [] w s = ⟨.ok r, s, []⟩ := hline
    rw [List.map_cons, interact_line_cons, hread]
    dsimp only
    rw [hrun]
    rfl

end Action

theorem not_leavesAt_blank {w : World} {s : Session} {blanks : List Text} {n : Nat}
    (h : ∀ l ∈ blanks, l = []) : ¬ LeavesAt w s blanks n := by
  intro hleaves
  induction hleaves with
  | @here s line rest hexit =>
    obtain rfl := h line (by simp)
    obtain ⟨r, hline⟩ := Action.runLine_blank w s
    cases (runLine_exit_iff.mpr hexit).symm.trans (congrArg Outcome.result hline)
  | later _ _ ih => exact ih fun l hl => h l (by simp [hl])

/-- Both loops over the same lines, with blank ones behind them. -/
theorem loops_agree {w : World} {lines blanks blanks' : List Text} (prompt : Text)
    (hlines : ∀ l ∈ lines, l.IsLine) (hblanks : ∀ l ∈ blanks, l = [])
    (hblanks' : ∀ l ∈ blanks', l = []) (number : Nat) (s : Session)
    (horderly : Orderly w s (lines ++ blanks')) :
    let script := Action.runLines number (lines ++ blanks) w s
    let loop := Action.interact prompt ((lines ++ blanks').map .line) w s
    Agree script loop ∧ ∀ n, LeavesAt w s (lines ++ blanks') n →
      script.trace.announced = n + 1 ∧ loop.trace.reads = n + 1 := by
  -- over the lines that both have: the blank ones are what is left in the end
  induction lines generalizing number s with
  | nil =>
    obtain ⟨t, hscript, ht⟩ := Action.runLines_blank (w := w) hblanks number s
    obtain ⟨t', hloop, ht'⟩ := Action.interact_blank (w := w) hblanks' prompt s
    dsimp only
    rw [List.nil_append, List.nil_append, hscript, hloop]
    exact ⟨⟨⟨rfl, rfl⟩, ht.trans ht'.symm, rfl⟩,
      fun n hleaves => absurd hleaves (not_leavesAt_blank hblanks')⟩
  | cons line rest ih =>
    obtain ⟨hline, hrest⟩ := List.forall_mem_cons.mp hlines
    have hread : Action.runFirstLine line w s = Action.runLine line w s := by
      rw [Action.runFirstLine, hline.firstLine]
    have hnotes : Trace.Alike [.log (announcement number line)] [.prompt prompt] :=
      (announcement_alike number line).trans (Trace.prompt_alike prompt).symm
    have hown := Trace.Alike.refl (Action.runLine line w s).trace
    have hannounced := runLine_announced w s line
    have hreads := runLine_reads w s line
    simp only [List.cons_append, List.map_cons, Action.runLines_cons, Action.interact_line_cons,
      hread]
    cases horderly with
    | @next _ _ _ r hreturns horderly =>
      rw [hreturns]
      obtain ⟨⟨hstatus, halike, hsession⟩, hstops⟩ := ih hrest (number + 1) _ horderly
      refine ⟨⟨hstatus, hnotes.append (hown.append halike), hsession⟩, fun n hleaves => ?_⟩
      cases hleaves with
      | here hexit => cases (runLine_exit_iff.mpr hexit).symm.trans hreturns
      | later _ hleaves =>
        obtain ⟨hscript, hloop⟩ := hstops _ hleaves
        constructor
        · rw [Trace.announced_cons_announcement, Trace.announced_append, hannounced, hscript,
            Nat.zero_add]
        · rw [Trace.reads_cons_prompt, Trace.reads_append, hreads, hloop, Nat.zero_add]
    | @left _ _ _ status hleft =>
      obtain rfl := (runLine_exit_iff.mp hleft).exit_status
      rw [hleft]
      simp only [Action.recover, Action.done_apply, List.append_nil]
      refine ⟨⟨⟨rfl, rfl⟩, hnotes.append hown, rfl⟩, fun n hleaves => ?_⟩
      cases hleaves with
      | here _ =>
        constructor
        · rw [Trace.announced_cons_announcement, hannounced]
        · rw [Trace.reads_cons_prompt, hreads]
      | later hreturns _ => cases hreturns.symm.trans hleft

/-- A batch file that holds lines runs as they run when they are given to the loop one by
    one, as long as none of them ends in a fault: with the same status, the same calls, the
    same error stream and the same session, and up to the same line if one leaves the
    shell. -/
theorem script_agrees {w : World} {s : Session} {lines : List Text} {content : List UInt8}
    (prompt : Text) (hlines : ∀ l ∈ lines, l.IsLine) (hcontent : Text.HoldsLines content lines)
    (horderly : Orderly w s lines) :
    let script := Action.runScript content w s
    let loop := Action.interactive prompt none (lines.map .line) w s
    Agree script loop ∧ ∀ n, LeavesAt w s lines n →
      script.trace.announced = n + 1 ∧ loop.trace.reads = n + 1 := by
  obtain ⟨shared, blanks, blanks', hblanks, hblanks', hread, rfl⟩ :=
    Text.lines_of_holdsLines hlines hcontent
  have hshared : ∀ l ∈ shared, l.IsLine := fun l hl => hlines l (by simp [hl])
  have hloops := loops_agree prompt hshared hblanks hblanks' 1 s horderly
  rw [← hread] at hloops
  exact hloops

/-- Both stop at the third of four lines, the second being blank. -/
theorem exit_stops_both :
    let w := World.ofPrograms [(Text.ofString "/bin/a", .ordinary)]
    let lines := [Text.ofString "a & nope\r", [], Text.ofString "a & exit", Text.ofString "a"]
    let content := (Text.ofString "a & nope\r\n\na & exit\na\n").encode
    let script := Action.runScript content w (.start defaultPath)
    let loop := Action.interactive defaultPrompt none (lines.map .line) w (.start defaultPath)
    Agree script loop ∧ script.trace.announced = 3 ∧ loop.trace.reads = 3 := by
  intro w lines content script loop
  have hlines : ∀ l ∈ lines, l.IsLine := by decide
  have hcontent : Text.HoldsLines content lines := Or.inr (by decide)
  obtain ⟨r, hfirst, -⟩ := Action.exists_ok_of_map
    (by decide +kernel : (Action.runLine (Text.ofString "a & nope\r") w
      (.start defaultPath)).result.toOption.map LineResult.failed = some 1)
  have hsession : (Action.runLine (Text.ofString "a & nope\r") w (.start defaultPath)).session =
      ⟨defaultPath, 1⟩ := by decide +kernel
  obtain ⟨r', hblank⟩ := Action.runLine_blank w ⟨defaultPath, 1⟩
  have hleaves : (Action.runLine (Text.ofString "a & exit") w ⟨defaultPath, 1⟩).result =
      .error (.exit 0) := by decide +kernel
  have horderly : Orderly w (.start defaultPath) lines := by
    refine .next hfirst (hsession ▸ .next (r := r') (by rw [hblank]) ?_)
    rw [hblank]
    exact .left hleaves
  have hstops : LeavesAt w (.start defaultPath) lines 2 := by
    refine .later hfirst (hsession ▸ .later (r := r') (by rw [hblank]) ?_)
    rw [hblank]
    exact .here (runLine_exit_iff.mp hleaves)
  obtain ⟨hagree, hstop⟩ := script_agrees defaultPrompt hlines hcontent horderly
  exact ⟨hagree, hstop 2 hstops⟩

end LineShell
