/-
  LineShell/Proofs/RoundTrip.lean
  ===============================
  **Writing commands and reading them back.**

  A command can be written in several ways, and so can a list of them: blanks are free
  around an operator and around a marker.  `Command.WrittenAs` and `Command.LineWrittenAs`
  list these ways; `Text.printLine` is one of them.  They stand between printer and
  parser: whatever way a list of well-formed commands is written, parsing reads it back
  (`Command.LineWrittenAs.parseLine_eq`).

  Together with the fact that parsing makes well-formed commands only, this tells which
  lists of commands a line can stand for, and that a line may be replaced by what is
  printed of its commands (`parseLine_roundTrip`).
-/
import LineShell.Command.Printer
import LineShell.Proofs.Grammar
import LineShell.Proofs.Layout
import LineShell.Proofs.Recovery

namespace LineShell

open Text

/-! ### Ways to write commands -/

theorem Text.isBlanks_nil : IsBlanks [] := by
  intro s hs
  cases hs

theorem Text.isBlanks_space : IsBlanks [.char ' '] := by
  intro s hs
  obtain rfl := List.mem_singleton.mp hs
  decide

namespace Command

/-- A command is written as its arguments between single spaces and, where it has a
    target, the operator and the target, with any blanks around the operator. -/
inductive WrittenAs (c : Command) : Text → Prop
  | bare (hnone : c.target = none) : WrittenAs c (joinWith [.char ' '] c.args)
  | redirected {target u v : Text} (htarget : c.target = some target) (hu : u.IsBlanks)
      (hv : v.IsBlanks) :
      WrittenAs c (joinWith [.char ' '] c.args ++ (u ++ redirectOperator :: (v ++ target)))

/-- Commands are written one after another, with a marker between neighbours and any blanks
    around each marker. -/
inductive LineWrittenAs : List Command → Text → Prop
  | nil : LineWrittenAs [] []
  | last {c : Command} {t : Text} (ht : c.WrittenAs t) : LineWrittenAs [c] t
  | cons {c next : Command} {rest : List Command} {t u v line : Text} (ht : c.WrittenAs t)
      (hu : u.IsBlanks) (hv : v.IsBlanks) (hline : LineWrittenAs (next :: rest) line) :
      LineWrittenAs (c :: next :: rest) (t ++ (u ++ parallelMarker :: (v ++ line)))

theorem writtenAs_print (c : Command) : c.WrittenAs c.print := by
  unfold print
  cases htarget : c.target with
  | none =>
    rw [List.append_nil]
    exact .bare htarget
  | some target => exact .redirected htarget isBlanks_space isBlanks_space

theorem lineWrittenAs_printLine (commands : List Command) :
    LineWrittenAs commands (printLine commands) := by
  induction commands with
  | nil => exact .nil
  | cons c rest ih =>
    cases rest with
    | nil => exact .last c.writtenAs_print
    | cons next rest =>
      have hjoined : printLine (c :: next :: rest) =
          c.print ++ ([.char ' '] ++ parallelMarker :: ([.char ' '] ++ printLine (next :: rest))) := by
        simp [printLine, joinWith]
      rw [hjoined]
      exact .cons c.writtenAs_print isBlanks_space isBlanks_space ih

/-! ### Reading a command back -/

theorem IsWord.inWord {a : Text} (h : IsWord a) : ∀ s ∈ a, inWord s = true := by
  intro s hs
  obtain ⟨hblank, hoperator, -⟩ := h.2 s hs
  exact inWord_eq_true_iff.mpr ⟨hblank, hoperator⟩

theorem IsWord.isPlain {a : Text} (h : IsWord a) : IsPlain a := by
  rintro rfl
  exact (h.2 redirectOperator List.mem_cons_self).2.1 rfl

theorem IsWord.marker_notMem {a : Text} (h : IsWord a) : parallelMarker ∉ a := by
  intro hmem
  exact (h.2 parallelMarker hmem).2.2 rfl

theorem IsWord.tokenize_eq {a : Text} (h : IsWord a) : tokenize a = [a] :=
  tokenize_run h.1 h.inWord

theorem marker_notMem_joinWith {args : List Text} (h : ∀ a ∈ args, parallelMarker ∉ a) :
    parallelMarker ∉ joinWith [.char ' '] args := by
  induction args with
  | nil => simp [joinWith]
  | cons a rest ih =>
    obtain ⟨ha, hrest⟩ := List.forall_mem_cons.mp h
    cases rest with
    | nil => exact ha
    | cons b rest =>
      have hspace : parallelMarker ≠ .char ' ' := by decide
      have hrest := ih hrest
      simp [joinWith, ha, hspace, hrest]

/-- Whatever way a command is written, its tokens spell it. -/
theorem WrittenAs.spells {c : Command} {t : Text} (h : c.WrittenAs t) (hc : c.WellFormed) :
    Spells (tokenize t) c := by
  obtain ⟨name, args, target⟩ := c
  obtain ⟨operands, hargs⟩ := List.head?_eq_some_iff.mp hc.args_head
  obtain rfl : args = name :: operands := hargs
  have hplain : ∀ a ∈ name :: operands, IsPlain a := fun a ha => (hc.args_word a ha).isPlain
  have hwords := tokenize_joinWith fun a ha => (hc.args_word a ha).tokenize_eq
  rcases h with hnone | @⟨target', u, v, htarget, hu, hv⟩
  · obtain rfl : target = none := hnone
    rw [hwords]
    exact .bare hplain
  · obtain rfl : target = some target' := htarget
    have hword : IsWord target' := hc.target_word target' rfl
    rw [← List.append_assoc, tokenize_append_operator, tokenize_append_blanks _ hu, hwords,
      tokenize_blanks_append hv, hword.tokenize_eq]
    exact .redirected hplain hword.isPlain

theorem WrittenAs.marker_notMem {c : Command} {t : Text} (h : c.WrittenAs t)
    (hc : c.WellFormed) : parallelMarker ∉ t := by
  have hargs := marker_notMem_joinWith fun a ha => (hc.args_word a ha).marker_notMem
  rcases h with hnone | @⟨target, u, v, htarget, hu, hv⟩
  · exact hargs
  · have htarget' := (hc.target_word target htarget).marker_notMem
    have hoperator : parallelMarker ≠ redirectOperator := by decide
    simp [hargs, hu.notMem_marker, hv.notMem_marker, htarget', hoperator]

/-- Blanks around a command do not matter. -/
theorem WrittenAs.parseLine_eq {c : Command} {t u v : Text} (h : c.WrittenAs t)
    (hc : c.WellFormed) (hu : u.IsBlanks) (hv : v.IsBlanks) :
    parseLine (u ++ (t ++ v)) = .ok [c] := by
  have hmarker : parallelMarker ∉ u ++ (t ++ v) := by
    simp [hu.notMem_marker, h.marker_notMem hc, hv.notMem_marker]
  have htokens : tokenize (u ++ (t ++ v)) = tokenize t := by
    rw [tokenize_blanks_append hu, tokenize_append_blanks t hv]
  rw [parseLine_of_notMem hmarker, parseSegment, htokens, (h.spells hc).commandOfTokens_eq]
  rfl

/-- Whatever way well-formed commands are written, parsing reads them back; the blanks in
    front are those that the marker before them may have. -/
theorem LineWrittenAs.parseLine_eq {commands : List Command} {line : Text}
    (h : LineWrittenAs commands line) (hformed : ∀ c ∈ commands, c.WellFormed) {blanks : Text}
    (hblanks : blanks.IsBlanks) : parseLine (blanks ++ line) = .ok commands := by
  induction h generalizing blanks with
  | nil =>
    rw [List.append_nil, parseLine_of_notMem hblanks.notMem_marker, parseSegment,
      tokenize_blanks hblanks]
    rfl
  | @last c t ht =>
    have hread := ht.parseLine_eq (hformed c List.mem_cons_self) hblanks isBlanks_nil
    rwa [List.append_nil] at hread
  | @cons c next rest t u v line ht hu hv _ ih =>
    obtain ⟨hc, hrest⟩ := List.forall_mem_cons.mp hformed
    have hcut : blanks ++ (t ++ (u ++ parallelMarker :: (v ++ line))) =
        (blanks ++ (t ++ u)) ++ parallelMarker :: (v ++ line) := by simp
    rw [hcut, parseLine_append_marker, ht.parseLine_eq hc hblanks hu, ih hrest hv]
    rfl

end Command

/-! ### Parsing and printing -/

theorem Text.wellFormed_of_parseLine {line : Text} {commands : List Command}
    (h : line.parseLine = .ok commands) : ∀ c ∈ commands, c.WellFormed := by
  obtain ⟨-, rfl⟩ := parseSegments_eq_ok_iff.mp h
  exact commands_wellFormed line

/-- What a list of commands has to do with the lines that it can be parsed from. -/
structure RoundTrip (commands : List Command) : Prop where
  /-- Lines stand for the lists of well-formed commands, and for no others. -/
  image : (∃ line, parseLine line = .ok commands) ↔ ∀ c ∈ commands, c.WellFormed
  readBack : (∀ c ∈ commands, c.WellFormed) →
    ∀ line, Command.LineWrittenAs commands line → line.parseLine = .ok commands
  /-- What is printed of the commands of a line can stand in its place. -/
  reprinted : ∀ line, parseLine line = .ok commands →
    parseLine (printLine commands) = .ok commands

/-- Parsing undoes printing, and every line with commands is as good as a printed one. -/
theorem parseLine_roundTrip (commands : List Command) : RoundTrip commands := by
  have hread : (∀ c ∈ commands, c.WellFormed) →
      ∀ line, Command.LineWrittenAs commands line → line.parseLine = .ok commands :=
    fun hformed line hline => hline.parseLine_eq hformed isBlanks_nil
  have hprinted := Command.lineWrittenAs_printLine commands
  refine {
    image := ⟨?_, ?_⟩
    readBack := hread
    reprinted := ?_ }
  · rintro ⟨line, hparse⟩
    exact wellFormed_of_parseLine hparse
  · intro hformed
    exact ⟨printLine commands, hread hformed _ hprinted⟩
  · intro line hparse
    exact hread (wellFormed_of_parseLine hparse) _ hprinted

/-- A line with blanks of several kinds, and what is printed of it. -/
example :
    (parseLine (Text.ofString "a  b>f\t&\u00a0c")).map printLine =
      .ok (Text.ofString "a b > f & c") := by
  decide

end LineShell
