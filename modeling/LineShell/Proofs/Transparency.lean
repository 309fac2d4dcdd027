/-
  LineShell/Proofs/Transparency.lean
  ==================================
  **Bytes pass through a batch file unchanged.**

  Files name programs by bytes that need not be UTF-8.  Reading a file loses none of them:
  the file is made of its lines, each line is read by itself and written back as it was,
  and what the parser takes out of a line is written as runs of its bytes (`BytesKept`).

  So a message about a refused program names it by the bytes of the file.  The other words
  of the message come from the shell or from the system, and as long as the system speaks
  in characters the whole of it can be written (`MessagesKept`).
-/
import LineShell.Proofs.Effects
import LineShell.Proofs.Recoding

namespace LineShell

/-! ### What is kept -/

/-- A file passes through its lines, and a line through its commands, byte by byte. -/
structure BytesKept (content : List UInt8) : Prop where
  /-- The lines make up the file; behind the last one a line feed may be missing. -/
  whole : (Text.rawLines content).flatMap (· ++ [0x0A]) = content ∨
    (Text.rawLines content).flatMap (· ++ [0x0A]) = content ++ [0x0A] ∧
      (Text.rawLines content).getLast? ≠ some []
  unbroken : ∀ raw ∈ Text.rawLines content, 0x0A ∉ raw
  read : (Text.decode content).lines = (Text.rawLines content).map Text.decode
  written : ∀ raw ∈ Text.rawLines content, (Text.decode raw).encode? = some raw
  /-- What the commands of a line are made of are runs of its bytes, in the same order. -/
  parts : ∀ raw ∈ Text.rawLines content, ∃ runs,
    ((Text.decode raw).commands.flatMap Command.parts).map Text.encode? = runs.map some ∧
      InOrder runs raw
  named : ∀ raw ∈ Text.rawLines content, ∀ c ∈ (Text.decode raw).commands,
    c.args.head? = some c.name

/-- A reason that the system gives for refusing the program is a text of characters. -/
def World.SpeaksPlainly (w : World) (path : Text) : Prop :=
  ∀ program e reason, w.program path = some program → program.start = .fails e (some reason) →
    ∀ x ∈ reason, x.isChar = true

/-- An external command whose program the system refuses to run. -/
structure Command.IsRefused (c : Command) (w : World) (path : List Text) (program reason : Text) :
    Prop where
  external : Builtin.named? c.name = none
  verdict : c.verdict w path = .answered program (.refused reason)

/-- The message of a refused program is written as the bytes of its name, a run of the
    line, and the UTF-8 of the rest. -/
def Command.SpellsRefusal (c : Command) (raw : List UInt8) (reason : Text) : Prop :=
  ∃ run r, c.name.encode? = some run ∧ run <:+: raw ∧ reason = Text.ofString r ∧
    (c.refusal reason).encode? = some (run ++ (": " ++ r ++ "\n").toUTF8.data.toList)

/-- The commands that a batch file comes to and whose program is refused say so in their
    targets, and nothing else is written into any target. -/
structure MessagesKept (w : World) (s : Session) (content : List UInt8) : Prop where
  /-- The turn writes the message, unless no bytes spell it or the target cannot take them. -/
  refusals : ∀ executed c t program reason,
    Executed w s.path (scriptLines w s content) executed c →
    c.IsRefused w (lastPath s.path executed) program reason → c.target = some t →
    (∃ raw ∈ Text.rawLines content, c ∈ (Text.decode raw).commands ∧
        (w.SpeaksPlainly program → c.SpellsRefusal raw reason)) ∧
      ∃ s₁ earlier later, Turns w s executed s₁ earlier ∧
        (Action.runScript content w s).trace =
          earlier ++ ((Action.runCommand c w s₁).trace ++ later) ∧
        (Action.runCommand c w s₁).trace.writes =
          if (c.refusal reason).encode? = none ∨ (w.target t).writeErrno ≠ none then []
          else [.writeTarget t (c.refusal reason)]
  writes : ∀ t message, .event (.writeTarget t message) ∈ (Action.runScript content w s).trace →
    ∃ executed c program reason, Executed w s.path (scriptLines w s content) executed c ∧
      c.IsRefused w (lastPath s.path executed) program reason ∧ c.target = some t ∧
      message = c.refusal reason

/-! ### Bytes -/

theorem bytesKept (content : List UInt8) : BytesKept content := by
  constructor
  · exact Text.flatMap_rawLines content
  · intro raw hraw
    exact Text.lineFeed_notMem_rawLine hraw
  · exact Text.lines_decode content
  · intro raw _
    rw [Text.encode?_eq_some (Text.isHalf_of_mem_decode raw), Text.encode_decode]
  · intro raw _
    have horder := Text.parts_inOrder (Text.decode raw)
    refine ⟨((Text.decode raw).commands.flatMap Command.parts).map Text.encode, ?_, ?_⟩
    · rw [List.map_map]
      apply List.map_congr_left
      intro part hpart
      apply Text.encode?_eq_some
      intro x hx
      exact Text.isHalf_of_mem_decode raw x ((horder.isInfix part hpart).subset hx)
    · have hbytes := horder.map_flatMap Symbol.encode
      rwa [← Text.encode, Text.encode_decode] at hbytes
  · intro raw _
    exact (Text.decode raw).commands_namesItself

/-! ### Messages -/

/-- The reason for a refusal is one of the shell's own texts or one of the system's. -/
theorem World.SpeaksPlainly.exists_ofString {w : World} {path : Text}
    (hplain : w.SpeaksPlainly path) {argv : List Text} {reason : Text}
    (h : w.startAnswer path argv = .refused reason) : ∃ r, reason = Text.ofString r := by
  rcases World.reason_of_refused h with hown | ⟨program, e, hprogram, hstart⟩
  · exact hown
  · exact Text.exists_ofString (hplain program e reason hprogram hstart)

/-- The name is taken from the line, and the rest of the message is made of characters. -/
theorem Command.IsRefused.spellsRefusal {c : Command} {w : World} {path : List Text}
    {program reason : Text} (h : c.IsRefused w path program reason)
    (hplain : w.SpeaksPlainly program) {raw : List UInt8}
    (hc : c ∈ (Text.decode raw).commands) : c.SpellsRefusal raw reason := by
  obtain ⟨-, -, hanswer⟩ := Command.verdict_eq_answered_iff.mp h.verdict
  obtain ⟨r, rfl⟩ := hplain.exists_ofString hanswer
  have hpart : c.name ∈ (Text.decode raw).commands.flatMap Command.parts := by
    apply List.mem_flatMap.mpr
    have hfirst := List.mem_of_head? ((Text.decode raw).commands_namesItself c hc)
    exact ⟨c, hc, List.mem_append_left _ hfirst⟩
  obtain ⟨front, back, hinside⟩ := (Text.parts_inOrder (Text.decode raw)).isInfix c.name hpart
  have hname : ∀ x ∈ c.name, x.isHalf = false := by
    intro x hx
    apply Text.isHalf_of_mem_decode raw
    rw [← hinside]
    simp [hx]
  have hrefusal : c.refusal (Text.ofString r) = c.name ++ Text.ofString (": " ++ r ++ "\n") := by
    simp only [refusal, Failure.render, Text.ofString_append, List.append_assoc]
  have hrest : ∀ x ∈ Text.ofString (": " ++ r ++ "\n"), x.isHalf = false := by
    intro x hx
    obtain ⟨ch, -, rfl⟩ := List.mem_map.mp hx
    rfl
  refine ⟨c.name.encode, r, Text.encode?_eq_some hname, ?_, rfl, ?_⟩
  · refine ⟨Text.encode front, Text.encode back, ?_⟩
    rw [← Text.encode_append, ← Text.encode_append, hinside, Text.encode_decode]
  · rw [hrefusal, Text.encode?_eq_some (List.forall_mem_append.mpr ⟨hname, hrest⟩),
      Text.encode_append, Text.encode_ofString]

/-- The turn of a refused command writes its message, if bytes spell it and the target takes
    them. -/
theorem Command.IsRefused.writes {c : Command} {w : World} {s : Session} {program reason t : Text}
    (h : c.IsRefused w s.path program reason) (hargs : NamesItself c) (htarget : c.target = some t) :
    (Action.runCommand c w s).trace.writes =
      if (c.refusal reason).encode? = none ∨ (w.target t).writeErrno ≠ none then []
      else [.writeTarget t (c.refusal reason)] := by
  rw [Trace.writes, Action.runCommand_events w s hargs, Command.calls, h.external]
  dsimp only
  rw [List.filter_append, World.search_filter_isWrite, h.verdict, Verdict.calls, StartAnswer.calls,
    Command.messageFault, htarget, Option.bind_some, World.writeFault, Text.encode?]
  cases (c.refusal reason).hasHalf <;> cases (w.target t).writeErrno <;> rfl

/-- Only a refused command writes anything, and nothing but its message. -/
theorem Command.exists_refused {w : World} {c : Command} {path : List Text} {pid : Pid}
    {t message : Text} (h : .writeTarget t message ∈ c.calls w path pid) :
    ∃ program reason, c.IsRefused w path program reason ∧ c.target = some t ∧
      message = c.refusal reason := by
  rcases Command.mem_calls h with ⟨p, executable, hcall⟩ | ⟨d, hcall⟩ | ⟨t', hcall | hcall⟩ |
    ⟨hname, program, answer, hverdict, hown⟩
  · cases hcall
  · cases hcall
  · cases hcall
  · cases hcall
  · cases answer with
    | refused reason =>
      rw [StartAnswer.calls] at hown
      split at hown
      · cases hown
      · obtain ⟨t', htarget, hmem⟩ := List.mem_flatMap.mp hown
        obtain ⟨rfl, rfl⟩ : t = t' ∧ message = c.refusal reason := by
          simpa [refusal] using hmem
        exact ⟨program, reason, ⟨hname, hverdict⟩, Option.mem_toList.mp htarget, rfl⟩
    | started ending => simp [StartAnswer.calls] at hown
    | unforked f => cases hown
    | broken kind text => cases hown

/-- A command that a batch file comes to is one of the commands of one of its lines. -/
theorem Executed.exists_raw {w : World} {s : Session} {content : List UInt8}
    {executed : List Command} {c : Command}
    (h : Executed w s.path (scriptLines w s content) executed c) :
    ∃ raw ∈ Text.rawLines content, c ∈ (Text.decode raw).commands := by
  obtain ⟨done, line, later, front, back, hlines, hcommands, -, -⟩ := h
  have hline : line ∈ (Text.decode content).lines := by
    apply (scriptLines_isPrefix w s content).subset
    simp [hlines]
  rw [Text.lines_decode] at hline
  obtain ⟨raw, hraw, rfl⟩ := List.mem_map.mp hline
  exact ⟨raw, hraw, by simp [hcommands]⟩

/-- Every byte string can be run as a batch file without losing a byte, and a refused
    program is named in its target by the bytes that the file names it by. -/
theorem runScript_transparent (content : List UInt8) (w : World) (s : Session) :
    BytesKept content ∧ MessagesKept w s content := by
  have hrun := (Action.runScript_driven_scriptLines w content s).runEffects
  refine ⟨bytesKept content, ?_, ?_⟩
  · intro executed c t program reason hexecuted hrefused htarget
    obtain ⟨raw, hraw, hc⟩ := hexecuted.exists_raw
    obtain ⟨s₁, earlier, later, hturns, hwhole, hpath, -⟩ := hrun.turns executed c hexecuted
    rw [← hpath] at hrefused
    have hwrites := hrefused.writes (hexecuted.namesItself c (by simp)) htarget
    exact ⟨⟨raw, hraw, hc, fun hplain => hrefused.spellsRefusal hplain hc⟩,
      s₁, earlier, later, hturns, hwhole, hwrites⟩
  · intro t message hmem
    obtain ⟨before, after, hsplit⟩ := List.append_of_mem hmem
    obtain ⟨executed, c, s₁, earlier, own, more, hexecuted, -, hturns, -, htrace⟩ :=
      hrun.launching before after _ hsplit rfl
    have hnames := hexecuted.namesItself
    have hcall : .writeTarget t message ∈ (Action.runCommand c w s₁).trace.events := by
      apply Trace.mem_events.mpr
      simp [htrace]
    rw [Action.runCommand_events w s₁ (hnames c (by simp))] at hcall
    have hpath := hturns.path_eq_lastPath fun d hd => hnames d (List.mem_append_left _ hd)
    obtain ⟨program, reason, hrefused, htarget, hmessage⟩ := Command.exists_refused hcall
    rw [hpath] at hrefused
    exact ⟨executed, c, program, reason, hexecuted, hrefused, htarget, hmessage⟩

/-- The name of the program breaks off inside of a character, and the reason is not plain
    ASCII. -/
theorem brokenName_transparent :
    let name : List UInt8 := [0x63, 0xE2, 0x82]
    let content := (Text.ofString "path /opt\n").encode ++ name ++ (Text.ofString " x > f\n").encode
    let program := Text.ofString "/opt/" ++ Text.decode name
    let w := World.ofPrograms
      [(program, ⟨.fails .permissionDenied (some (Text.ofString "refusé")), .exits 0⟩)]
    w.SpeaksPlainly program ∧ BytesKept content ∧ MessagesKept w (.start defaultPath) content ∧
      (Action.runScript content w (.start defaultPath)).trace.writes =
        [.writeTarget (Text.ofString "f") (Text.decode name ++ Text.ofString ": refusé\n")] := by
  intro name content program w
  have hplain : w.SpeaksPlainly program := by
    intro found e reason hprogram hstart
    obtain ⟨-, rfl⟩ := Prod.mk.inj (List.mem_singleton.mp (World.ofPrograms_mem hprogram))
    obtain rfl := Option.some.inj (StartOutcome.fails.inj hstart).2
    simp [Text.ofString, Symbol.isChar]
  obtain ⟨hbytes, hmessages⟩ := runScript_transparent content w (.start defaultPath)
  exact ⟨hplain, hbytes, hmessages, by decide +kernel⟩

end LineShell
