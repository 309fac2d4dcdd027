/-
  LineShell/Proofs/Precedence.lean
  ================================
  **Which failure of a launch counts.**

  The program may be missing, the target may be out of reach, an argument may hold a NUL,
  the system may refuse the file or be short of processes, and any of these may come
  together.  `LaunchEnds` says in which order they count: the target is not touched before
  the program is found, the arguments are not looked at before the target is open, and so
  on (`StartEnds`).  Each way to end comes with all the calls that it makes.

  Where writes do not fail, no start breaks and all that is to be written can be spelled by
  bytes, a launch has exactly one of these endings (`launch_precedence`), and the failure of
  a refused program says the same in the log, to the user and in the target.
-/
import LineShell.Proofs.Calls
import LineShell.Proofs.Grammar

namespace LineShell

/-! ### The endings of a launch -/

/-- The message of a refused program, written into the target if there is one. -/
def Command.told (c : Command) (reason : Text) : List Event :=
  c.target.toList.flatMap fun t =>
    [.writeTarget t ((Failure.exec c.name reason).render ++ Text.ofString "\n"), .flushTarget t]

/-- How the start of a program ends once the target is open, and its calls. -/
inductive StartEnds (w : World) (path : Text) (pid : Pid) (c : Command) :
    Except Fault Child → List Event → Prop
  | nulArgument (hnul : ∃ a ∈ c.args, a.hasNul = true) :
      StartEnds w path pid c
        (.error (.reported ⟨.exec c.name (Text.ofString "embedded null byte"), c.target.isSome⟩))
        (c.told (Text.ofString "embedded null byte"))
  /-- The reason is what the system says, or its standard text where it says nothing. -/
  | fileRefused {e : Errno} {said : Option Text} {ending : WaitOutcome}
      (hclean : ∀ a ∈ c.args, a.hasNul = false)
      (hprogram : w.program path = some ⟨.fails e said, ending⟩) (hfile : e.refusesFile = true) :
      StartEnds w path pid c
        (.error (.reported
          ⟨.exec c.name (SystemError.reasonOrStandard ⟨e, said, none⟩), c.target.isSome⟩))
        (c.told (SystemError.reasonOrStandard ⟨e, said, none⟩))
  | unforked {e : Errno} {said : Option Text} {ending : WaitOutcome}
      (hclean : ∀ a ∈ c.args, a.hasNul = false)
      (hprogram : w.program path = some ⟨.fails e said, ending⟩) (hother : e.refusesFile = false) :
      StartEnds w path pid c
        (.error (.reported (Failure.fork
          (c.name ++ Text.ofString ": " ++ SystemError.message ⟨e, said, none⟩)).toError)) []
  | started {ending : WaitOutcome} (hclean : ∀ a ∈ c.args, a.hasNul = false)
      (hprogram : w.program path = some ⟨.starts, ending⟩) :
      StartEnds w path pid c (.ok ⟨c.name, path, pid, ending⟩)
        [.spawn pid path c.args c.target c.target]

/-- How a launch ends, and its calls. -/
inductive LaunchEnds (w : World) (directories : List Text) (pid : Pid) (c : Command) :
    Except Fault Child → List Event → Prop
  /-- The world is asked about every candidate that can exist, and denies each. -/
  | notFound (hlacks : w.Lacks c.name directories) :
      LaunchEnds w directories pid c
        (.error (.reported (Failure.commandNotFound c.name).toError))
        (((directories.map (candidate · c.name)).filter (!·.hasNul)).map (.access · false))
  | targetRefused {path t : Text} {fault : Fault} (hfinds : w.Finds c.name directories path)
      (htarget : c.target = some t) (hrefused : w.openFault t = some fault) :
      LaunchEnds w directories pid c
        (.error (.reported
          (Failure.redirectionFile (t ++ Text.ofString ": " ++ fault.message)).toError))
        (w.search c.name directories)
  | opened {path : Text} {result : Except Fault Child} {calls : List Event}
      (hfinds : w.Finds c.name directories path) (hopens : c.target.bind w.openFault = none)
      (hstart : StartEnds w path pid c result calls) :
      LaunchEnds w directories pid c result
        (w.search c.name directories ++ (c.target.toList.map .openTarget ++ calls ++
          c.target.toList.map .closeTarget))

/-! ### The verdict behind an ending -/

/-- Where writes succeed, the message reaches the target if bytes spell its words. -/
theorem Command.messageFault_eq_none {c : Command} {w : World} {reason : Text}
    (hwrites : ∀ t, (w.target t).writeErrno = none) (hname : c.name.hasHalf = false)
    (hreason : reason.hasHalf = false) : c.messageFault w reason = none := by
  have hspelled : (c.refusal reason).hasHalf = false := by
    rw [c.hasHalf_refusal, hname, hreason, Bool.or_false]
  rw [messageFault, Option.bind_eq_none_iff]
  intro t _
  rw [World.writeFault, hspelled, if_neg Bool.false_ne_true, hwrites, Option.map_none]

/-- A refusal whose message is not lost reaches the target. -/
theorem Verdict.refused_eq {w : World} {c : Command} {reason : Text}
    (hkept : c.messageFault w reason = none) (pid : Pid) (path : Text) :
    (Verdict.answered path (.refused reason)).result c w pid =
        .error (.reported ⟨.exec c.name reason, c.target.isSome⟩) ∧
      (StartAnswer.refused reason).calls c w pid path = c.told reason := by
  simp [Verdict.result, StartAnswer.calls, hkept, Command.told]

/-- The start ends as the system answers. -/
theorem StartEnds.verdict_eq {w : World} {path : Text} {pid : Pid} {c : Command}
    {result : Except Fault Child} {calls : List Event} (h : StartEnds w path pid c result calls)
    (hpath : path.hasNul = false)
    (hkept : ∀ reason, w.startAnswer path c.args = .refused reason →
      c.messageFault w reason = none) :
    (Verdict.answered path (w.startAnswer path c.args)).result c w pid = result ∧
      (w.startAnswer path c.args).calls c w pid path = calls := by
  have hpasses : (∀ a ∈ c.args, a.hasNul = false) →
      (path.hasNul || c.args.any Text.hasNul) = false := by
    intro hclean
    simpa [hpath] using hclean
  cases h with
  | nulArgument hnul =>
    have hany : (path.hasNul || c.args.any Text.hasNul) = true := by
      simpa [hpath] using hnul
    have hanswer : w.startAnswer path c.args = .refused Fault.nulCharacter.message := if_pos hany
    rw [hanswer]
    exact Verdict.refused_eq (hkept _ hanswer) pid path
  | @fileRefused e said ending hclean hprogram hfile =>
    have hanswer : w.startAnswer path c.args =
        .refused (SystemError.reasonOrStandard ⟨e, said, none⟩) := by
      simp [World.startAnswer, hpasses hclean, hprogram, hfile]
    rw [hanswer]
    exact Verdict.refused_eq (hkept _ hanswer) pid path
  | unforked hclean hprogram hother =>
    simp only [World.startAnswer, hpasses hclean, hprogram, hother]
    exact ⟨rfl, rfl⟩
  | started hclean hprogram =>
    simp only [World.startAnswer, hpasses hclean, hprogram]
    exact ⟨rfl, rfl⟩

theorem exists_startEnds {w : World} {path : Text} (pid : Pid) (c : Command)
    (hexec : w.executable path = true)
    (hstarts : ∀ program kind text, w.program path = some program →
      program.start ≠ .breaks kind text) :
    ∃ result calls, StartEnds w path pid c result calls := by
  obtain ⟨⟨start, ending⟩, hprogram⟩ := Option.isSome_iff_exists.mp hexec
  by_cases hnul : ∃ a ∈ c.args, a.hasNul = true
  · exact ⟨_, _, .nulArgument hnul⟩
  · have hclean : ∀ a ∈ c.args, a.hasNul = false := by simpa using hnul
    cases start with
    | starts => exact ⟨_, _, .started hclean hprogram⟩
    | breaks kind text => exact absurd rfl (hstarts _ kind text hprogram)
    | fails e said =>
      cases hfile : e.refusesFile with
      | true => exact ⟨_, _, .fileRefused hclean hprogram hfile⟩
      | false => exact ⟨_, _, .unforked hclean hprogram hfile⟩

section Launch

variable {w : World} {directories : List Text} {pid : Pid} {c : Command}

/-- A launch ends as its verdict says. -/
theorem LaunchEnds.verdict_eq {result : Except Fault Child} {events : List Event}
    (h : LaunchEnds w directories pid c result events) (hname : c.name ≠ [])
    (hkept : ∀ path reason, w.startAnswer path c.args = .refused reason →
      c.messageFault w reason = none) :
    (c.verdict w directories).result c w pid = result ∧
      w.search c.name directories ++ (c.verdict w directories).calls c w pid = events := by
  rw [Command.verdict, World.resolved_of_ne_nil hname]
  cases h with
  | notFound hlacks =>
    rw [firstExecutable_eq_none_iff.mpr hlacks, ← hlacks.search_eq hname]
    exact ⟨rfl, List.append_nil _⟩
  | @targetRefused path t fault hfinds htarget hrefused =>
    have hopen : c.target.bind w.openFault = some fault := by
      rw [htarget, Option.bind_some, hrefused]
    rw [firstExecutable_eq_some_iff.mpr hfinds, hopen]
    exact ⟨by simp [Verdict.result, htarget], List.append_nil _⟩
  | opened hfinds hopens hstart =>
    obtain ⟨hresult, hcalls⟩ := hstart.verdict_eq hfinds.usable.1 (hkept _)
    rw [firstExecutable_eq_some_iff.mpr hfinds, hopens]
    refine ⟨hresult, ?_⟩
    simp [Verdict.calls, hcalls]

theorem exists_launchEnds (w : World) (directories : List Text) (pid : Pid) (c : Command)
    (hstarts : ∀ path program kind text, w.program path = some program →
      program.start ≠ .breaks kind text) :
    ∃ result events, LaunchEnds w directories pid c result events := by
  rcases w.lacks_or_finds c.name directories with hlacks | ⟨path, hfinds⟩
  · exact ⟨_, _, .notFound hlacks⟩
  · cases hopen : c.target.bind w.openFault with
    | some fault =>
      obtain ⟨t, htarget, hrefused⟩ := Option.bind_eq_some_iff.mp hopen
      exact ⟨_, _, .targetRefused hfinds htarget hrefused⟩
    | none =>
      obtain ⟨result, calls, hstart⟩ := exists_startEnds pid c hfinds.usable.2 (hstarts path)
      exact ⟨_, _, .opened hfinds hopen hstart⟩

end Launch

/-! ### Which failure counts -/

/-- What a launch has to come to. -/
structure LaunchPrecedence (w : World) (directories : List Text) (pid : Pid) (c : Command)
    (o : Outcome Child) : Prop where
  /-- One of the endings applies, and it is the only one. -/
  ends : ∀ result events, LaunchEnds w directories pid c result events ↔
    o.result = result ∧ o.trace.events = events
  /-- The failure of a refused program reads the same wherever it is shown. -/
  message : ∀ name reason shown, o.result = .error (.reported ⟨.exec name reason, shown⟩) →
    (Failure.exec name reason).message = (Failure.exec name reason).render ∧
      ∀ t text, .writeTarget t text ∈ o.trace.events →
        text = (Failure.exec name reason).render ++ Text.ofString "\n"

theorem Failure.exec_message (name reason : Text) :
    (Failure.exec name reason).message = (Failure.exec name reason).render := by
  have hsome : (name ++ Text.ofString ": " ++ reason).isEmpty = false := by
    simp [Text.ofString]
  rw [message, detail, hsome, if_neg Bool.false_ne_true]
  rfl

theorem Text.name_ne_nil_of_parseSegment {segment : Text} {c : Command}
    (h : segment.parseSegment = .ok (some c)) : c.name ≠ [] := by
  have hspells := commandOfTokens_eq_some_iff.mp h
  obtain ⟨hhead, hparts⟩ := hspells.clean (lexed_iff.mpr rfl)
  exact (hparts c.name (List.mem_append_left _ (List.mem_of_head? hhead))).1

theorem Command.text_of_mem_told {c : Command} {reason t text : Text}
    (h : .writeTarget t text ∈ c.told reason) :
    text = (Failure.exec c.name reason).render ++ Text.ofString "\n" := by
  obtain ⟨t', -, hmem⟩ := List.mem_flatMap.mp h
  simp at hmem
  exact hmem.2

theorem StartEnds.written {w : World} {path : Text} {pid : Pid} {c : Command}
    {calls : List Event} {name reason : Text} {shown : Bool}
    (h : StartEnds w path pid c (.error (.reported ⟨.exec name reason, shown⟩)) calls)
    {t text : Text} (hwrite : .writeTarget t text ∈ calls) :
    text = (Failure.exec name reason).render ++ Text.ofString "\n" := by
  cases h with
  | nulArgument hnul => exact Command.text_of_mem_told hwrite
  | fileRefused hclean hprogram hfile => exact Command.text_of_mem_told hwrite

/-- What is written of a refused program is its message. -/
theorem LaunchEnds.written {w : World} {directories : List Text} {pid : Pid} {c : Command}
    {events : List Event} {name reason : Text} {shown : Bool}
    (h : LaunchEnds w directories pid c (.error (.reported ⟨.exec name reason, shown⟩)) events)
    {t text : Text} (hwrite : .writeTarget t text ∈ events) :
    text = (Failure.exec name reason).render ++ Text.ofString "\n" := by
  cases h with
  | opened hfinds hopens hstart =>
    rcases List.mem_append.mp hwrite with hsearch | hwrite
    · obtain ⟨p, executable, haccess⟩ := World.mem_search hsearch
      cases haccess
    · exact hstart.written (by simpa using hwrite)

/-- Every parsed command has one ending, if writes do not fail, no start breaks, and bytes
    spell the name and what the system says of a refused program. -/
theorem launch_precedence {segment : Text} {c : Command}
    (hparsed : segment.parseSegment = .ok (some c)) {w : World}
    (hwrites : ∀ t, (w.target t).writeErrno = none)
    (hstarts : ∀ path program kind text, w.program path = some program →
      program.start ≠ .breaks kind text)
    (hname : c.name.hasHalf = false)
    (hreasons : ∀ path program e reason, w.program path = some program →
      program.start = .fails e (some reason) → reason.hasHalf = false)
    (s : Session) (directories : List Text) :
    LaunchPrecedence w directories s.nextPid c (Action.launch c directories w s) := by
  have hargs : c.args.head? = some c.name := Text.namesItself_of_parseSegment hparsed
  have hsome := Text.name_ne_nil_of_parseSegment hparsed
  have hkept : ∀ path reason, w.startAnswer path c.args = .refused reason →
      c.messageFault w reason = none := by
    intro path reason hrefused
    refine Command.messageFault_eq_none hwrites hname ?_
    rcases World.reason_of_refused hrefused with ⟨r, rfl⟩ | ⟨program, e, hprogram, hstart⟩
    · exact Text.hasHalf_ofString r
    · exact hreasons path program e reason hprogram hstart
  obtain ⟨hresult, -, -⟩ := Action.launch_spec w s directories hargs
  have hevents := Action.launch_events w s directories hargs
  have hends : ∀ result events, LaunchEnds w directories s.nextPid c result events →
      (Action.launch c directories w s).result = result ∧
        (Action.launch c directories w s).trace.events = events := by
    intro result events h
    rw [hresult, hevents]
    exact h.verdict_eq hsome hkept
  obtain ⟨result, events, h⟩ := exists_launchEnds w directories s.nextPid c hstarts
  obtain ⟨rfl, rfl⟩ := hends result events h
  refine {
    ends := ?_
    message := ?_ }
  · intro result events
    refine ⟨hends result events, ?_⟩
    rintro ⟨rfl, rfl⟩
    exact h
  · intro name reason shown hexec
    rw [hexec] at h
    exact ⟨Failure.exec_message name reason, fun t text hwrite => h.written hwrite⟩

/-- `/bin/x` may not be run, for no reason given, and the target `ro` cannot be opened. -/
def World.manyFaults : World :=
  { ofPrograms [(Text.ofString "/bin/x", ⟨.fails .permissionDenied (some []), .exits 0⟩)] with
    target := fun name =>
      if name = Text.ofString "ro" then ⟨some .readOnly, none⟩ else .ordinary }

/-- The argument counts before the file, since the system is not asked about the file. -/
theorem manyFaults_precedence :
    let w := World.manyFaults
    let directories := [Text.ofString "/\x00", Text.ofString "/usr", Text.ofString "/bin"]
    let c : Command := ⟨Text.ofString "x", [Text.ofString "x", Text.ofString "a\x00"],
      some (Text.ofString "f")⟩
    let o := Action.launch c directories w (.start directories)
    (Text.ofString "x a\x00 > f").parseSegment = .ok (some c) ∧
      (∀ t, (w.target t).writeErrno = none) ∧
      (∀ path program kind text, w.program path = some program →
        program.start ≠ .breaks kind text) ∧
      c.name.hasHalf = false ∧
      (∀ path program e reason, w.program path = some program →
        program.start = .fails e (some reason) → reason.hasHalf = false) ∧
      LaunchPrecedence w directories 101 c o ∧
      o.trace.events = [.access (Text.ofString "/usr/x") false,
        .access (Text.ofString "/bin/x") true, .openTarget (Text.ofString "f"),
        .writeTarget (Text.ofString "f") (Text.ofString "x: embedded null byte\n"),
        .flushTarget (Text.ofString "f"), .closeTarget (Text.ofString "f")] := by
  intro w directories c o
  have hparsed : (Text.ofString "x a\x00 > f").parseSegment = .ok (some c) := by rfl
  have hwrites : ∀ t, (w.target t).writeErrno = none := by
    intro t
    by_cases hro : t = Text.ofString "ro" <;>
      simp [w, World.manyFaults, TargetSpec.ordinary, hro]
  have hstarts : ∀ path program kind text, w.program path = some program →
      program.start ≠ .breaks kind text := by
    intro path program kind text hprogram
    obtain ⟨-, rfl⟩ := Prod.mk.inj (List.mem_singleton.mp (World.ofPrograms_mem hprogram))
    simp
  have hname : c.name.hasHalf = false := by decide
  have hreasons : ∀ path program e reason, w.program path = some program →
      program.start = .fails e (some reason) → reason.hasHalf = false := by
    intro path program e reason hprogram hstart
    obtain ⟨-, rfl⟩ := Prod.mk.inj (List.mem_singleton.mp (World.ofPrograms_mem hprogram))
    obtain rfl := Option.some.inj (StartOutcome.fails.inj hstart).2
    rfl
  exact ⟨hparsed, hwrites, hstarts, hname, hreasons,
    launch_precedence hparsed hwrites hstarts hname hreasons (.start directories) directories,
    by decide +kernel⟩

end LineShell
