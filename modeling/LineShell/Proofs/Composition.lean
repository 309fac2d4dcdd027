/-
  LineShell/Proofs/Composition.lean
  =================================
  **Batch files put together.**

  A byte that ends a line is never part of a longer sequence, however broken the bytes
  before it are, so a file is read piece by piece (`Text.decode_append_lineFeed`), and its
  lines are those of the pieces but for a blank one where they meet (`Text.exists_blanks`).

  Lines in a row run as the first ones and, if each of these returns, the others after
  them; otherwise the others are never looked at (`Action.runLines_append`,
  `Action.runLines_append_of_stops`).  With both, `runScript_append` says how two files
  run that are put together with a line feed between them.
-/
import LineShell.Proofs.Agreement

namespace LineShell

/-! ### Reading -/

namespace Text

/-- A character stands at the front of the bytes when they start with its encoding. -/
theorem decodeChar?_eq_some_iff {bytes : List UInt8} {c : Char} {width : Nat} :
    decodeChar? bytes = some (c, width) ↔
      width = (String.utf8EncodeChar c).length ∧ String.utf8EncodeChar c <+: bytes := by
  constructor
  · intro h
    unfold decodeChar? at h
    split at h
    · cases h
    · next b rest =>
      split at h
      · cases h
      · next n bits hlead =>
        dsimp only at h
        split at h
        · next hencode =>
          obtain ⟨hc, rfl⟩ := Prod.mk.inj (Option.some.inj h)
          obtain ⟨lead, tail, bits', hbytes, hannounced, -⟩ := exists_lead c
          rw [hc, hbytes] at hencode
          cases n with
          | zero => cases hencode
          | succ n =>
            obtain ⟨rfl, htail⟩ := List.cons.inj hencode
            obtain ⟨hwidth, -⟩ := Prod.mk.inj (Option.some.inj (hlead.symm.trans hannounced))
            rw [hbytes]
            constructor
            · exact hwidth
            · rw [htail]
              exact List.cons_prefix_cons.mpr ⟨rfl, List.take_prefix n rest⟩
        · cases h
  · rintro ⟨rfl, rest, rfl⟩
    exact decodeChar?_encode c rest

/-- Of the bytes of a character only the first can be a line feed. -/
theorem lineFeed_notMem_tail (c : Char) : 0x0A ∉ (String.utf8EncodeChar c).tail := by
  have hcontinues : ∀ m : Nat, (0x0A : UInt8) ≠ .ofNat (m % 64 + 0x80) := by
    intro m h
    have hvalue := congrArg UInt8.toNat h
    rw [UInt8.toNat_ofNat_of_lt' (by simp [UInt8.size]; omega)] at hvalue
    change 10 = m % 64 + 0x80 at hvalue
    omega
  rw [String.utf8EncodeChar.eq_1]
  generalize c.val.toNat = n
  split
  · simp
  · split
    · simp only [List.tail_cons, List.mem_singleton, hcontinues, not_false_eq_true]
    · split <;> simp only [List.tail_cons, List.mem_cons, List.not_mem_nil, hcontinues, or_self,
        not_false_eq_true]

theorem decode_of_stray {b : UInt8} {rest : List UInt8} (h : decodeChar? (b :: rest) = none) :
    decode (b :: rest) = strayByte b :: decode rest := by
  rw [decode, decodeAfter, h]
  rfl

/-- A line feed ends whatever the bytes before it have begun. -/
theorem decode_append_lineFeed (a b : List UInt8) :
    decode (a ++ 0x0A :: b) = decode a ++ .char '\n' :: decode b := by
  -- along what is read of `a`: one character, or one stray byte
  induction hlength : a.length using Nat.strongRecOn generalizing a with
  | _ n ih =>
    cases a with
    | nil => exact decode_encode_append '\n' b
    | cons x a =>
      cases hread : decodeChar? (x :: a ++ 0x0A :: b) with
      | some found =>
        obtain ⟨c, width⟩ := found
        obtain ⟨-, rest, hbytes⟩ := decodeChar?_eq_some_iff.mp hread
        obtain ⟨lead, tail, -, hencode, -, -⟩ := exists_lead c
        rcases append_eq_append_cons hbytes with ⟨more, hinside, -⟩ | ⟨more, hfront, hrest⟩
        · -- the line feed would lie inside of the character
          refine absurd ?_ (lineFeed_notMem_tail c)
          simp [hinside]
        · have hshorter : more.length < n := by
            rw [← hlength, hfront, hencode, List.length_append, List.length_cons]
            omega
          rw [hfront, List.append_assoc, decode_encode_append, decode_encode_append,
            ih more.length hshorter more rfl, List.cons_append]
      | none =>
        have hstray : decodeChar? (x :: a) = none := by
          cases hread' : decodeChar? (x :: a) with
          | none => rfl
          | some found =>
            obtain ⟨hwidth, hprefix⟩ := decodeChar?_eq_some_iff.mp hread'
            have hlonger := hprefix.trans (List.prefix_append (x :: a) (0x0A :: b))
            cases hread.symm.trans (decodeChar?_eq_some_iff.mpr ⟨hwidth, hlonger⟩)
        have hshorter : a.length < n := by
          rw [← hlength, List.length_cons]
          exact Nat.lt_add_one a.length
        calc decode (x :: (a ++ 0x0A :: b))
            = strayByte x :: decode (a ++ 0x0A :: b) := decode_of_stray hread
          _ = strayByte x :: (decode a ++ .char '\n' :: decode b) := by
            rw [ih a.length hshorter a rfl]
          _ = decode (x :: a) ++ .char '\n' :: decode b := by
            rw [decode_of_stray hstray, List.cons_append]

/-- The lines of two texts with a line feed between them are theirs, but for a blank one
    where they meet. -/
theorem exists_blanks (a b : Text) :
    ∃ blanks : List Text, (∀ l ∈ blanks, l = []) ∧
      (a ++ .char '\n' :: b).lines = a.lines ++ (blanks ++ b.lines) := by
  rw [lines_append_lineFeed]
  rcases pieces_eq_lines a with hpieces | hpieces
  · exact ⟨[], by simp, by rw [hpieces, List.nil_append]⟩
  · exact ⟨[[]], by simp, by rw [hpieces, List.append_assoc]⟩

end Text

/-! ### Running -/

/-- What two runs leave, one behind the other; the second one says how it ends. -/
def Outcome.followedBy {α β : Type} (first : Outcome α) (second : Outcome β) : Outcome β :=
  ⟨second.result, second.session, first.trace ++ second.trace⟩

/-- Each of the lines returns, one run after another: none leaves the shell, and none ends
    in a fault. -/
def AllReturn (w : World) : Session → List Text → Prop
  | _, [] => True
  | s, line :: rest =>
    (∃ r, (Action.runLine line w s).result = .ok r) ∧
      AllReturn w (Action.runLine line w s).session rest

instance (result : Except Fault LineResult) : Decidable (∃ r, result = .ok r) :=
  match result with
  | .ok r => isTrue ⟨r, rfl⟩
  | .error _ => isFalse fun ⟨_, h⟩ => by cases h

instance AllReturn.decidable (w : World) :
    (s : Session) → (lines : List Text) → Decidable (AllReturn w s lines)
  | _, [] => isTrue trivial
  | s, line :: rest =>
    have := AllReturn.decidable w (Action.runLine line w s).session rest
    inferInstanceAs (Decidable ((∃ r, (Action.runLine line w s).result = .ok r) ∧ _))

namespace Indistinguishable

variable {α β : Type} {o o' : Outcome α}

theorem refl (o : Outcome α) : Indistinguishable o o := ⟨rfl, rfl, .refl _⟩

theorem followedBy {p p' : Outcome β} (h : Indistinguishable o o') (h' : Indistinguishable p p') :
    Indistinguishable (o.followedBy p) (o'.followedBy p') :=
  ⟨h'.result, h'.session, h.alike.append h'.alike⟩

end Indistinguishable

namespace Action

variable {w : World}

/-- Of the number of a line only the log knows. -/
theorem runLines_number (n m : Nat) (lines : List Text) (s : Session) :
    Indistinguishable (runLines n lines w s) (runLines m lines w s) := by
  induction lines generalizing n m s with
  | nil => exact .refl _
  | cons line rest ih =>
    have hnotes : Trace.Alike [.log (announcement n line)] [.log (announcement m line)] :=
      (announcement_alike n line).trans (announcement_alike m line).symm
    have hown := hnotes.append (.refl (runLine line w s).trace)
    rw [runLines_cons, runLines_cons]
    dsimp only
    cases (runLine line w s).result with
    | ok r =>
      obtain ⟨hresult, hsession, halike⟩ := ih (n + 1) (m + 1) (runLine line w s).session
      exact ⟨hresult, hsession, hnotes.append ((Trace.Alike.refl _).append halike)⟩
    | error f => cases f <;> exact ⟨rfl, rfl, hown⟩

/-- Behind lines that return the others run, in the session that those have left. -/
theorem runLines_append {front : List Text} {s : Session} (h : AllReturn w s front)
    (number : Nat) (back : List Text) :
    (runLines number front w s).result = .ok 0 ∧
      runLines number (front ++ back) w s = (runLines number front w s).followedBy
        (runLines (number + front.length) back w (runLines number front w s).session) := by
  induction front generalizing number s with
  | nil => exact ⟨rfl, rfl⟩
  | cons line rest ih =>
    obtain ⟨⟨r, hreturns⟩, hrest⟩ := h
    obtain ⟨hresult, hlater⟩ := ih hrest (number + 1)
    have hnumber : number + (line :: rest).length = number + 1 + rest.length := by
      rw [List.length_cons]
      omega
    rw [List.cons_append, runLines_cons, runLines_cons, hnumber]
    dsimp only
    rw [hreturns]
    dsimp only
    rw [hlater]
    constructor
    · exact hresult
    · simp [Outcome.followedBy]

/-- Behind lines of which one does not return the others are not looked at. -/
theorem runLines_append_of_stops {front : List Text} {s : Session} (h : ¬ AllReturn w s front)
    (number : Nat) (back : List Text) :
    runLines number (front ++ back) w s = runLines number front w s := by
  induction front generalizing number s with
  | nil => exact absurd trivial h
  | cons line rest ih =>
    rw [List.cons_append, runLines_cons, runLines_cons]
    dsimp only
    cases hresult : (runLine line w s).result with
    | ok r =>
      have hrest : ¬ AllReturn w (runLine line w s).session rest := by
        intro hrest
        exact h ⟨⟨r, hresult⟩, hrest⟩
      dsimp only
      rw [ih hrest]
    | error f => cases f <;> rfl

theorem allReturn_blank {blanks : List Text} (h : ∀ l ∈ blanks, l = []) (s : Session) :
    AllReturn w s blanks := by
  induction blanks with
  | nil => trivial
  | cons l rest ih =>
    obtain ⟨rfl, hrest⟩ := List.forall_mem_cons.mp h
    obtain ⟨r, hline⟩ := runLine_blank w s
    rw [AllReturn, hline]
    exact ⟨⟨r, rfl⟩, ih hrest⟩

/-- Blank lines in front change nothing. -/
theorem runLines_blank_append {blanks : List Text} (h : ∀ l ∈ blanks, l = []) (number : Nat)
    (lines : List Text) (s : Session) :
    Indistinguishable (runLines number (blanks ++ lines) w s) (runLines 1 lines w s) := by
  obtain ⟨t, hblank, halike⟩ := runLines_blank (w := w) h number s
  obtain ⟨-, hwhole⟩ := runLines_append (allReturn_blank h s) number lines
  obtain ⟨hresult, hsession, hown⟩ := runLines_number (number + blanks.length) 1 lines s
  rw [hwhole, hblank]
  exact ⟨hresult, hsession, halike.append hown⟩

end Action

/-- Two files with a line feed between them run one after the other if every line of the
    first one returns; if not, the second one might as well not be there. -/
theorem runScript_append (a b : List UInt8) (w : World) (s : Session) :
    let first := Action.runScript a w s
    let whole := Action.runScript (a ++ 0x0A :: b) w s
    (AllReturn w s (Text.decode a).lines → first.result = .ok 0 ∧
        Indistinguishable whole (first.followedBy (Action.runScript b w first.session))) ∧
      (¬ AllReturn w s (Text.decode a).lines → whole = first) := by
  intro first whole
  obtain ⟨blanks, hblanks, hlines⟩ := Text.exists_blanks (Text.decode a) (Text.decode b)
  rw [← Text.decode_append_lineFeed] at hlines
  have hwhole : whole =
      Action.runLines 1 ((Text.decode a).lines ++ (blanks ++ (Text.decode b).lines)) w s := by
    rw [← hlines]
    rfl
  constructor
  · intro hreturn
    obtain ⟨hresult, hrun⟩ :=
      Action.runLines_append hreturn 1 (blanks ++ (Text.decode b).lines)
    refine ⟨hresult, ?_⟩
    rw [hwhole, hrun]
    apply Indistinguishable.followedBy (.refl first)
    exact Action.runLines_blank_append hblanks _ _ first.session
  · intro hstops
    rw [hwhole]
    exact Action.runLines_append_of_stops hstops 1 _

/-- The first file ends inside of a character, which the line feed leaves broken.  The other
    one leaves the shell, and in front it hides the first. -/
theorem brokenFile_composes :
    let w := World.ofPrograms [(Text.ofString "/opt/a", .ordinary)]
    let a := (Text.ofString "path /opt\r\n\n > & a x").encode ++ [0xE2, 0x82]
    let b := (Text.ofString "a > y & exit\nnope\n").encode
    let first := Action.runScript a w (.start defaultPath)
    first.session = ⟨[Text.ofString "/opt"], 1⟩ ∧
      Indistinguishable (Action.runScript (a ++ 0x0A :: b) w (.start defaultPath))
        (first.followedBy (Action.runScript b w first.session)) ∧
      Action.runScript (b ++ 0x0A :: a) w (.start defaultPath) =
        Action.runScript b w (.start defaultPath) := by
  intro w a b first
  have hreturn : AllReturn w (.start defaultPath) (Text.decode a).lines := by decide +kernel
  have hstops : ¬ AllReturn w (.start defaultPath) (Text.decode b).lines := by decide +kernel
  refine ⟨by decide +kernel, ?_, ?_⟩
  · exact ((runScript_append a b w (.start defaultPath)).1 hreturn).2
  · exact (runScript_append b a w (.start defaultPath)).2 hstops

end LineShell
