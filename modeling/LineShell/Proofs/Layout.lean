/-
  LineShell/Proofs/Layout.lean
  ============================
  **The layout of a line.**

  What a line does is fixed by its tokens, segment by segment (`Text.tokenLists`).  The
  text of a segment goes into the details of a fault as well, but these are for the log;
  what the user is told of a malformed segment is always the same.

  `Text.Relaid` lists the ways to lay a line out anew: more or other blanks, blanks or
  none around an operator, and markers with nothing between them.  None of them touches
  the tokens (`Text.Relaid.same_tokens`), and so `runLine_layout` says that nobody can tell
  from a run how its line was typed.
-/
import LineShell.Proofs.Agreement
import LineShell.Proofs.Segments

namespace LineShell

namespace Text

/-- The tokens of a line, segment by segment; a blank segment has none and is left out. -/
def tokenLists (line : Text) : List (List Text) :=
  (line.segments.map tokenize).filter fun tokens => !tokens.isEmpty

def IsBlanks (t : Text) : Prop := ∀ s ∈ t, s.isBlank = true

/-- One line can be typed instead of the other. -/
inductive Relaid : Text → Text → Prop
  | refl (t : Text) : Relaid t t
  | symm {t u : Text} (h : Relaid t u) : Relaid u t
  | trans {t u v : Text} (h : Relaid t u) (h' : Relaid u v) : Relaid t v
  /-- Blanks that stand between two tokens are as good as any others. -/
  | blanks (a b : Text) {u v : Text} (hu : u.IsBlanks) (hv : v.IsBlanks) (husome : u ≠ [])
      (hvsome : v ≠ []) : Relaid (a ++ (u ++ b)) (a ++ (v ++ b))
  /-- An operator and a marker need no blanks around them, and suffer any. -/
  | around (a b : Text) {s : Symbol} {u v : Text} (hs : s = redirectOperator ∨ s = parallelMarker)
      (hu : u.IsBlanks) (hv : v.IsBlanks) : Relaid (a ++ s :: b) (a ++ (u ++ s :: (v ++ b)))
  | leadingBlanks (t : Text) {u : Text} (hu : u.IsBlanks) : Relaid t (u ++ t)
  | trailingBlanks (t : Text) {u : Text} (hu : u.IsBlanks) : Relaid t (t ++ u)
  | marker (a b : Text) :
      Relaid (a ++ parallelMarker :: b) (a ++ parallelMarker :: parallelMarker :: b)
  | leadingMarker (t : Text) : Relaid t (parallelMarker :: t)
  | trailingMarker (t : Text) : Relaid t (t ++ [parallelMarker])

/-! ### Tokens of a line -/

theorem tokenLists_append_marker (a b : Text) :
    (a ++ parallelMarker :: b).tokenLists = a.tokenLists ++ b.tokenLists := by
  unfold tokenLists
  rw [segments_append_marker, List.map_append, List.filter_append]

/-- Without a marker a line is one segment. -/
theorem tokenLists_of_notMem {t : Text} (h : parallelMarker ∉ t) :
    t.tokenLists = [t.tokenize].filter fun tokens => !tokens.isEmpty := by
  rw [tokenLists, segments_of_notMem h, List.map_singleton]

theorem tokenLists_nil : tokenLists [] = [] := rfl

/-- Only the last segment of a text touches what is written behind it. -/
theorem tokenLists_append_left {u v : Text}
    (h : ∀ x, parallelMarker ∉ x → (x ++ u).tokenLists = (x ++ v).tokenLists) (a : Text) :
    (a ++ u).tokenLists = (a ++ v).tokenLists := by
  induction hlength : a.length using Nat.strongRecOn generalizing a with
  | _ n ih =>
    by_cases hmarker : parallelMarker ∈ a
    · obtain ⟨front, last, rfl⟩ := List.append_of_mem hmarker
      have hlast := ih last.length (by simp at hlength; omega) last rfl
      simp only [List.append_assoc, List.cons_append, tokenLists_append_marker, hlast]
    · exact h a hmarker

/-- Only the first segment of a text touches what is written before it. -/
theorem tokenLists_append_right {u v : Text}
    (h : ∀ y, parallelMarker ∉ y → (u ++ y).tokenLists = (v ++ y).tokenLists) (b : Text) :
    (u ++ b).tokenLists = (v ++ b).tokenLists := by
  by_cases hmarker : parallelMarker ∈ b
  · obtain ⟨first, rest, rfl, hfirst⟩ := List.eq_append_cons_of_mem hmarker
    rw [← List.append_assoc, ← List.append_assoc, tokenLists_append_marker,
      tokenLists_append_marker, h first hfirst]
  · exact h b hmarker

/-- A piece of a segment can be replaced by one that leaves the tokens around it as they
    are. -/
theorem tokenLists_congr {u v : Text} (hu : parallelMarker ∉ u) (hv : parallelMarker ∉ v)
    (h : ∀ x y, tokenize (x ++ (u ++ y)) = tokenize (x ++ (v ++ y))) (a b : Text) :
    (a ++ (u ++ b)).tokenLists = (a ++ (v ++ b)).tokenLists := by
  apply tokenLists_append_left
  intro x hx
  rw [← List.append_assoc, ← List.append_assoc]
  apply tokenLists_append_right
  intro y hy
  rw [List.append_assoc, List.append_assoc, tokenLists_of_notMem (by simp [hx, hu, hy]),
    tokenLists_of_notMem (by simp [hx, hv, hy]), h]

/-! ### Layouts -/

theorem IsBlanks.notMem_marker {u : Text} (h : u.IsBlanks) : parallelMarker ∉ u := by
  intro hmarker
  have hblank := h parallelMarker hmarker
  revert hblank
  decide

theorem tokenLists_append_blanks (t : Text) {u : Text} (hu : u.IsBlanks) :
    (t ++ u).tokenLists = t.tokenLists := by
  have hlast : ∀ x, parallelMarker ∉ x → (x ++ u).tokenLists = (x ++ []).tokenLists := by
    intro x hx
    rw [List.append_nil, tokenLists_of_notMem (by simp [hx, hu.notMem_marker]),
      tokenLists_of_notMem hx, tokenize_append_blanks x hu]
  rw [tokenLists_append_left hlast, List.append_nil]

theorem tokenLists_blanks_append (t : Text) {u : Text} (hu : u.IsBlanks) :
    (u ++ t).tokenLists = t.tokenLists := by
  have hfirst : ∀ y, parallelMarker ∉ y → (u ++ y).tokenLists = tokenLists ([] ++ y) := by
    intro y hy
    rw [List.nil_append, tokenLists_of_notMem (by simp [hy, hu.notMem_marker]),
      tokenLists_of_notMem hy, tokenize_blanks_append hu]
  rw [tokenLists_append_right hfirst, List.nil_append]

theorem tokenLists_around_operator (a b : Text) {u v : Text} (hu : u.IsBlanks) (hv : v.IsBlanks) :
    (a ++ redirectOperator :: b).tokenLists =
      (a ++ (u ++ redirectOperator :: (v ++ b))).tokenLists := by
  have hoperator : parallelMarker ∉ [redirectOperator] := by decide
  have hpadded : parallelMarker ∉ u ++ redirectOperator :: v := by
    intro hmem
    rcases List.mem_append.mp hmem with hmem | hmem
    · exact hu.notMem_marker hmem
    · rcases List.mem_cons.mp hmem with hmem | hmem
      · exact hoperator (List.mem_singleton.mpr hmem)
      · exact hv.notMem_marker hmem
  have hsame := tokenLists_congr hoperator hpadded (fun x y => ?_) a b
  · simpa using hsame
  · have happend : x ++ ((u ++ redirectOperator :: v) ++ y) =
        (x ++ u) ++ redirectOperator :: (v ++ y) := by simp
    rw [List.singleton_append, happend, tokenize_append_operator, tokenize_append_operator,
      tokenize_append_blanks x hu, tokenize_blanks_append hv]

theorem Relaid.same_tokens {t u : Text} (h : Relaid t u) : t.tokenLists = u.tokenLists := by
  induction h with
  | refl t => rfl
  | symm _ ih => exact ih.symm
  | trans _ _ ih ih' => exact ih.trans ih'
  | blanks a b hu hv husome hvsome =>
    apply tokenLists_congr hu.notMem_marker hv.notMem_marker
    intro x y
    rw [tokenize_append_blanks_append x y hu husome, tokenize_append_blanks_append x y hv hvsome]
  | around a b hs hu hv =>
    rcases hs with rfl | rfl
    · exact tokenLists_around_operator a b hu hv
    · rw [← List.append_assoc, tokenLists_append_marker, tokenLists_append_marker,
        tokenLists_append_blanks a hu, tokenLists_blanks_append b hv]
  | leadingBlanks t hu => exact (tokenLists_blanks_append t hu).symm
  | trailingBlanks t hu => exact (tokenLists_append_blanks t hu).symm
  | marker a b =>
    have hempty : tokenLists (parallelMarker :: b) = b.tokenLists := tokenLists_append_marker [] b
    rw [tokenLists_append_marker, tokenLists_append_marker, hempty]
  | leadingMarker t => exact (tokenLists_append_marker [] t).symm
  | trailingMarker t => rw [tokenLists_append_marker, tokenLists_nil, List.append_nil]

/-! ### What the tokens spell -/

/-- The command that tokens spell, if they spell one. -/
def spelled (tokens : List Text) : List Command :=
  (commandOfTokens [] tokens).toOption.join.toList

/-- What the user is told of tokens that spell nothing. -/
def refusal (tokens : List Text) : List Text :=
  if (commandOfTokens [] tokens).toOption.isNone
  then [ofString DiagnosticKind.redirection.message] else []

/-- Which command tokens spell, if any, does not depend on how they were typed. -/
theorem commandOfTokens_toOption (segment : Text) (tokens : List Text) :
    (commandOfTokens segment tokens).toOption = (commandOfTokens [] tokens).toOption := by
  unfold commandOfTokens
  dsimp only
  split
  · rfl
  · rfl
  · rfl
  · split <;> rfl
  · rfl

/-- To pass over blank segments loses nothing that tokens give. -/
theorem flatMap_tokenLists {α : Type} {give : List Text → List α} (hblank : give [] = [])
    (line : Text) :
    line.tokenLists.flatMap give = line.segments.flatMap fun segment => give segment.tokenize := by
  unfold tokenLists
  induction line.segments with
  | nil => rfl
  | cons segment rest ih =>
    rw [List.map_cons, List.filter_cons, List.flatMap_cons, ← ih]
    by_cases hempty : segment.tokenize = []
    · rw [hempty, hblank]
      rfl
    · rw [if_pos (by simp [hempty]), List.flatMap_cons]

theorem commands_eq_flatMap_spelled (line : Text) :
    line.commands = line.tokenLists.flatMap spelled := by
  rw [flatMap_tokenLists rfl, commands_eq]
  induction line.segments with
  | nil => rfl
  | cons segment rest ih =>
    rw [commandsOf_cons, List.flatMap_cons, ← ih, spelled,
      ← commandOfTokens_toOption segment segment.tokenize, ← parseSegment]
    rcases segment.parseSegment with f | (_ | c) <;> rfl

theorem syntaxReport_eq_flatMap_refusal (line : Text) :
    line.syntaxReport = line.tokenLists.flatMap refusal := by
  rw [flatMap_tokenLists rfl, syntaxReport_eq_replicate]
  induction line.segments with
  | nil => rfl
  | cons segment rest ih =>
    rw [List.countP_cons, List.flatMap_cons, ← ih, refusal,
      ← commandOfTokens_toOption segment segment.tokenize, ← parseSegment, ← isMalformed]
    by_cases hmalformed : segment.isMalformed = true
    · rw [if_pos hmalformed, if_pos hmalformed, List.replicate_succ, List.singleton_append]
    · rw [if_neg hmalformed, if_neg hmalformed, List.nil_append, Nat.add_zero]

end Text

/-! ### The run -/

/-- A line is known by its commands and by what is said of its malformed segments. -/
theorem runLine_indistinguishable {line line' : Text} (w : World) (s : Session)
    (hcommands : line.commands = line'.commands)
    (hreport : line.syntaxReport = line'.syntaxReport) :
    Indistinguishable (Action.runLine line w s) (Action.runLine line' w s) := by
  obtain ⟨steps, fault, s', noted, t, waits, hline⟩ := exists_lineRun w s line
  have hran := hline.ran
  rw [hcommands] at hran
  obtain ⟨noted', waits', hline'⟩ := exists_lineRun_of_ran hran
  have hsaid : (Action.runLine line w s).trace.diagnostics =
      (Action.runLine line' w s).trace.diagnostics := by
    rw [hline.diagnostics, hline'.diagnostics, hreport]
  refine ⟨?_, ?_, ?_, fun settings hhides => ?_⟩
  · rw [hline.result, hline'.result, hcommands]
  · rw [hline.session, hline'.session]
  · rw [hline.events, hline'.events]
  · rw [Trace.stderr_eq_ofLines hhides (Action.runLine_leaves line w s),
      Trace.stderr_eq_ofLines hhides (Action.runLine_leaves line' w s), hsaid]

/-- Lines with the same tokens, segment by segment, run alike, and so do lines that are
    laid out differently. -/
theorem runLine_layout {line line' : Text} (w : World) (s : Session)
    (h : line.tokenLists = line'.tokenLists ∨ line.Relaid line') :
    Indistinguishable (Action.runLine line w s) (Action.runLine line' w s) := by
  have htokens : line.tokenLists = line'.tokenLists := h.elim id Text.Relaid.same_tokens
  apply runLine_indistinguishable
  · rw [Text.commands_eq_flatMap_spelled, Text.commands_eq_flatMap_spelled, htokens]
  · rw [Text.syntaxReport_eq_flatMap_refusal, Text.syntaxReport_eq_flatMap_refusal, htokens]

/-- Two spellings of a line with a malformed segment, a failing command and an exit, and a
    third one that is got by laying the second out anew. -/
theorem spellings_indistinguishable :
    let w := World.ofPrograms [(Text.ofString "/bin/a", .ordinary)]
    let line := Text.ofString "a x>f&> y&nope>&cd&exit"
    let spaced := Text.ofString "& a\tx  >\u00a0f & & >\ry\n &nope > & cd &\u2003exit  "
    let trailed := spaced ++ [parallelMarker]
    line ≠ spaced ∧ line.tokenLists.length = 5 ∧
      Indistinguishable (Action.runLine line w (.start defaultPath))
        (Action.runLine spaced w (.start defaultPath)) ∧
      Indistinguishable (Action.runLine spaced w (.start defaultPath))
        (Action.runLine trailed w (.start defaultPath)) := by
  intro w line spaced trailed
  have htokens : line.tokenLists = spaced.tokenLists := by decide +kernel
  refine ⟨by decide, by decide +kernel, ?_, ?_⟩
  · exact runLine_layout w _ (Or.inl htokens)
  · exact runLine_layout w _ (Or.inr (.trailingMarker spaced))

end LineShell
