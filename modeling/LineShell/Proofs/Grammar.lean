/-
  LineShell/Proofs/Grammar.lean
  =============================
  **The grammar of a segment.**

  What a segment says is told here in two steps that know nothing of the parser.
  `Lexed` reads a text from left to right: a blank is passed over, an operator is a
  token, and so is a run of word symbols, taken as long as it is.  Every text has one
  list of tokens, the one that the tokenizer finds (`lexed_iff`), although the
  tokenizer pads the operators, trims the text and cuts it at blanks instead.

  `Spells` lists the commands that tokens can be, and `Misuses` the ways in which they
  are none.  The two leave nothing out and never meet, and parsing answers as they say
  (`parseSegment_followsGrammar`).
-/
import LineShell.Proofs.Tokens
import Mathlib.Data.List.TakeWhile

namespace LineShell.Text

/-! ### Reference tokens -/

/-- The tokens of a text, read from left to right. -/
inductive Lexed : Text → List Text → Prop
  | nil : Lexed [] []
  | blank {s : Symbol} {rest : Text} {tokens : List Text} (hs : s.isBlank = true)
      (hrest : Lexed rest tokens) : Lexed (s :: rest) tokens
  | operator {rest : Text} {tokens : List Text} (hrest : Lexed rest tokens) :
      Lexed (redirectOperator :: rest) ([redirectOperator] :: tokens)
  /-- The run cannot be continued: behind it there is nothing, a blank or an operator. -/
  | word {run rest : Text} {tokens : List Text} (hsome : run ≠ [])
      (hrun : ∀ s ∈ run, inWord s = true) (hends : ∀ s ∈ rest.head?, inWord s = false)
      (hrest : Lexed rest tokens) : Lexed (run ++ rest) (run :: tokens)

theorem inWord_eq_false_iff {s : Symbol} :
    inWord s = false ↔ s.isBlank = true ∨ s = redirectOperator := by
  rw [inWord]
  cases s.isBlank <;> simp

theorem inWord_eq_true_iff {s : Symbol} :
    inWord s = true ↔ s.isBlank = false ∧ s ≠ redirectOperator := by
  simp [inWord]

theorem tokenize_run {run : Text} (hsome : run ≠ []) (hrun : ∀ s ∈ run, inWord s = true) :
    tokenize run = [run] := by
  have hpadded : isolateOperators run = run := by
    clear hsome
    induction run with
    | nil => rfl
    | cons s rest ih =>
      obtain ⟨hs, hrest⟩ := List.forall_mem_cons.mp hrun
      rw [isolateOperators_cons, if_neg (inWord_eq_true_iff.mp hs).2, ih hrest]
  have hcut : cutWhere Symbol.isBlank run = [run] := by
    apply cutWhere_eq_self
    intro s hs
    exact (inWord_eq_true_iff.mp (hrun s hs)).1
  rw [tokenize_eq_words, hpadded, words, hcut]
  simp [hsome]

/-- A run that cannot be continued is the first token. -/
theorem tokenize_run_append {run rest : Text} (hsome : run ≠ [])
    (hrun : ∀ s ∈ run, inWord s = true) (hends : ∀ s ∈ rest.head?, inWord s = false) :
    tokenize (run ++ rest) = run :: tokenize rest := by
  rcases rest with _ | ⟨s, rest⟩
  · rw [List.append_nil, tokenize_run hsome hrun]
    rfl
  · rcases inWord_eq_false_iff.mp (hends s rfl) with hs | rfl
    · have hpassed : tokenize (s :: rest) = tokenize rest := tokenize_append_blank [] rest hs
      rw [tokenize_append_blank run rest hs, tokenize_run hsome hrun, hpassed]
      rfl
    · have halone : tokenize (redirectOperator :: rest) = [redirectOperator] :: tokenize rest :=
        tokenize_append_operator [] rest
      rw [tokenize_append_operator run rest, tokenize_run hsome hrun, halone]
      rfl

theorem Lexed.tokenize_eq {t : Text} {tokens : List Text} (h : Lexed t tokens) :
    tokenize t = tokens := by
  induction h with
  | nil => rfl
  | blank hs _ ih => exact (tokenize_append_blank [] _ hs).trans ih
  | operator _ ih =>
    rw [← ih]
    exact tokenize_append_operator [] _
  | word hsome hrun hends _ ih => rw [tokenize_run_append hsome hrun hends, ih]

/-- Every text can be read: at each place one of the rules applies. -/
theorem exists_lexed (t : Text) : ∃ tokens, Lexed t tokens := by
  induction hlength : t.length using Nat.strongRecOn generalizing t with
  | _ n ih =>
    rcases t with _ | ⟨s, rest⟩
    · exact ⟨[], .nil⟩
    · by_cases hs : inWord s = true
      · -- the longest run of word symbols at the front, and what is left behind it
        have hshorter : (rest.dropWhile inWord).length < n := by
          have hle := (List.dropWhile_suffix inWord (l := rest)).length_le
          simp at hlength
          omega
        obtain ⟨tokens, htokens⟩ := ih _ hshorter (rest.dropWhile inWord) rfl
        refine ⟨(s :: rest.takeWhile inWord) :: tokens, ?_⟩
        have hsplit : s :: rest = (s :: rest.takeWhile inWord) ++ rest.dropWhile inWord := by
          rw [List.cons_append, List.takeWhile_append_dropWhile]
        rw [hsplit]
        apply Lexed.word
        · simp
        · intro x hx
          rcases List.mem_cons.mp hx with rfl | hx
          · exact hs
          · exact List.all_eq_true.mp List.all_takeWhile x hx
        · intro x hx
          have hstops := List.head?_dropWhile_not inWord rest
          rw [hx] at hstops
          simpa using hstops
        · exact htokens
      · obtain ⟨tokens, htokens⟩ := ih rest.length (by simp at hlength; omega) rest rfl
        rcases inWord_eq_false_iff.mp (Bool.eq_false_iff.mpr hs) with hblank | rfl
        · exact ⟨tokens, .blank hblank htokens⟩
        · exact ⟨_, .operator htokens⟩

/-- The tokenizer finds the reference tokens, and there are no others. -/
theorem lexed_iff {t : Text} {tokens : List Text} : Lexed t tokens ↔ tokens = tokenize t := by
  constructor
  · intro h
    exact h.tokenize_eq.symm
  · rintro rfl
    obtain ⟨tokens, htokens⟩ := exists_lexed t
    rw [htokens.tokenize_eq]
    exact htokens

/-! ### Commands and faults -/

/-- A token that is no operator. -/
def IsPlain (token : Text) : Prop := token ≠ [redirectOperator]

theorem IsPlain.not_isOperator {token : Text} (h : IsPlain token) : (!isOperator token) = true := by
  have hne : token ≠ [redirectOperator] := h
  simpa [isOperator] using hne

/-- The command that tokens spell: plain ones, the first of which is its name, and
    behind them perhaps one operator with one plain token. -/
inductive Spells : List Text → Command → Prop
  | bare {name : Text} {operands : List Text} (hplain : ∀ t ∈ name :: operands, IsPlain t) :
      Spells (name :: operands) ⟨name, name :: operands, none⟩
  | redirected {name target : Text} {operands : List Text}
      (hplain : ∀ t ∈ name :: operands, IsPlain t) (htarget : IsPlain target) :
      Spells (name :: operands ++ [[redirectOperator], target])
        ⟨name, name :: operands, some target⟩

/-- The fault of tokens that misuse the operator. -/
inductive Misuses (segment : Text) : List Text → SyntaxFault → Prop
  | leading (rest : List Text) :
      Misuses segment ([redirectOperator] :: rest) (.leadingOperator segment)
  | notOne {front rest : List Text} (hsome : front ≠ []) (hplain : ∀ t ∈ front, IsPlain t)
      (hrest : rest.length ≠ 1) :
      Misuses segment (front ++ [redirectOperator] :: rest) (.oneFileExpected segment)
  | twice {front : List Text} (hsome : front ≠ []) (hplain : ∀ t ∈ front, IsPlain t) :
      Misuses segment (front ++ [[redirectOperator], [redirectOperator]])
        (.operatorAsTarget [redirectOperator])

/-- The tokens are cut at their first operator. -/
theorem exists_plain_front (tokens : List Text) :
    (∀ t ∈ tokens, IsPlain t) ∨
      ∃ front rest, tokens = front ++ [redirectOperator] :: rest ∧ ∀ t ∈ front, IsPlain t := by
  by_cases hoperator : [redirectOperator] ∈ tokens
  · obtain ⟨front, rest, htokens, hfront⟩ := List.eq_append_cons_of_mem hoperator
    refine Or.inr ⟨front, rest, htokens, ?_⟩
    rintro t ht rfl
    exact hfront ht
  · refine Or.inl ?_
    rintro t ht rfl
    exact hoperator ht

/-- Tokens are none, or a command, or a misuse. -/
theorem spells_or_misuses (segment : Text) (tokens : List Text) :
    tokens = [] ∨ (∃ c, Spells tokens c) ∨ ∃ f, Misuses segment tokens f := by
  rcases exists_plain_front tokens with hplain | ⟨front, rest, rfl, hplain⟩
  · rcases tokens with _ | ⟨name, operands⟩
    · exact Or.inl rfl
    · exact Or.inr (Or.inl ⟨_, .bare hplain⟩)
  · refine Or.inr ?_
    rcases front with _ | ⟨name, operands⟩
    · exact Or.inr ⟨_, .leading rest⟩
    · by_cases hone : rest.length = 1
      · obtain ⟨target, rfl⟩ := List.length_eq_one_iff.mp hone
        by_cases htarget : target = [redirectOperator]
        · subst htarget
          exact Or.inr ⟨_, .twice (List.cons_ne_nil _ _) hplain⟩
        · exact Or.inl ⟨_, .redirected hplain htarget⟩
      · exact Or.inr ⟨_, .notOne (List.cons_ne_nil _ _) hplain hone⟩

/-! ### The parser -/

theorem commandOfTokens_of_plain {segment name : Text} {operands : List Text}
    (hplain : ∀ t ∈ name :: operands, IsPlain t) :
    commandOfTokens segment (name :: operands) = .ok (some ⟨name, name :: operands, none⟩) := by
  have hall : ∀ t ∈ name :: operands, (!isOperator t) = true := fun t ht =>
    (hplain t ht).not_isOperator
  have htake := List.takeWhile_eq_self_iff.mpr hall
  have hdrop := List.dropWhile_eq_nil_iff.mpr hall
  simp only [commandOfTokens, htake, hdrop]

/-- Behind plain tokens the operator is the first one that the parser comes to. -/
theorem commandOfTokens_append_operator {segment : Text} {front rest : List Text}
    (hplain : ∀ t ∈ front, IsPlain t) :
    commandOfTokens segment (front ++ [redirectOperator] :: rest) =
      match front, rest with
      | [], _ => .error (.leadingOperator segment)
      | name :: operands, [target] =>
        if isOperator target then .error (.operatorAsTarget target)
        else .ok (some ⟨name, name :: operands, some target⟩)
      | _ :: _, _ => .error (.oneFileExpected segment) := by
  have hall : ∀ t ∈ front, (!isOperator t) = true := fun t ht => (hplain t ht).not_isOperator
  have htake : (front ++ [redirectOperator] :: rest).takeWhile (!isOperator ·) = front := by
    rw [List.takeWhile_append_of_pos hall, List.takeWhile_cons_of_neg (by decide), List.append_nil]
  have hdrop : (front ++ [redirectOperator] :: rest).dropWhile (!isOperator ·) =
      [redirectOperator] :: rest := by
    rw [List.dropWhile_append_of_pos hall, List.dropWhile_cons_of_neg (by decide)]
  simp only [commandOfTokens, htake, hdrop]
  rcases front with _ | ⟨name, operands⟩
  · rfl
  · rcases rest with _ | ⟨target, _ | ⟨next, rest⟩⟩ <;> rfl

theorem Spells.commandOfTokens_eq {tokens : List Text} {c : Command} (h : Spells tokens c)
    (segment : Text) : commandOfTokens segment tokens = .ok (some c) := by
  rcases h with hplain | ⟨hplain, htarget⟩
  · exact commandOfTokens_of_plain hplain
  · rw [commandOfTokens_append_operator hplain]
    exact if_neg (by simpa using htarget.not_isOperator)

theorem Misuses.commandOfTokens_eq {segment : Text} {tokens : List Text} {f : SyntaxFault}
    (h : Misuses segment tokens f) : commandOfTokens segment tokens = .error f := by
  rcases h with rest | @⟨front, rest, hsome, hplain, hrest⟩ | @⟨front, hsome, hplain⟩
  · have hnone : ∀ t ∈ ([] : List Text), IsPlain t := by simp
    exact commandOfTokens_append_operator hnone
  · rw [commandOfTokens_append_operator hplain]
    rcases front with _ | ⟨name, operands⟩
    · exact absurd rfl hsome
    · rcases rest with _ | ⟨target, _ | ⟨next, rest⟩⟩
      · rfl
      · exact absurd rfl hrest
      · rfl
  · rw [commandOfTokens_append_operator hplain]
    rcases front with _ | ⟨name, operands⟩
    · exact absurd rfl hsome
    · rfl

theorem commandOfTokens_eq_none_iff {segment : Text} {tokens : List Text} :
    commandOfTokens segment tokens = .ok none ↔ tokens = [] := by
  constructor
  · intro hparse
    rcases spells_or_misuses segment tokens with hnone | ⟨c, hc⟩ | ⟨f, hf⟩
    · exact hnone
    · cases (hc.commandOfTokens_eq segment).symm.trans hparse
    · cases hf.commandOfTokens_eq.symm.trans hparse
  · rintro rfl
    rfl

theorem commandOfTokens_eq_some_iff {segment : Text} {tokens : List Text} {c : Command} :
    commandOfTokens segment tokens = .ok (some c) ↔ Spells tokens c := by
  constructor
  · intro hparse
    rcases spells_or_misuses segment tokens with rfl | ⟨d, hd⟩ | ⟨f, hf⟩
    · cases hparse
    · obtain rfl : d = c := by simpa [hd.commandOfTokens_eq] using hparse
      exact hd
    · cases hf.commandOfTokens_eq.symm.trans hparse
  · intro hc
    exact hc.commandOfTokens_eq segment

theorem commandOfTokens_eq_error_iff {segment : Text} {tokens : List Text} {f : SyntaxFault} :
    commandOfTokens segment tokens = .error f ↔ Misuses segment tokens f := by
  constructor
  · intro hparse
    rcases spells_or_misuses segment tokens with rfl | ⟨c, hc⟩ | ⟨g, hg⟩
    · cases hparse
    · cases (hc.commandOfTokens_eq segment).symm.trans hparse
    · obtain rfl : g = f := by simpa [hg.commandOfTokens_eq] using hparse
      exact hg
  · exact Misuses.commandOfTokens_eq

/-! ### The whole answer -/

/-- The parts of a command are plain tokens, and so runs of word symbols. -/
theorem Spells.clean {segment : Text} {tokens : List Text} {c : Command}
    (h : Spells tokens c) (hlexed : Lexed segment tokens) :
    c.args.head? = some c.name ∧
      ∀ part ∈ c.args ++ c.target.toList, part ≠ [] ∧ ∀ s ∈ part, inWord s = true := by
  have hword : ∀ token ∈ tokens, IsPlain token → token ≠ [] ∧ ∀ s ∈ token, inWord s = true := by
    intro token htoken hplain
    rw [lexed_iff.mp hlexed, tokenize_eq_lexemes] at htoken
    obtain ⟨hsome, hall⟩ := mem_lexemes htoken hplain
    exact ⟨hsome, fun s hs => (hall s hs).1⟩
  rcases h with hplain | ⟨hplain, htarget⟩
  · refine ⟨rfl, ?_⟩
    intro part hpart
    rw [Option.toList_none, List.append_nil] at hpart
    exact hword part hpart (hplain part hpart)
  · refine ⟨rfl, ?_⟩
    intro part hpart
    rcases List.mem_append.mp hpart with hpart | hpart
    · exact hword part (List.mem_append_left _ hpart) (hplain part hpart)
    · obtain rfl := List.mem_singleton.mp hpart
      exact hword _ (by simp) htarget

/-- What a parser has to make of a segment with these tokens. -/
structure FollowsGrammar (segment : Text) (tokens : List Text)
    (result : Except SyntaxFault (Option Command)) : Prop where
  blank : result = .ok none ↔ tokens = []
  command : ∀ c, result = .ok (some c) ↔ Spells tokens c
  fault : ∀ f, result = .error f ↔ Misuses segment tokens f
  /-- All that is neither blank nor a command is a failure of redirection syntax. -/
  refused : (∃ f, result = .error f ∧ f.toFailure = .redirectionSyntax f.message) ↔
    tokens ≠ [] ∧ ∀ c, ¬ Spells tokens c
  /-- A command starts with its name, and each of its parts is a run of word symbols. -/
  clean : ∀ c, result = .ok (some c) → c.args.head? = some c.name ∧
    ∀ part ∈ c.args ++ c.target.toList, part ≠ [] ∧ ∀ s ∈ part, inWord s = true

/-- A segment has one list of tokens, and parsing it follows the grammar. -/
theorem parseSegment_followsGrammar (segment : Text) :
    ∃ tokens, (∀ other, Lexed segment other ↔ other = tokens) ∧
      FollowsGrammar segment tokens segment.parseSegment := by
  have hlexed : Lexed segment segment.tokenize := lexed_iff.mpr rfl
  refine ⟨segment.tokenize, fun other => lexed_iff, ?_⟩
  refine ⟨commandOfTokens_eq_none_iff, fun c => commandOfTokens_eq_some_iff,
    fun f => commandOfTokens_eq_error_iff, ?_, ?_⟩
  · constructor
    · rintro ⟨f, hparse, -⟩
      have hmisuse := commandOfTokens_eq_error_iff.mp hparse
      refine ⟨?_, ?_⟩
      · intro hnone
        cases hparse.symm.trans (commandOfTokens_eq_none_iff.mpr hnone)
      · intro c hc
        cases hmisuse.commandOfTokens_eq.symm.trans (hc.commandOfTokens_eq segment)
    · rintro ⟨hsome, hno⟩
      rcases spells_or_misuses segment segment.tokenize with hnone | ⟨c, hc⟩ | ⟨f, hf⟩
      · exact absurd hnone hsome
      · exact absurd hc (hno c)
      · exact ⟨f, hf.commandOfTokens_eq, rfl⟩
  · intro c hparse
    exact (commandOfTokens_eq_some_iff.mp hparse).clean hlexed

/-- Blanks do not matter, and the first misuse counts. -/
example : (ofString "\u00a0a>b>").parseSegment =
    .error (.oneFileExpected (ofString "\u00a0a>b>")) := by
  rfl

end LineShell.Text
