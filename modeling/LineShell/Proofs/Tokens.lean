/-
  LineShell/Proofs/Tokens.lean
  ============================
  **Tokens, and the commands they spell.**

  The tokenizer pads the operators, trims the text and takes its words.  The
  grammar of tokens knows none of these steps: an operator is a token, and so is a
  maximal run of word symbols.  `tokenize_eq_lexemes` says that both find the same
  tokens, so what is said of a token is said by recursion on the text.

  A token that is no operator is a word (`isWord_of_mem_tokenize`), and since cutting
  a line at its markers leaves none, every command of a line is well formed
  (`commands_wellFormed`).
-/
import LineShell.Proofs.Phases

namespace LineShell

namespace Text

/-! ### Pieces and words -/

theorem mem_of_mem_cutWhere {α : Type} {p : α → Bool} {l piece : List α}
    (h : piece ∈ cutWhere p l) : ∀ a ∈ piece, p a = false ∧ a ∈ l := by
  induction l generalizing piece with
  | nil =>
    obtain rfl : piece = [] := by simpa [cutWhere] using h
    simp
  | cons x rest ih =>
    have widen : ∀ {piece : List α}, piece ∈ cutWhere p rest →
        ∀ a ∈ piece, p a = false ∧ a ∈ x :: rest :=
      fun hpiece a ha => ⟨(ih hpiece a ha).1, List.mem_cons_of_mem _ (ih hpiece a ha).2⟩
    unfold cutWhere at h
    split at h
    · rcases List.mem_cons.mp h with rfl | h
      · simp
      · exact widen h
    · next hx =>
      cases hcut : cutWhere p rest with
      | nil => exact absurd hcut (cutWhere_ne_nil p rest)
      | cons first pieces =>
        rw [hcut] at h
        rcases List.mem_cons.mp h with rfl | h
        · intro a ha
          rcases List.mem_cons.mp ha with rfl | ha
          · exact ⟨by simpa using hx, List.mem_cons_self⟩
          · exact widen (hcut ▸ List.mem_cons_self) a ha
        · exact widen (hcut ▸ List.mem_cons_of_mem _ h)

theorem words_cons_blank {s : Symbol} (hs : s.isBlank = true) (t : Text) :
    words (s :: t) = words t :=
  words_append_blank [] t hs

/-- A symbol of a word extends the word that it touches, and otherwise starts one. -/
theorem words_cons {s : Symbol} (hs : s.isBlank = false) (t : Text) :
    words (s :: t) = extend s (t.head?.any (!·.isBlank)) (words t) := by
  cases t with
  | nil => simp [words, cutWhere, hs, extend]
  | cons x rest =>
    cases hx : x.isBlank with
    | true =>
      have hstarts : words (s :: x :: rest) = [s] :: words rest := by
        have hone : words [s] = [[s]] := by simp [words, cutWhere, hs]
        rw [← List.singleton_append, words_append_blank [s] rest hx, hone, List.singleton_append]
      rw [hstarts, words_cons_blank hx]
      simp only [List.head?_cons, Option.any_some, hx, Bool.not_true]
      cases words rest <;> rfl
    | false =>
      cases hcut : cutWhere Symbol.isBlank rest with
      | nil => exact absurd hcut (cutWhere_ne_nil _ rest)
      | cons piece pieces => simp [words, cutWhere, hs, hx, hcut, extend]

theorem words_append_of_blank (t : Text) {blanks : Text} (h : ∀ s ∈ blanks, s.isBlank = true) :
    words (t ++ blanks) = words t := by
  induction blanks generalizing t with
  | nil => rw [List.append_nil]
  | cons s rest ih =>
    obtain ⟨hs, hrest⟩ := List.forall_mem_cons.mp h
    rw [words_append_blank t rest hs, ← List.nil_append rest, ih [] hrest, words_nil,
      List.append_nil]

theorem words_blanks_append {blanks : Text} (h : ∀ s ∈ blanks, s.isBlank = true) (t : Text) :
    words (blanks ++ t) = words t := by
  induction blanks with
  | nil => rfl
  | cons s rest ih =>
    obtain ⟨hs, hrest⟩ := List.forall_mem_cons.mp h
    rw [List.cons_append, words_cons_blank hs, ih hrest]

/-- Trimming takes blanks from both ends and nothing else. -/
theorem exists_trimmed (t : Text) :
    ∃ u v : Text, (∀ s ∈ u, s.isBlank = true) ∧ (∀ s ∈ v, s.isBlank = true) ∧
      t = u ++ (t.trim ++ v) := by
  refine ⟨t.takeWhile Symbol.isBlank, (t.trimLeft.reverse.takeWhile Symbol.isBlank).reverse,
    ?_, ?_, ?_⟩
  · intro s hs
    exact List.all_eq_true.mp List.all_takeWhile s hs
  · intro s hs
    exact List.all_eq_true.mp List.all_takeWhile s (List.mem_reverse.mp hs)
  · rw [trim, trimRight, ← List.reverse_append, List.takeWhile_append_dropWhile,
      List.reverse_reverse, trimLeft, List.takeWhile_append_dropWhile]

theorem words_trim (t : Text) : words t.trim = words t := by
  obtain ⟨u, v, hu, hv, hsplit⟩ := exists_trimmed t
  conv => rhs; rw [hsplit]
  rw [words_blanks_append hu, words_append_of_blank _ hv]

/-! ### Tokens -/

/-- The padded text of a symbol and what follows it. -/
theorem isolateOperators_cons (s : Symbol) (t : Text) :
    isolateOperators (s :: t) =
      if s = redirectOperator then
        .char ' ' :: redirectOperator :: .char ' ' :: isolateOperators t
      else s :: isolateOperators t := by
  unfold isolateOperators
  rw [List.flatMap_cons]
  split <;> rfl

/-- Padding keeps apart what the grammar keeps apart: the next symbol is blank
    exactly when it belongs to no word. -/
theorem head?_isolateOperators (t : Text) :
    (isolateOperators t).head?.any (!·.isBlank) = t.head?.any inWord := by
  cases t with
  | nil => rfl
  | cons s rest =>
    rw [isolateOperators_cons]
    split
    · next hs =>
      subst hs
      rfl
    · next hs => simp [inWord, hs]

theorem words_isolateOperators (t : Text) : words (isolateOperators t) = lexemes t := by
  induction t with
  | nil => rfl
  | cons s rest ih =>
    rw [isolateOperators_cons, lexemes]
    split
    · have hspace : Symbol.isBlank (.char ' ') = true := by decide
      have hoperator : words [redirectOperator] = [[redirectOperator]] := by decide
      rw [words_cons_blank hspace, ← List.singleton_append, words_append_blank _ _ hspace,
        hoperator, ih]
      rfl
    · cases hs : s.isBlank with
      | true =>
        rw [words_cons_blank hs, ih]
        rfl
      | false =>
        rw [words_cons hs, ih, head?_isolateOperators]
        rfl

/-- The tokenizer finds the tokens of the grammar. -/
theorem tokenize_eq_lexemes (t : Text) : tokenize t = lexemes t := by
  rw [tokenize, normalize, words_trim, words_isolateOperators]

theorem head?_extend (s : Symbol) (touching : Bool) (tokens : List Text) :
    ∃ more, (extend s touching tokens).head? = some (s :: more) := by
  unfold extend
  split
  · exact ⟨[], rfl⟩
  · split
    · exact ⟨_, rfl⟩
    · exact ⟨[], rfl⟩

theorem mem_extend {s : Symbol} {touching : Bool} {tokens : List Text} {token : Text}
    (h : token ∈ extend s touching tokens) :
    token = [s] ∨ (touching = true ∧ ∃ first, tokens.head? = some first ∧ token = s :: first) ∨
      token ∈ tokens := by
  unfold extend at h
  split at h
  · exact Or.inl (List.mem_singleton.mp h)
  · split at h
    · next htouching =>
      rcases List.mem_cons.mp h with rfl | h
      · exact Or.inr (Or.inl ⟨htouching, _, rfl, rfl⟩)
      · exact Or.inr (Or.inr (List.mem_cons_of_mem _ h))
    · rcases List.mem_cons.mp h with rfl | h
      · exact Or.inl rfl
      · exact Or.inr (Or.inr h)

/-- A text that starts with a word symbol has a word as its first token. -/
theorem head?_lexemes_of_inWord {t first : Text} (ht : t.head?.any inWord = true)
    (hfirst : t.lexemes.head? = some first) : first ≠ [redirectOperator] := by
  cases t with
  | nil => cases ht
  | cons s rest =>
    obtain ⟨hblank, hs⟩ : s.isBlank = false ∧ s ≠ redirectOperator := by
      simpa [inWord] using ht
    obtain ⟨more, hmore⟩ := head?_extend s (rest.head?.any inWord) (lexemes rest)
    rw [lexemes, if_neg hs, if_neg (by simp [hblank]), hmore] at hfirst
    rintro rfl
    exact hs (List.cons.inj (Option.some.inj hfirst)).1

/-- A token that is no operator is a word of the text's own symbols. -/
theorem mem_lexemes {t token : Text} (h : token ∈ lexemes t) (hne : token ≠ [redirectOperator]) :
    token ≠ [] ∧ ∀ s ∈ token, inWord s = true ∧ s ∈ t := by
  induction t generalizing token with
  | nil => cases h
  | cons s rest ih =>
    have widen : ∀ {token : Text}, token ∈ lexemes rest → token ≠ [redirectOperator] →
        token ≠ [] ∧ ∀ x ∈ token, inWord x = true ∧ x ∈ s :: rest :=
      fun htoken hne => ⟨(ih htoken hne).1, fun x hx =>
        ⟨((ih htoken hne).2 x hx).1, List.mem_cons_of_mem _ ((ih htoken hne).2 x hx).2⟩⟩
    rw [lexemes] at h
    split at h
    · rcases List.mem_cons.mp h with rfl | h
      · exact absurd rfl hne
      · exact widen h hne
    · next hs =>
      split at h
      · exact widen h hne
      · next hblank =>
        have hword : inWord s = true := by simp [inWord, hs, hblank]
        rcases mem_extend h with rfl | ⟨htouching, first, hfirst, rfl⟩ | h
        · simp [hword]
        · refine ⟨by simp, fun x hx => ?_⟩
          rcases List.mem_cons.mp hx with rfl | hx
          · exact ⟨hword, List.mem_cons_self⟩
          · exact (widen (List.mem_of_head? hfirst)
              (head?_lexemes_of_inWord htouching hfirst)).2 x hx
        · exact widen h hne

/-! ### Cutting a text between its tokens -/

theorem tokenize_eq_words (t : Text) : tokenize t = words (isolateOperators t) := by
  rw [tokenize, normalize, words_trim]

theorem isolateOperators_append (a b : Text) :
    isolateOperators (a ++ b) = isolateOperators a ++ isolateOperators b :=
  List.flatMap_append

theorem ne_redirectOperator_of_isBlank {s : Symbol} (hs : s.isBlank = true) :
    s ≠ redirectOperator := by
  rintro rfl
  revert hs
  decide

theorem tokenize_append_blank (a b : Text) {s : Symbol} (hs : s.isBlank = true) :
    tokenize (a ++ s :: b) = tokenize a ++ tokenize b := by
  simp only [tokenize_eq_words, isolateOperators_append, isolateOperators_cons,
    if_neg (ne_redirectOperator_of_isBlank hs), words_append_blank _ _ hs]

theorem tokenize_append_operator (a b : Text) :
    tokenize (a ++ redirectOperator :: b) = tokenize a ++ [redirectOperator] :: tokenize b := by
  have hspace : Symbol.isBlank (.char ' ') = true := by decide
  have hoperator : words [redirectOperator] = [[redirectOperator]] := by decide
  have hpadded : words (redirectOperator :: .char ' ' :: isolateOperators b) =
      [redirectOperator] :: words (isolateOperators b) := by
    rw [← List.singleton_append, words_append_blank _ _ hspace, hoperator, List.singleton_append]
  simp only [tokenize_eq_words, isolateOperators_append, isolateOperators_cons, if_pos,
    words_append_blank _ _ hspace, hpadded]

theorem tokenize_blanks_append {blanks : Text} (h : ∀ s ∈ blanks, s.isBlank = true) (t : Text) :
    tokenize (blanks ++ t) = tokenize t := by
  induction blanks with
  | nil => rfl
  | cons s rest ih =>
    obtain ⟨hs, hrest⟩ := List.forall_mem_cons.mp h
    exact (tokenize_append_blank [] (rest ++ t) hs).trans (ih hrest)

theorem tokenize_blanks {blanks : Text} (h : ∀ s ∈ blanks, s.isBlank = true) :
    tokenize blanks = [] := by
  have happend := tokenize_blanks_append h []
  rwa [List.append_nil] at happend

theorem tokenize_append_blanks (t : Text) {blanks : Text} (h : ∀ s ∈ blanks, s.isBlank = true) :
    tokenize (t ++ blanks) = tokenize t := by
  cases blanks with
  | nil => rw [List.append_nil]
  | cons s rest =>
    obtain ⟨hs, hrest⟩ := List.forall_mem_cons.mp h
    rw [tokenize_append_blank t rest hs, tokenize_blanks hrest, List.append_nil]

/-- Blanks between two texts keep their tokens apart, however many they are. -/
theorem tokenize_append_blanks_append (a b : Text) {blanks : Text}
    (h : ∀ s ∈ blanks, s.isBlank = true) (hsome : blanks ≠ []) :
    tokenize (a ++ (blanks ++ b)) = tokenize a ++ tokenize b := by
  cases blanks with
  | nil => exact absurd rfl hsome
  | cons s rest =>
    obtain ⟨hs, hrest⟩ := List.forall_mem_cons.mp h
    rw [List.cons_append, tokenize_append_blank a (rest ++ b) hs, tokenize_blanks_append hrest]

/-- Texts that are a token each are read one by one when single spaces part them. -/
theorem tokenize_joinWith {tokens : List Text} (h : ∀ t ∈ tokens, tokenize t = [t]) :
    tokenize (joinWith [.char ' '] tokens) = tokens := by
  induction tokens with
  | nil => rfl
  | cons t rest ih =>
    obtain ⟨ht, hrest⟩ := List.forall_mem_cons.mp h
    cases rest with
    | nil => exact ht
    | cons next rest =>
      have hspace : Symbol.isBlank (.char ' ') = true := by decide
      have hlater := ih hrest
      rw [joinWith, List.append_assoc, List.singleton_append, tokenize_append_blank _ _ hspace,
        ht, hlater, List.singleton_append]
      simp

/-! ### The commands of a line -/

/-- A token of a segment that is no operator is a word, since a segment holds no marker. -/
theorem isWord_of_mem_tokenize {segment token : Text} (hmarker : parallelMarker ∉ segment)
    (h : token ∈ segment.tokenize) (hne : isOperator token = false) : Command.IsWord token := by
  rw [tokenize_eq_lexemes] at h
  obtain ⟨hnonempty, hall⟩ := mem_lexemes h (by simpa [isOperator] using hne)
  refine ⟨hnonempty, fun s hs => ?_⟩
  obtain ⟨hword, hmem⟩ := hall s hs
  obtain ⟨hblank, hoperator⟩ : s.isBlank = false ∧ s ≠ redirectOperator := by
    simpa [inWord] using hword
  exact ⟨hblank, hoperator, fun hs => hmarker (hs ▸ hmem)⟩

theorem wellFormed_of_parseSegment {segment : Text} {c : Command}
    (hmarker : parallelMarker ∉ segment) (h : segment.parseSegment = .ok (some c)) :
    c.WellFormed := by
  have hwords : ∀ a ∈ segment.tokenize.takeWhile (!isOperator ·), Command.IsWord a := by
    intro a ha
    have hne := List.all_eq_true.mp List.all_takeWhile a ha
    exact isWord_of_mem_tokenize hmarker (List.takeWhile_subset _ ha) (by simpa using hne)
  have hrest : ∀ a ∈ segment.tokenize.dropWhile (!isOperator ·), a ∈ segment.tokenize :=
    fun a ha => (List.dropWhile_suffix _).subset ha
  have hhead := namesItself_of_parseSegment h
  unfold parseSegment commandOfTokens at h
  dsimp only at h
  split at h
  · cases h
  · cases h
  · obtain rfl : _ = c := by simpa using h
    exact ⟨hhead, hwords, by simp⟩
  · next target _ htokens =>
    split at h
    · cases h
    · next hne =>
      obtain rfl : _ = c := by simpa using h
      refine ⟨hhead, hwords, fun t ht => ?_⟩
      obtain rfl : target = t := by simpa using ht
      exact isWord_of_mem_tokenize hmarker (hrest target (by simp [htokens])) (by simpa using hne)
  · cases h

theorem commands_wellFormed (line : Text) : ∀ c ∈ line.commands, c.WellFormed := by
  intro c hc
  obtain ⟨segment, hsegment, hparse⟩ := mem_commands hc
  refine wellFormed_of_parseSegment (fun hmarker => ?_) hparse
  simpa using (mem_of_mem_cutWhere hsegment _ hmarker).1

end Text

end LineShell
