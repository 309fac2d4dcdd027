/-
  LineShell/Proofs/Concatenation.lean
  ===================================
  **Tokens of texts that are put together.**

  The tokenizer rewrites the whole text three times: it pads the operators, trims the
  text and cuts it at blanks.  All the same a text can be cut at any operator and at any
  blank, and its tokens are those of the pieces; to normalize a piece first makes no
  difference.

  Nothing but blanks is lost on the way: the tokens put one behind the other are the text
  without its blanks, and with a space between neighbours they are read back as they
  were.  `tokenize_cutsCleanly` states these laws together.
-/
import LineShell.Proofs.Grammar
import LineShell.Proofs.Layout

namespace LineShell.Text

/-! ### Normalizing -/

theorem tokenize_trim (t : Text) : tokenize t.trim = tokenize t := by
  obtain ⟨u, v, hu, hv, hsplit⟩ := exists_trimmed t
  conv => rhs; rw [hsplit]
  rw [tokenize_blanks_append hu, tokenize_append_blanks _ hv]

/-- Padding an operator does not join it to a word. -/
theorem head?_inWord_isolateOperators (t : Text) :
    (isolateOperators t).head?.any inWord = t.head?.any inWord := by
  cases t with
  | nil => rfl
  | cons s rest =>
    rw [isolateOperators_cons]
    split
    · next hs =>
      subst hs
      rfl
    · rfl

theorem lexemes_isolateOperators (t : Text) : lexemes (isolateOperators t) = lexemes t := by
  induction t with
  | nil => rfl
  | cons s rest ih =>
    rw [isolateOperators_cons, lexemes]
    split
    · rw [← ih]
      rfl
    · next hs => rw [lexemes, if_neg hs, ih, head?_inWord_isolateOperators]

/-- A normalized text need not be its own normal form, but it has the same tokens. -/
theorem tokenize_normalize (t : Text) : tokenize (normalize t) = tokenize t := by
  rw [normalize, tokenize_trim, tokenize_eq_lexemes, lexemes_isolateOperators,
    ← tokenize_eq_lexemes]

/-! ### What is kept -/

theorem flatten_extend (s : Symbol) (touching : Bool) (tokens : List Text) :
    (extend s touching tokens).flatten = s :: tokens.flatten := by
  unfold extend
  split
  · rfl
  · split <;> rfl

/-- The tokens hold every symbol of the text that is not blank, in its order. -/
theorem flatten_tokenize (t : Text) : (tokenize t).flatten = t.filter (!·.isBlank) := by
  rw [tokenize_eq_lexemes]
  induction t with
  | nil => rfl
  | cons s rest ih =>
    rw [lexemes]
    split
    · next hs =>
      have hkept : Symbol.isBlank s = false := by
        rw [hs]
        decide
      rw [List.filter_cons_of_pos (by simp [hkept]), List.flatten_cons, ih, hs,
        List.singleton_append]
    · split
      · next hblank => rw [List.filter_cons_of_neg (by simp [hblank]), ih]
      · next hblank => rw [flatten_extend, ih, List.filter_cons_of_pos (by simp [hblank])]

/-- A token is an operator or a word. -/
theorem token_eq_operator_or_word {t token : Text} (h : token ∈ tokenize t) :
    token = [redirectOperator] ∨ token ≠ [] ∧ ∀ s ∈ token, inWord s = true := by
  by_cases hoperator : token = [redirectOperator]
  · exact Or.inl hoperator
  · rw [tokenize_eq_lexemes] at h
    obtain ⟨hsome, hall⟩ := mem_lexemes h hoperator
    exact Or.inr ⟨hsome, fun s hs => (hall s hs).1⟩

theorem tokenize_token {t token : Text} (h : token ∈ tokenize t) : tokenize token = [token] := by
  rcases token_eq_operator_or_word h with rfl | ⟨hsome, hword⟩
  · decide
  · exact tokenize_run hsome hword

/-! ### The laws -/

/-- What the tokens of texts have to do with the texts. -/
structure CutsCleanly (a b : Text) : Prop where
  operator : tokenize (a ++ redirectOperator :: b) = tokenize a ++ [redirectOperator] :: tokenize b
  blanks : ∀ blanks : Text, blanks.IsBlanks → blanks ≠ [] →
    tokenize (a ++ (blanks ++ b)) = tokenize a ++ tokenize b
  normalized : tokenize (normalize a) = tokenize a
  kept : (tokenize a).flatten = a.filter (!·.isBlank)
  token : ∀ token ∈ tokenize a, token ≠ [] ∧
    (token = [redirectOperator] ∨ ∀ s ∈ token, s ≠ redirectOperator ∧ s.isBlank = false)
  /-- The tokens can be written down and read back. -/
  respelled : tokenize (joinWith [.char ' '] (tokenize a)) = tokenize a

/-- Texts can be cut at operators and at blanks, and only blanks are lost. -/
theorem tokenize_cutsCleanly (a b : Text) : CutsCleanly a b where
  operator := tokenize_append_operator a b
  blanks _ hblanks hsome := tokenize_append_blanks_append a b hblanks hsome
  normalized := tokenize_normalize a
  kept := flatten_tokenize a
  token token htoken := by
    rcases token_eq_operator_or_word htoken with rfl | ⟨hsome, hword⟩
    · exact ⟨by simp, Or.inl rfl⟩
    · refine ⟨hsome, Or.inr fun s hs => ?_⟩
      obtain ⟨hblank, hoperator⟩ := inWord_eq_true_iff.mp (hword s hs)
      exact ⟨hoperator, hblank⟩
  respelled := tokenize_joinWith fun _ htoken => tokenize_token htoken

/-- Normalizing twice is not normalizing once. -/
example :
    normalize (normalize (ofString "a>b")) ≠ normalize (ofString "a>b") ∧
      tokenize (normalize (normalize (ofString "a>b"))) = tokenize (ofString "a>b") := by
  decide

end LineShell.Text
