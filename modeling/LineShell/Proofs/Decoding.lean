/-
  LineShell/Proofs/Decoding.lean
  ==============================
  **Batch files that hold given lines.**

  The encoding of a character announces its own length and carries its own bits
  (`exists_lead`), so a text of characters is read back from its bytes as it was
  written (`decode_encode`).

  Lines that are joined by line feeds are cut apart again.  Only at the end is
  something lost: a blank last line leaves no trace of itself unless a line feed
  follows it (`lines_joinWith`, `lines_joinWith_append`).
-/
import LineShell.Batch
import Mathlib.Data.List.Basic
import Mathlib.Data.List.TakeWhile

namespace LineShell.Text

/-! ### Characters -/

/-- The first byte of a sequence: its length, and the bits that are left for the
    character. -/
theorem leadByte_ofNat {m : Nat} :
    (m < 0x80 → leadByte (.ofNat m) = some (1, m)) ∧
      (m < 0x20 → leadByte (.ofNat (m + 0xC0)) = some (2, m)) ∧
      (m < 0x10 → leadByte (.ofNat (m + 0xE0)) = some (3, m)) ∧
      (m < 0x08 → leadByte (.ofNat (m + 0xF0)) = some (4, m)) := by
  have hbyte : ∀ n < 256, (UInt8.ofNat n).toNat = n := fun n hn => UInt8.toNat_ofNat_of_lt' hn
  refine ⟨fun hm => ?_, fun hm => ?_, fun hm => ?_, fun hm => ?_⟩
  all_goals
    unfold leadByte
    rw [hbyte _ (by omega)]
    grind

/-- A byte behind the first one carries six bits. -/
theorem toNat_continuation {m : Nat} : (UInt8.ofNat (m % 64 + 0x80)).toNat % 64 = m % 64 := by
  rw [UInt8.toNat_ofNat_of_lt' (by simp [UInt8.size]; omega)]
  omega

/-- The first byte of a character, with the bytes behind it, spells the character. -/
theorem exists_lead (c : Char) :
    ∃ lead tail bits, String.utf8EncodeChar c = lead :: tail ∧
      leadByte lead = some (tail.length + 1, bits) ∧
      tail.foldl (fun acc x => acc * 64 + x.toNat % 64) bits = c.toNat := by
  have hrange : c.val.toNat < 0x110000 := by
    have hvalid := c.valid
    simp only [UInt32.isValidChar, Nat.isValidChar] at hvalid
    omega
  rw [Char.toNat, String.utf8EncodeChar.eq_1]
  generalize c.val.toNat = n at hrange
  -- one case for each length: the bytes are digits in base 64, put together again
  split
  · exact ⟨_, _, n, rfl, leadByte_ofNat.1 (by omega), rfl⟩
  · split
    · refine ⟨_, _, n / 64 % 32, rfl, leadByte_ofNat.2.1 (by omega), ?_⟩
      simp only [List.foldl, toNat_continuation]
      omega
    · split
      · refine ⟨_, _, n / 4096 % 16, rfl, leadByte_ofNat.2.2.1 (by omega), ?_⟩
        simp only [List.foldl, toNat_continuation]
        omega
      · refine ⟨_, _, n / 262144 % 8, rfl, leadByte_ofNat.2.2.2 (by omega), ?_⟩
        simp only [List.foldl, toNat_continuation]
        omega

theorem decodeChar?_encode (c : Char) (rest : List UInt8) :
    decodeChar? (String.utf8EncodeChar c ++ rest) =
      some (c, (String.utf8EncodeChar c).length) := by
  obtain ⟨lead, tail, bits, hencode, hlead, hcode⟩ := exists_lead c
  simp only [hencode, decodeChar?, hlead, List.cons_append, Nat.add_sub_cancel, List.take_left',
    List.take_succ_cons, hcode, Char.ofNat_toNat, if_pos, List.length_cons]

/-! ### Texts -/

theorem decodeAfter_append (front rest : List UInt8) :
    decodeAfter front.length (front ++ rest) = decodeAfter 0 rest := by
  induction front with
  | nil => rfl
  | cons b front ih => exact ih

theorem decode_encode_append (c : Char) (rest : List UInt8) :
    decode (String.utf8EncodeChar c ++ rest) = .char c :: decode rest := by
  obtain ⟨lead, tail, -, hencode, -, -⟩ := exists_lead c
  have hread := decodeChar?_encode c rest
  rw [hencode] at hread ⊢
  rw [List.cons_append] at hread
  rw [decode, List.cons_append, decodeAfter, hread]
  exact congrArg (.char c :: ·) (decodeAfter_append tail rest)

/-- A text of characters is read as it was written. -/
theorem decode_encode {t : Text} (h : ∀ s ∈ t, s.isChar = true) : decode t.encode = t := by
  induction t with
  | nil => rfl
  | cons s rest ih =>
    obtain ⟨hs, hrest⟩ := List.forall_mem_cons.mp h
    cases s with
    | char c =>
      rw [encode, List.flatMap_cons]
      exact (decode_encode_append c _).trans (congrArg (.char c :: ·) (ih hrest))
    | raw low => cases hs
    | half place => cases hs

/-! ### Lines -/

/-- The line feed that stands between two lines. -/
def lineFeed : Text := [.char '\n']

/-- Text that can stand on one line: characters, and no line feed among them. -/
def IsLine (t : Text) : Prop := ∀ s ∈ t, s.isChar = true ∧ s ≠ .char '\n'

instance (t : Text) : Decidable t.IsLine :=
  inferInstanceAs (Decidable (∀ s ∈ t, s.isChar = true ∧ s ≠ .char '\n'))

theorem IsLine.firstLine {t : Text} (h : t.IsLine) : t.firstLine = t :=
  List.takeWhile_eq_self_iff.mpr fun s hs => bne_iff_ne.mpr (h s hs).2

theorem cutWhere_joinWith_lineFeed {lines : List Text} (hlines : ∀ l ∈ lines, l.IsLine)
    (hsome : lines ≠ []) : cutWhere (· == .char '\n') (joinWith lineFeed lines) = lines :=
  cutWhere_joinWith (by simp) (fun l hl s hs => beq_eq_false_iff_ne.mpr (hlines l hl s hs).2) hsome

/-- The pieces between line feeds are the lines, but for a blank one behind the last line
    feed, and for that of the empty text. -/
theorem pieces_eq_lines (t : Text) :
    cutWhere (· == .char '\n') t = t.lines ∨
      cutWhere (· == .char '\n') t = t.lines ++ [[]] := by
  unfold lines
  dsimp only
  split
  · next hlast => exact Or.inr (List.dropLast_append_getLast? [] hlast).symm
  · exact Or.inl rfl

/-- A line feed ends the piece before it, blank or not. -/
theorem lines_append_lineFeed (a b : Text) :
    (a ++ .char '\n' :: b).lines = cutWhere (· == .char '\n') a ++ b.lines := by
  have hsome := cutWhere_ne_nil (· == .char '\n') b
  rw [lines, cutWhere_append_separator _ a b (by simp), List.getLast?_append_of_ne_nil _ hsome,
    lines]
  split
  · exact List.dropLast_append_of_ne_nil hsome
  · rfl

/-- Lines that are joined are the lines of the text, up to a last one that is blank. -/
theorem lines_joinWith {lines : List Text} (hlines : ∀ l ∈ lines, l.IsLine) :
    lines = (joinWith lineFeed lines).lines ∨ lines = (joinWith lineFeed lines).lines ++ [[]] := by
  by_cases hsome : lines = []
  · subst hsome
    exact Or.inl rfl
  · have hpieces := pieces_eq_lines (joinWith lineFeed lines)
    rw [cutWhere_joinWith_lineFeed hlines hsome] at hpieces
    exact hpieces

/-- With a line feed behind them they are the lines of the text, unless there is none. -/
theorem lines_joinWith_append {lines : List Text} (hlines : ∀ l ∈ lines, l.IsLine) :
    (joinWith lineFeed lines ++ lineFeed).lines = if lines = [] then [[]] else lines := by
  have hnone : Text.lines [] = [] := rfl
  rw [lineFeed, lines_append_lineFeed, hnone, List.append_nil]
  split
  · next hempty =>
    subst hempty
    rfl
  · next hsome => exact cutWhere_joinWith_lineFeed hlines hsome

/-- The bytes are those of the lines, joined by line feeds, with one more at the end or
    without it. -/
def HoldsLines (content : List UInt8) (lines : List Text) : Prop :=
  content = (joinWith lineFeed lines).encode ∨
    content = (joinWith lineFeed lines ++ lineFeed).encode

theorem isChar_joinWith {lines : List Text} (hlines : ∀ l ∈ lines, l.IsLine) :
    ∀ s ∈ joinWith lineFeed lines, s.isChar = true := by
  induction lines with
  | nil => simp [joinWith]
  | cons l rest ih =>
    obtain ⟨hl, hrest⟩ := List.forall_mem_cons.mp hlines
    cases rest with
    | nil => exact fun s hs => (hl s hs).1
    | cons next rest =>
      rw [joinWith]
      · simp only [List.forall_mem_append]
        exact ⟨⟨fun s hs => (hl s hs).1, by simp [lineFeed, Symbol.isChar]⟩, ih hrest⟩
      · simp

/-- The lines of such a file are the given ones, but for a blank one at the end. -/
theorem lines_of_holdsLines {content : List UInt8} {lines : List Text}
    (hlines : ∀ l ∈ lines, l.IsLine) (h : HoldsLines content lines) :
    ∃ shared blanks blanks' : List Text, (∀ l ∈ blanks, l = []) ∧ (∀ l ∈ blanks', l = []) ∧
      (decode content).lines = shared ++ blanks ∧ lines = shared ++ blanks' := by
  have hchars := isChar_joinWith hlines
  rcases h with rfl | rfl
  · rw [decode_encode hchars]
    rcases lines_joinWith hlines with hall | hlost
    · exact ⟨lines, [], [], by simp, by simp, by simp [← hall], by simp⟩
    · exact ⟨_, [], [[]], by simp, by simp, (List.append_nil _).symm, hlost⟩
  · have hended : ∀ s ∈ joinWith lineFeed lines ++ lineFeed, s.isChar = true :=
      List.forall_mem_append.mpr ⟨hchars, by simp [lineFeed, Symbol.isChar]⟩
    rw [decode_encode hended, lines_joinWith_append hlines]
    split
    · next hnone => exact ⟨[], [[]], [], by simp, by simp, rfl, hnone⟩
    · exact ⟨lines, [], [], by simp, by simp, by simp, by simp⟩

end LineShell.Text
