/-
  LineShell/Proofs/Recoding.lean
  ==============================
  **What is read can be written back.**

  Reading goes along the bytes by two steps only: a character, or one stray byte where
  no character stands (`Text.decode_induction`).  Both are written back as the bytes that
  they were read from, so no byte string is changed by being read (`encode_decode`), and
  since a line feed is never part of anything longer, no line of it is either
  (`lines_decode`).

  The parser throws blanks, operators and markers away and keeps the rest as it is.
  `InOrder` says so of any list: the parts stand in the whole one after another, with
  gaps between them.  The parts of the commands of a line stand in the line
  (`parts_inOrder`), and their bytes in its bytes.
-/
import LineShell.Proofs.Composition
import LineShell.Proofs.Grammar
import LineShell.Proofs.Segments

namespace LineShell

/-! ### Parts of a list, in order -/

/-- The parts stand in the whole, each as a run of neighbours, one behind the other. -/
inductive InOrder {α : Type} : List (List α) → List α → Prop
  | nil (rest : List α) : InOrder [] rest
  | cons {parts : List (List α)} {rest : List α} (gap part : List α) (h : InOrder parts rest) :
      InOrder (part :: parts) (gap ++ (part ++ rest))

namespace InOrder

variable {α : Type} {parts more : List (List α)} {whole whole' : List α}

theorem skip (gap : List α) (h : InOrder parts whole) : InOrder parts (gap ++ whole) := by
  rcases h with rest | ⟨gap', part, h⟩
  · exact .nil _
  · rw [← List.append_assoc]
    exact .cons (gap ++ gap') part h

theorem self (part : List α) : InOrder [part] part := by
  have h := InOrder.cons [] part (.nil [])
  rwa [List.nil_append, List.append_nil] at h

theorem append (h : InOrder parts whole) (h' : InOrder more whole') :
    InOrder (parts ++ more) (whole ++ whole') := by
  induction h with
  | nil rest => exact h'.skip rest
  | cons gap part _ ih =>
    rw [List.append_assoc, List.append_assoc]
    exact .cons gap part ih

theorem of_sublist {fewer : List (List α)} (h : InOrder parts whole) (hfewer : fewer.Sublist parts) :
    InOrder fewer whole := by
  induction h generalizing fewer with
  | nil rest =>
    rw [List.sublist_nil.mp hfewer]
    exact .nil rest
  | cons gap part _ ih =>
    rcases List.sublist_cons_iff.mp hfewer with hrest | ⟨fewer', rfl, hrest⟩
    · exact ((ih hrest).skip part).skip gap
    · exact .cons gap part (ih hrest)

/-- Parts of the parts are parts of the whole. -/
theorem flatMap {f : List α → List (List α)} (hf : ∀ part ∈ parts, InOrder (f part) part)
    (h : InOrder parts whole) : InOrder (parts.flatMap f) whole := by
  induction h with
  | nil rest => exact .nil rest
  | cons gap part _ ih =>
    obtain ⟨hpart, hparts⟩ := List.forall_mem_cons.mp hf
    rw [List.flatMap_cons]
    exact (hpart.append (ih hparts)).skip gap

/-- Writing every element out keeps the parts in their places. -/
theorem map_flatMap {β : Type} (write : α → List β) (h : InOrder parts whole) :
    InOrder (parts.map fun part => part.flatMap write) (whole.flatMap write) := by
  induction h with
  | nil rest => exact .nil _
  | cons gap part _ ih =>
    rw [List.flatMap_append, List.flatMap_append, List.map_cons]
    exact .cons _ _ ih

theorem isInfix (h : InOrder parts whole) : ∀ part ∈ parts, part <:+: whole := by
  induction h with
  | nil rest => simp
  | @cons parts rest gap part _ ih =>
    intro part' hpart
    rcases List.mem_cons.mp hpart with rfl | hpart
    · exact ⟨gap, rest, List.append_assoc _ _ _⟩
    · exact ((ih part' hpart).trans (List.suffix_append part rest).isInfix).trans
        (List.suffix_append gap _).isInfix

end InOrder

/-- The texts of a command as they were typed: its name, its operands and its target. -/
def Command.parts (c : Command) : List Text := c.args ++ c.target.toList

namespace Text

/-! ### Pieces between separators -/

/-- Induction along the pieces of a list: the first one, and then what comes behind its
    separator. -/
theorem piece_induction {α : Type} [DecidableEq α] (x : α) {P : List α → Prop}
    (last : ∀ a, x ∉ a → P a) (next : ∀ a b, x ∉ a → P b → P (a ++ x :: b)) (l : List α) : P l := by
  induction hlength : l.length using Nat.strongRecOn generalizing l with
  | _ n ih =>
    by_cases hx : x ∈ l
    · obtain ⟨a, b, rfl, ha⟩ := List.eq_append_cons_of_mem hx
      exact next a b ha (ih b.length (by simp at hlength; omega) b rfl)
    · exact last l hx

theorem cutWhere_of_notMem {α : Type} [DecidableEq α] {x : α} {l : List α} (h : x ∉ l) :
    cutWhere (· == x) l = [l] := by
  apply cutWhere_eq_self
  intro a ha
  apply beq_eq_false_iff_ne.mpr
  rintro rfl
  exact h ha

theorem cutWhere_next {α : Type} [DecidableEq α] {x : α} {a : List α} (h : x ∉ a) (b : List α) :
    cutWhere (· == x) (a ++ x :: b) = a :: cutWhere (· == x) b := by
  rw [cutWhere_append_separator _ a b (by simp), cutWhere_of_notMem h, List.singleton_append]

theorem cutWhere_inOrder {α : Type} [DecidableEq α] (x : α) (l : List α) :
    InOrder (cutWhere (· == x) l) l := by
  induction l using piece_induction x with
  | last a ha =>
    rw [cutWhere_of_notMem ha]
    exact .self a
  | next a b ha ih =>
    rw [cutWhere_next ha, ← List.singleton_append]
    exact (InOrder.self a).append (ih.skip [x])

/-! ### Reading and writing -/

theorem encode?_eq_some {t : Text} (h : ∀ s ∈ t, s.isHalf = false) : encode? t = some t.encode := by
  have hnone : t.hasHalf = false := by simpa [hasHalf] using h
  rw [encode?, hnone, if_neg Bool.false_ne_true]

theorem encode_append (a b : Text) : (a ++ b).encode = a.encode ++ b.encode := List.flatMap_append

/-- A byte that starts no character is none of the first 128. -/
theorem le_toNat_of_stray {b : UInt8} {rest : List UInt8} (h : decodeChar? (b :: rest) = none) :
    128 ≤ b.toNat := by
  by_contra hsmall
  have hlt : b.toNat < 128 := Nat.lt_of_not_le hsmall
  have hvalid : b.toNat.isValidChar := Or.inl (by omega)
  have hvalue : (Char.ofNat b.toNat).val.toNat = b.toNat := by
    rw [Char.ofNat, dif_pos hvalid]
    rfl
  have hencode : String.utf8EncodeChar (Char.ofNat b.toNat) = [b] := by
    rw [String.utf8EncodeChar.eq_1, hvalue, if_pos (by omega)]
    simp
  have hread : decodeChar? (b :: rest) = some (Char.ofNat b.toNat, 1) := by
    apply decodeChar?_eq_some_iff.mpr
    rw [hencode]
    exact ⟨rfl, List.prefix_append [b] rest⟩
  cases h.symm.trans hread

/-- Induction along what is read of bytes. -/
theorem decode_induction {P : List UInt8 → Prop} (nil : P [])
    (char : ∀ c rest, P rest → P (String.utf8EncodeChar c ++ rest))
    (stray : ∀ b rest, decodeChar? (b :: rest) = none → P rest → P (b :: rest))
    (bytes : List UInt8) : P bytes := by
  induction hlength : bytes.length using Nat.strongRecOn generalizing bytes with
  | _ n ih =>
    rcases bytes with _ | ⟨b, rest⟩
    · exact nil
    · rcases hread : decodeChar? (b :: rest) with _ | ⟨c, width⟩
      · exact stray b rest hread (ih rest.length (by simp at hlength; omega) rest rfl)
      · obtain ⟨-, more, hmore⟩ := decodeChar?_eq_some_iff.mp hread
        obtain ⟨lead, tail, -, hencode, -, -⟩ := exists_lead c
        rw [← hmore]
        refine char c more (ih more.length ?_ more rfl)
        rw [← hlength, ← hmore, hencode, List.length_append, List.length_cons]
        omega

/-- No byte string is changed by being read. -/
theorem encode_decode (bytes : List UInt8) : (decode bytes).encode = bytes := by
  induction bytes using decode_induction with
  | nil => rfl
  | char c rest ih =>
    rw [decode_encode_append, encode, List.flatMap_cons, ← encode, ih]
    rfl
  | stray b rest hstray ih =>
    have hbyte : Symbol.rawByte ⟨b.toNat % 128, Nat.mod_lt _ (by decide)⟩ = b := by
      have hlarge := le_toNat_of_stray hstray
      have hbound := b.toNat_lt
      apply UInt8.toNat_inj.mp
      rw [Symbol.rawByte, UInt8.toNat_ofNat_of_lt' (by simp [UInt8.size]; omega)]
      simp only
      omega
    rw [decode_of_stray hstray, encode, List.flatMap_cons, ← encode, ih, strayByte, Symbol.encode,
      hbyte]
    rfl

theorem isHalf_of_mem_decode (bytes : List UInt8) : ∀ s ∈ decode bytes, s.isHalf = false := by
  induction bytes using decode_induction with
  | nil => simp [decode, decodeAfter]
  | char c rest ih =>
    rw [decode_encode_append]
    exact List.forall_mem_cons.mpr ⟨rfl, ih⟩
  | stray b rest hstray ih =>
    rw [decode_of_stray hstray]
    exact List.forall_mem_cons.mpr ⟨rfl, ih⟩

/-- The text of a string is written as its UTF-8. -/
theorem encode_ofString (r : String) : (ofString r).encode = r.toUTF8.data.toList := by
  have hchars : r.toUTF8.data.toList = r.toList.flatMap String.utf8EncodeChar := by
    conv => lhs; rw [← String.ofList_toList (s := r)]
    exact List.toList_data_toByteArray
  rw [hchars, ofString, encode, List.flatMap_map]
  rfl

theorem ofString_append (a b : String) : ofString (a ++ b) = ofString a ++ ofString b := by
  rw [ofString, String.toList_append, List.map_append]
  rfl

theorem exists_ofString {t : Text} (h : ∀ s ∈ t, s.isChar = true) : ∃ r, t = ofString r := by
  induction t with
  | nil => exact ⟨"", rfl⟩
  | cons s rest ih =>
    obtain ⟨hs, hrest⟩ := List.forall_mem_cons.mp h
    obtain ⟨r, hr⟩ := ih hrest
    rcases s with c | low | place
    · refine ⟨String.ofList (c :: r.toList), ?_⟩
      rw [ofString, String.toList_ofList, List.map_cons, hr]
      rfl
    · cases hs
    · cases hs

/-! ### The lines of a file -/

/-- The bytes of the lines of a file: a line feed ends a line, and what follows the last
    one is a line if it is not empty. -/
def rawLines (content : List UInt8) : List (List UInt8) :=
  let pieces := cutWhere (· == 0x0A) content
  if pieces.getLast? = some [] then pieces.dropLast else pieces

theorem lineFeed_notMem_decode {bytes : List UInt8} (h : 0x0A ∉ bytes) :
    .char '\n' ∉ decode bytes := by
  intro hmem
  apply h
  rw [← encode_decode bytes]
  exact List.mem_flatMap.mpr ⟨_, hmem, by decide⟩

theorem cutWhere_decode (content : List UInt8) :
    cutWhere (· == .char '\n') (decode content) = (cutWhere (· == 0x0A) content).map decode := by
  induction content using piece_induction (0x0A : UInt8) with
  | last a ha =>
    rw [cutWhere_of_notMem ha, cutWhere_of_notMem (lineFeed_notMem_decode ha)]
    rfl
  | next a b ha ih =>
    rw [decode_append_lineFeed, cutWhere_next ha, cutWhere_next (lineFeed_notMem_decode ha), ih]
    rfl

theorem decode_eq_nil_iff {bytes : List UInt8} : decode bytes = [] ↔ bytes = [] := by
  constructor
  · intro h
    rw [← encode_decode bytes, h]
    rfl
  · rintro rfl
    rfl

/-- The lines are read one by one, each from its own bytes. -/
theorem lines_decode (content : List UInt8) :
    (decode content).lines = (rawLines content).map decode := by
  have hlast : ((cutWhere (· == 0x0A) content).map decode).getLast? = some [] ↔
      (cutWhere (· == 0x0A) content).getLast? = some [] := by
    rw [List.getLast?_map, Option.map_eq_some_iff]
    simp [decode_eq_nil_iff]
  rw [lines, cutWhere_decode, rawLines]
  simp only [hlast]
  split
  · exact List.map_dropLast.symm
  · rfl

theorem flatMap_cutWhere (content : List UInt8) :
    (cutWhere (· == 0x0A) content).flatMap (· ++ [0x0A]) = content ++ [0x0A] := by
  induction content using piece_induction (0x0A : UInt8) with
  | last a ha =>
    rw [cutWhere_of_notMem ha]
    simp
  | next a b ha ih =>
    rw [cutWhere_next ha, List.flatMap_cons, ih]
    simp

/-- The pieces between line feeds are the lines, but for an empty one at the end. -/
theorem pieces_eq_rawLines (content : List UInt8) :
    cutWhere (· == 0x0A) content = rawLines content ++ [[]] ∨
      cutWhere (· == 0x0A) content = rawLines content ∧ (rawLines content).getLast? ≠ some [] := by
  unfold rawLines
  dsimp only
  split
  · next hlast => exact Or.inl (List.dropLast_append_getLast? [] hlast).symm
  · next hlast => exact Or.inr ⟨rfl, hlast⟩

/-- Each line with a line feed behind it, the lines make up the file.  At its end the line
    feed may be missing, behind a line that is not empty. -/
theorem flatMap_rawLines (content : List UInt8) :
    (rawLines content).flatMap (· ++ [0x0A]) = content ∨
      (rawLines content).flatMap (· ++ [0x0A]) = content ++ [0x0A] ∧
        (rawLines content).getLast? ≠ some [] := by
  have hwhole := flatMap_cutWhere content
  rcases pieces_eq_rawLines content with hpieces | ⟨hpieces, hlast⟩
  · rw [hpieces, List.flatMap_append] at hwhole
    exact Or.inl (List.append_cancel_right hwhole)
  · rw [hpieces] at hwhole
    exact Or.inr ⟨hwhole, hlast⟩

theorem lineFeed_notMem_rawLine {content raw : List UInt8} (h : raw ∈ rawLines content) :
    0x0A ∉ raw := by
  have hpiece : raw ∈ cutWhere (· == 0x0A) content := by
    rcases pieces_eq_rawLines content with hpieces | ⟨hpieces, -⟩
    · rw [hpieces]
      exact List.mem_append_left _ h
    · rwa [hpieces]
  intro hmem
  simpa using (mem_of_mem_cutWhere hpiece _ hmem).1

/-! ### The parts of commands -/

theorem Lexed.inOrder {t : Text} {tokens : List Text} (h : Lexed t tokens) : InOrder tokens t := by
  induction h with
  | nil => exact .nil []
  | blank hs _ ih => exact ih.skip [_]
  | operator _ ih => exact .cons [] [redirectOperator] ih
  | word hsome hrun hends _ ih => exact .cons [] _ ih

theorem Spells.parts_sublist {tokens : List Text} {c : Command} (h : Spells tokens c) :
    c.parts.Sublist tokens := by
  rcases h with hplain | ⟨hplain, htarget⟩
  · simp [Command.parts]
  · apply List.Sublist.append_left
    simp

/-- The commands of segments are made of their tokens. -/
theorem parts_sublist_tokens (segments : List Text) :
    ((commandsOf segments).flatMap Command.parts).Sublist (segments.flatMap tokenize) := by
  induction segments with
  | nil => exact List.Sublist.refl []
  | cons segment rest ih =>
    rw [commandsOf_cons, List.flatMap_cons]
    split
    · next c hparse =>
      have hspells : Spells segment.tokenize c := commandOfTokens_eq_some_iff.mp hparse
      exact hspells.parts_sublist.append ih
    · exact ih.trans (List.sublist_append_right _ _)

/-- The parts of its commands stand in a line as they were typed. -/
theorem parts_inOrder (line : Text) : InOrder (line.commands.flatMap Command.parts) line := by
  have htokens : InOrder (line.segments.flatMap tokenize) line := by
    apply InOrder.flatMap
    · intro segment _
      exact (lexed_iff.mpr rfl).inOrder
    · exact cutWhere_inOrder parallelMarker line
  exact htokens.of_sublist (parts_sublist_tokens line.segments)

end Text

end LineShell
