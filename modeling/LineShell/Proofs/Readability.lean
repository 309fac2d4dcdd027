/-
  LineShell/Proofs/Readability.lean
  =================================
  **Logged commands can be told apart.**

  A log shows a command as its name, its operands and its target, each between quotes, with
  brackets and commas around them.  Quotes, brackets and commas may stand in the texts too,
  and yet no two commands are shown alike.

  A way of writing is `PrefixFree` when no form begins another one; then a form ends where
  it ends, whatever is written behind it (`PrefixFree.cut`).  What is shown of a symbol is
  of this kind, because the sign behind a backslash tells how many digits belong to the
  escape (`Symbol.readEscape`).  It carries over to a sequence with a closing sign that no
  item begins with (`PrefixFree.closed`): from symbols to quoted texts, and from texts to
  lists in brackets.  A command is such forms one behind the other.
-/
import LineShell.Proofs.Commands
import LineShell.Yaml.Cursor
import Mathlib.Algebra.Group.Nat.Defs
import Mathlib.Tactic.SplitIfs

namespace LineShell

open Yaml (digitValue digitsValue)

/-! ### Forms that say where they end -/

section PrefixFree

variable {α β : Type}

/-- No form is the beginning of another one. -/
def PrefixFree (write : α → List β) : Prop := ∀ ⦃a b : α⦄, write a <+: write b → a = b

variable {write : α → List β}

/-- A form can be told from what is written behind it. -/
theorem PrefixFree.cut (h : PrefixFree write) {a b : α} {behind behind' : List β}
    (hbegins : write a ++ behind <+: write b ++ behind') : a = b ∧ behind <+: behind' := by
  have hab : a = b := by
    have ha := (List.prefix_append (write a) behind).trans hbegins
    have hb := List.prefix_append (write b) behind'
    rcases List.prefix_or_prefix_of_prefix ha hb with hab | hba
    · exact h hab
    · exact (h hba).symm
  subst hab
  exact ⟨rfl, (List.prefix_append_right_inj (write a)).mp hbegins⟩

/-- A form that can be read off the front of a text begins no other one. -/
theorem PrefixFree.of_read (read : List β → Option α)
    (hread : ∀ a behind, read (write a ++ behind) = some a) : PrefixFree write := by
  rintro a b ⟨behind, hbehind⟩
  have ha := hread a behind
  have hb := hread b []
  rw [List.append_nil, ← hbehind, ha] at hb
  exact Option.some.inj hb

theorem PrefixFree.after (h : PrefixFree write) (lead : List β) :
    PrefixFree fun a => lead ++ write a := by
  intro a b hbegins
  exact h ((List.prefix_append_right_inj lead).mp hbegins)

/-- Every form begins with a sign other than `stop`. -/
def BeginsApart (write : α → List β) (stop : β) : Prop :=
  ∀ a, ∃ first rest, write a = first :: rest ∧ first ≠ stop

section BeginsApart

variable {stop : β} (hapart : BeginsApart write stop)
include hapart

theorem BeginsApart.not_stop_begins {a : α} {behind behind' : List β} :
    ¬ stop :: behind <+: write a ++ behind' := by
  obtain ⟨first, rest, hfirst, hne⟩ := hapart a
  rw [hfirst, List.cons_append, List.cons_prefix_cons]
  exact fun h => hne h.1.symm

theorem BeginsApart.not_begins_stop {a : α} {behind behind' : List β} :
    ¬ write a ++ behind <+: stop :: behind' := by
  obtain ⟨first, rest, hfirst, hne⟩ := hapart a
  rw [hfirst, List.cons_append, List.cons_prefix_cons]
  exact fun h => hne h.1

/-- A sequence of forms is one form when a sign closes it with which none of them begins. -/
theorem PrefixFree.closed (h : PrefixFree write) :
    PrefixFree fun items : List α => items.flatMap write ++ [stop] := by
  intro items
  induction items with
  | nil =>
    intro others hbegins
    cases others with
    | nil => rfl
    | cons b others =>
      simp only [List.flatMap_nil, List.nil_append, List.flatMap_cons, List.append_assoc]
        at hbegins
      exact absurd hbegins hapart.not_stop_begins
  | cons a items ih =>
    intro others hbegins
    simp only [List.flatMap_cons, List.append_assoc] at hbegins
    cases others with
    | nil => exact absurd hbegins hapart.not_begins_stop
    | cons b others =>
      simp only [List.flatMap_cons, List.append_assoc] at hbegins
      obtain ⟨rfl, hrest⟩ := h.cut hbegins
      rw [ih hrest]

end BeginsApart

end PrefixFree

/-! ### Hexadecimal digits -/

theorem digitValue_digitChar {d : Nat} (h : d < 16) : digitValue d.digitChar = d := by
  decide +revert

theorem digitsValue_append (base : Nat) (cs : List Char) (c : Char) :
    digitsValue base (cs ++ [c]) = digitsValue base cs * base + digitValue c := by
  simp [digitsValue, List.foldl_append]

theorem digitsValue_toDigits (n : Nat) : digitsValue 16 (Nat.toDigits 16 n) = n := by
  induction n using Nat.strongRecOn with
  | _ n ih =>
    by_cases h : n < 16
    · rw [Nat.toDigits_of_lt_base h]
      simpa [digitsValue] using digitValue_digitChar h
    · rw [Nat.toDigits_of_base_le (by decide) (Nat.le_of_not_lt h), digitsValue_append,
        ih (n / 16) (by omega), digitValue_digitChar (Nat.mod_lt n (by decide))]
      omega

theorem digitsValue_replicate_zero_append (k : Nat) (cs : List Char) :
    digitsValue 16 (List.replicate k '0' ++ cs) = digitsValue 16 cs := by
  have hzeros : digitsValue 16 (List.replicate k '0') = 0 := by
    induction k with
    | zero => rfl
    | succ k ih =>
      rw [List.replicate_succ', digitsValue_append, ih]
      rfl
  simp only [digitsValue] at hzeros
  rw [digitsValue, List.foldl_append, hzeros, digitsValue]

namespace Text

theorem digitsValue_hexDigits (width n : Nat) : digitsValue 16 (hexDigits width n) = n := by
  rw [hexDigits, digitsValue_replicate_zero_append, digitsValue_toDigits]

theorem length_hexDigits {width n : Nat} (hwidth : 0 < width) (hn : n < 16 ^ width) :
    (hexDigits width n).length = width := by
  have hlength := (Nat.length_toDigits_le_iff (by decide) hwidth).mpr hn
  simp only [hexDigits, List.length_append, List.length_replicate]
  omega

/-- The digits of an escape are known by their number, whatever is written behind them. -/
theorem digitsValue_take_hexDigits {width n : Nat} (hwidth : 0 < width) (hn : n < 16 ^ width)
    (behind : List Char) : digitsValue 16 ((hexDigits width n ++ behind).take width) = n := by
  rw [List.take_left' (length_hexDigits hwidth hn), digitsValue_hexDigits]

end Text

/-! ### Escapes -/

namespace Symbol

theorem code_lt (s : Symbol) : s.code < 0x110000 := by
  cases s with
  | char c =>
    have hvalid := c.valid
    simp only [UInt32.isValidChar, Nat.isValidChar] at hvalid
    simp only [code, Char.toNat]
    omega
  | raw low =>
    simp only [code]
    omega
  | half place =>
    simp only [code]
    split <;> omega

/-- What is no character is a surrogate. -/
theorem exists_surrogate {s : Symbol} (h : s.isChar = false) : ∃ n, s = surrogate n := by
  cases s with
  | char c => cases h
  | raw low =>
    have hfirst : ¬ 0x480 + low.val < 0x480 := by omega
    have hsecond : 0x480 + low.val < 0x500 := by omega
    refine ⟨⟨0x480 + low.val, by omega⟩, ?_⟩
    simp [surrogate, hfirst, hsecond]
  | half place =>
    by_cases hlow : place.val < 0x480
    · refine ⟨⟨place.val, by omega⟩, ?_⟩
      rw [surrogate, dif_pos hlow]
    · have hfirst : ¬ 0x80 + place.val < 0x480 := by omega
      have hsecond : ¬ 0x80 + place.val < 0x500 := by omega
      refine ⟨⟨0x80 + place.val, by omega⟩, ?_⟩
      simp [surrogate, hfirst, hsecond]

theorem ofCode?_surrogate (n : Fin 2048) : ofCode? (0xD800 + n.val) = some (surrogate n) := by
  have hblock : 0xD800 ≤ 0xD800 + n.val ∧ 0xD800 + n.val < 0xE000 := by omega
  rw [ofCode?, dif_pos hblock]
  simp

theorem ofCode?_toNat (c : Char) : ofCode? c.toNat = some (.char c) := by
  have hvalid := c.valid
  simp only [UInt32.isValidChar, Nat.isValidChar] at hvalid
  have hcharacter : ¬ (0xD800 ≤ c.toNat ∧ c.toNat < 0xE000) := by
    simp only [Char.toNat]
    omega
  have hlast : c.toNat < 0x110000 := code_lt (.char c)
  rw [ofCode?, dif_neg hcharacter, if_pos hlast, Char.ofNat_toNat]

/-- A symbol is known by its code point. -/
theorem ofCode?_code (s : Symbol) : ofCode? s.code = some s := by
  cases hs : s.isChar with
  | false =>
    obtain ⟨n, rfl⟩ := exists_surrogate hs
    rw [code_surrogate, ofCode?_surrogate]
  | true =>
    cases s with
    | char c => exact ofCode?_toNat c
    | raw low => cases hs
    | half place => cases hs

/-- The symbol whose form stands at the front of a text between quotes. -/
def readEscape : List Char → Option Symbol
  | '\\' :: 'n' :: _ => some (.char '\n')
  | '\\' :: 'r' :: _ => some (.char '\r')
  | '\\' :: 't' :: _ => some (.char '\t')
  | '\\' :: 'x' :: digits => ofCode? (digitsValue 16 (digits.take 2))
  | '\\' :: 'u' :: digits => ofCode? (digitsValue 16 (digits.take 4))
  | '\\' :: 'U' :: digits => ofCode? (digitsValue 16 (digits.take 8))
  | '\\' :: c :: _ => some (.char c)
  | c :: _ => some (.char c)
  | [] => none

theorem readEscape_hexEscape (s : Symbol) (behind : List Char) :
    readEscape (Text.hexEscape s.code ++ behind) = some s := by
  have hlast := s.code_lt
  rw [Text.hexEscape]
  split_ifs
  all_goals
    rw [List.cons_append, List.cons_append, readEscape,
      Text.digitsValue_take_hexDigits (by decide) (by omega), ofCode?_code]

theorem readEscape_plain {c : Char} (hc : c ≠ '\\') (behind : List Char) :
    readEscape (c :: behind) = some (.char c) := by
  unfold readEscape
  split <;> simp_all

/-- Texts are written between quotes of two kinds. -/
def IsQuote (c : Char) : Prop := c = '\'' ∨ c = '"'

variable {quote : Char}

theorem readEscape_escaped (hquote : IsQuote quote) (s : Symbol) (behind : List Char) :
    readEscape (s.escaped quote ++ behind) = some s := by
  cases s with
  | raw low => exact readEscape_hexEscape (.raw low) behind
  | half place => exact readEscape_hexEscape (.half place) behind
  | char c =>
    rw [escaped]
    split_ifs with hmarked hfeed hreturn htab
    · rcases hmarked with rfl | rfl
      · rcases hquote with rfl | rfl <;> rfl
      · rfl
    · rw [hfeed]
      rfl
    · rw [hreturn]
      rfl
    · rw [htab]
      rfl
    · exact readEscape_plain (not_or.mp hmarked).2 behind
    · exact readEscape_hexEscape (.char c) behind

theorem escaped_prefixFree (hquote : IsQuote quote) : PrefixFree (escaped quote) :=
  .of_read readEscape (readEscape_escaped hquote)

/-- A quote that stands alone begins no symbol, so it is the one that ends the text. -/
theorem escaped_beginsApart (hquote : IsQuote quote) : BeginsApart (escaped quote) quote := by
  intro s
  have hbackslash : quote ≠ '\\' := by
    rcases hquote with rfl | rfl <;> decide
  have hread := readEscape_escaped hquote s []
  rw [List.append_nil] at hread
  cases hform : s.escaped quote with
  | nil =>
    rw [hform] at hread
    cases hread
  | cons first rest =>
    refine ⟨first, rest, rfl, ?_⟩
    rintro rfl
    -- Read on its own a quote is the symbol of that name, and this one is always escaped.
    rw [hform, readEscape_plain hbackslash] at hread
    obtain rfl := Option.some.inj hread
    rw [escaped, if_pos (Or.inl rfl)] at hform
    exact hbackslash (List.cons.inj hform).1.symm

end Symbol

/-! ### Quoted texts and lists of them -/

namespace Text

theorem isQuote_quoteMark (t : Text) : Symbol.IsQuote t.quoteMark := by
  rw [quoteMark]
  split
  · exact Or.inr rfl
  · exact Or.inl rfl

/-- The first quote tells which quote ends the text, and with it how the symbols between
    them are written. -/
theorem quoted_prefixFree : PrefixFree quoted := by
  intro t u hbegins
  have hinjective : Function.Injective Symbol.char := fun _ _ h => Symbol.char.inj h
  have hchars := (List.prefix_map_iff_of_injective hinjective).mp hbegins
  simp only [List.cons_append, List.cons_prefix_cons] at hchars
  obtain ⟨hmark, hbody⟩ := hchars
  rw [← hmark] at hbody
  have hquote := isQuote_quoteMark t
  exact (Symbol.escaped_prefixFree hquote).closed (Symbol.escaped_beginsApart hquote) hbody

theorem quoted_beginsApart : BeginsApart quoted (.char ']') := by
  intro t
  refine ⟨.char t.quoteMark, _, rfl, ?_⟩
  rcases isQuote_quoteMark t with h | h <;> rw [h] <;> decide

theorem joinWith_cons (separator t : Text) (rest : List Text) :
    joinWith separator (t :: rest) = t ++ rest.flatMap (separator ++ ·) := by
  induction rest generalizing t with
  | nil => simp [joinWith]
  | cons next rest ih => simp [joinWith, ih]

theorem quotedList_nil : quotedList [] = [.char '[', .char ']'] := rfl

/-- Each text but the first has its comma in front, and the bracket closes them. -/
theorem quotedList_cons (t : Text) (rest : List Text) :
    quotedList (t :: rest) = .char '[' ::
      (t.quoted ++ (rest.flatMap (fun u => ofString ", " ++ u.quoted) ++ [.char ']'])) := by
  rw [quotedList, List.map_cons, joinWith_cons, List.flatMap_map]
  simp [ofString]

theorem quotedList_prefixFree : PrefixFree quotedList := by
  intro ts us hbegins
  cases ts with
  | nil =>
    cases us with
    | nil => rfl
    | cons u us =>
      rw [quotedList_nil, quotedList_cons, List.cons_prefix_cons] at hbegins
      exact absurd hbegins.2 quoted_beginsApart.not_stop_begins
  | cons t ts =>
    cases us with
    | nil =>
      rw [quotedList_nil, quotedList_cons, List.cons_prefix_cons] at hbegins
      exact absurd hbegins.2 quoted_beginsApart.not_begins_stop
    | cons u us =>
      rw [quotedList_cons, quotedList_cons, List.cons_prefix_cons] at hbegins
      obtain ⟨rfl, hrest⟩ := quoted_prefixFree.cut hbegins.2
      have hfurther : PrefixFree fun u : Text => ofString ", " ++ u.quoted :=
        quoted_prefixFree.after (ofString ", ")
      have hcomma : BeginsApart (fun u : Text => ofString ", " ++ u.quoted) (.char ']') :=
        fun _ => ⟨_, _, rfl, by decide⟩
      rw [hfurther.closed hcomma hrest]

end Text

/-! ### Commands -/

namespace Command

open Text

/-- What is shown behind the operands: the target, if there is one, and the last bracket. -/
def displayEnd : Option Text → Text
  | none => ofString ")"
  | some t => ofString " > " ++ (t.quoted ++ ofString ")")

theorem displayEnd_prefixFree : PrefixFree displayEnd := by
  intro target target' hbegins
  cases target with
  | none =>
    cases target' with
    | none => rfl
    | some t => exact absurd (List.cons_prefix_cons.mp hbegins).1 (by decide)
  | some t =>
    cases target' with
    | none => exact absurd (List.cons_prefix_cons.mp hbegins).1 (by decide)
    | some u =>
      have hquoted := (List.prefix_append_right_inj _).mp hbegins
      rw [(quoted_prefixFree.cut hquoted).1]

theorem display_eq (c : Command) :
    c.display = ofString "Command(" ++ (c.name.quoted ++
      (ofString ", " ++ (quotedList c.operands ++ displayEnd c.target))) := by
  cases h : c.target <;> simp [display, h, displayEnd, quotedList, ofString]

/-- What is shown of commands differs where their names, their operands or their targets
    do. -/
theorem display_eq_iff (c d : Command) :
    c.display = d.display ↔
      c.name = d.name ∧ c.operands = d.operands ∧ c.target = d.target := by
  constructor
  · intro h
    have hshown : c.display <+: d.display := h ▸ List.prefix_rfl
    rw [display_eq, display_eq] at hshown
    have hcall := (List.prefix_append_right_inj _).mp hshown
    obtain ⟨hname, hrest⟩ := quoted_prefixFree.cut hcall
    have hlist := (List.prefix_append_right_inj _).mp hrest
    obtain ⟨hoperands, hend⟩ := quotedList_prefixFree.cut hlist
    exact ⟨hname, hoperands, displayEnd_prefixFree hend⟩
  · rintro ⟨hname, hoperands, htarget⟩
    rw [display, display, hname, hoperands, htarget]

/-- The first argument is not among them, and it is not shown. -/
example (name a b : Text) : display ⟨name, [a], none⟩ = display ⟨name, [b], none⟩ := rfl

theorem args_eq_cons_operands {c : Command} (hc : NamesItself c) :
    c.args = c.name :: c.operands := by
  obtain ⟨rest, hargs⟩ := List.head?_eq_some_iff.mp hc
  rw [operands, hargs, List.tail_cons]

/-- The logged form identifies a command that names itself in its arguments, as those of the
    parser do (`Text.namesItself_of_parseSegment`). -/
theorem display_identifies {c d : Command} (hc : NamesItself c) (hd : NamesItself d) :
    c.display = d.display ↔ c = d := by
  constructor
  · intro h
    obtain ⟨hname, hoperands, htarget⟩ := (display_eq_iff c d).mp h
    have hargs : c.args = d.args := by
      rw [args_eq_cons_operands hc, args_eq_cons_operands hd, hname, hoperands]
    change (⟨c.name, c.args, c.target⟩ : Command) = ⟨d.name, d.args, d.target⟩
    rw [hname, hargs, htarget]
  · rintro rfl
    rfl

/-- An operand that looks like the end of a list and a target, and a command that has
    them. -/
theorem lookalikes_told_apart :
    let name := ofString "a"
    let c : Command := ⟨name, [name, ofString "x'] > 'f"], none⟩
    let d : Command := ⟨name, [name, ofString "x"], some (ofString "f")⟩
    c.display = ofString "Command('a', [\"x'] > 'f\"])" ∧
      d.display = ofString "Command('a', ['x'] > 'f')" ∧
      NamesItself c ∧ NamesItself d ∧ (c.display = d.display ↔ c = d) := by
  intro name c d
  have hc : NamesItself c := rfl
  have hd : NamesItself d := rfl
  exact ⟨by decide +kernel, by decide +kernel, hc, hd, display_identifies hc hd⟩

end Command

end LineShell
