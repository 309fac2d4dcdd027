/-
  LineShell/Text/Blank.lean
  =========================
  **Blank symbols, trimming and words.**

  The blanks are the 29 characters that Unicode lists as spaces or as line,
  paragraph and information separators.  Words are the maximal blank-free runs
  of a text; since they are the non-empty pieces between blanks, cutting a text
  at a blank cuts its words too (`words_append_blank`).
-/
import LineShell.Text.Symbol

namespace LineShell

def blankRanges : List (Nat × Nat) :=
  [(0x09, 0x0D), (0x1C, 0x20), (0x85, 0x85), (0xA0, 0xA0), (0x1680, 0x1680),
   (0x2000, 0x200A), (0x2028, 0x2029), (0x202F, 0x202F), (0x205F, 0x205F), (0x3000, 0x3000)]

def isBlankChar (c : Char) : Bool :=
  blankRanges.any fun (low, high) => low ≤ c.toNat && c.toNat ≤ high

/-- Only a character can be blank. -/
def Symbol.isBlank : Symbol → Bool
  | .char c => isBlankChar c
  | .raw _ | .half _ => false

/-- The blanks number 29. -/
example : (blankRanges.map fun (low, high) => high - low + 1).sum = 29 := by decide

namespace Text

def trimLeft (t : Text) : Text := t.dropWhile Symbol.isBlank

def trimRight (t : Text) : Text := (t.reverse.dropWhile Symbol.isBlank).reverse

def trim (t : Text) : Text := trimRight (trimLeft t)

def words (t : Text) : List Text := (cutWhere Symbol.isBlank t).filter (!·.isEmpty)

@[simp] theorem words_nil : words [] = [] := rfl

theorem words_append_blank (a b : Text) {s : Symbol} (hs : s.isBlank = true) :
    words (a ++ s :: b) = words a ++ words b := by
  simp [words, cutWhere_append_separator _ a b hs]

end Text

end LineShell
