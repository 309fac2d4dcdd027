/-
  LineShell/Text/Quoted.lean
  ==========================
  **Quoted texts.**

  Messages and logs show a text between quotes: single ones, unless it holds a
  single quote and no double quote.  The quote in use and the backslash are
  written after a backslash, line feed, carriage return and tab have a letter
  each, and every other unprintable symbol is written as a hexadecimal escape
  of two, four or eight digits.  Each symbol has one written form that says
  where it ends, so a quoted text can be read back.

  The same escapes show a symbol that cannot be written as bytes, in the complaint
  about the text that holds it.
-/
import LineShell.Text.Printable

namespace LineShell

/-- The hexadecimal escape of a code point, as narrow as it allows. -/
def Text.hexEscape (code : Nat) : List Char :=
  if code < 0x100 then '\\' :: 'x' :: hexDigits 2 code
  else if code < 0x10000 then '\\' :: 'u' :: hexDigits 4 code
  else '\\' :: 'U' :: hexDigits 8 code

/-- How a symbol is written between quotes of the kind `quote`. -/
def Symbol.escaped (quote : Char) (s : Symbol) : List Char :=
  match s with
  | .raw _ | .half _ => Text.hexEscape s.code
  | .char c =>
    if c = quote ∨ c = '\\' then ['\\', c]
    else if c = '\n' then ['\\', 'n']
    else if c = '\r' then ['\\', 'r']
    else if c = '\t' then ['\\', 't']
    else if s.isPrintable then [c]
    else Text.hexEscape s.code

namespace Text

/-- The quote that a text is written with. -/
def quoteMark (t : Text) : Char :=
  if t.any (Symbol.is '\'') && !t.any (Symbol.is '"') then '"' else '\''

def quoted (t : Text) : Text :=
  let quote := t.quoteMark
  (quote :: t.flatMap (Symbol.escaped quote) ++ [quote]).map .char

/-- A list of texts as it is shown in logs: quoted, between brackets. -/
def quotedList (ts : List Text) : Text :=
  ofString "[" ++ joinWith (ofString ", ") (ts.map quoted) ++ ofString "]"

/-! ### Symbols that no bytes spell -/

/-- Where a text cannot be written as bytes: the place of the first half of a
    surrogate pair, and the symbols from there that are no characters. -/
def unspellable (t : Text) : Option (Nat × Text) :=
  match t.dropWhile (!Symbol.isHalf ·) with
  | [] => none
  | found => some (t.length - found.length, found.takeWhile (!Symbol.isChar ·))

/-- Where symbols stand that cannot be written as bytes: one is shown, of several
    the first and the last place. -/
def placeText (symbols : Text) (place : Nat) : Text :=
  match symbols with
  | [s] =>
    ofString "character '" ++ (hexEscape s.code).map .char ++ ofString "' in position " ++
      ofNat place
  | _ =>
    ofString "characters in position " ++ ofNat place ++ ofString "-" ++
      ofNat (place + symbols.length - 1)

/-- The complaint about symbols that cannot be written as bytes. -/
def unspellableMessage (symbols : Text) (place : Nat) : Text :=
  ofString "'utf-8' codec can't encode " ++ placeText symbols place ++
    ofString ": surrogates not allowed"

end Text

end LineShell
