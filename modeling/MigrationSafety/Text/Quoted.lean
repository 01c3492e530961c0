import MigrationSafety.Text.Printable

/-!
# Quoted texts

A text in quotes, as messages show it: single quotes, or double quotes round a text that holds
single quotes and no double ones. The quote and the backslash are escaped, and so is whatever
would not be printed.
-/

namespace MigrationSafety.Text

/-- A hexadecimal number with small letters and at least `width` digits. -/
def hex (width n : Nat) : List Char :=
  let digits := Nat.toDigits 16 n
  List.replicate (width - digits.length) '0' ++ digits

/-- One character of a text inside `quote`s. -/
def quoteChar (quote c : Char) : List Char :=
  if c == quote || c == '\\' then ['\\', c]
  else if c == '\n' then ['\\', 'n']
  else if c == '\r' then ['\\', 'r']
  else if c == '\t' then ['\\', 't']
  else if isPrintable c then [c]
  else if c.toNat < 0x100 then '\\' :: 'x' :: hex 2 c.toNat
  else if c.toNat < 0x10000 then '\\' :: 'u' :: hex 4 c.toNat
  else '\\' :: 'U' :: hex 8 c.toNat

/-- A text in quotes. -/
def quoted (s : String) : String :=
  let cs := s.toList
  let quote := if cs.contains '\x27' && !cs.contains '\x22' then '\x22' else '\x27'
  String.ofList (quote :: cs.flatMap (quoteChar quote) ++ [quote])

theorem quoteChar_of_isPrintable {quote c : Char} (h : isPrintable c) (hq : c ≠ quote)
    (hb : c ≠ '\\') : quoteChar quote c = [c] := by
  have hn : c ≠ '\n' := by rintro rfl; revert h; decide
  have hr : c ≠ '\r' := by rintro rfl; revert h; decide
  have ht : c ≠ '\t' := by rintro rfl; revert h; decide
  simp [quoteChar, h, hq, hb, hn, hr, ht]

end MigrationSafety.Text
