import MigrationSafety.Text.Integer
import MigrationSafety.Value.Basic

/-!
# Reading JSON

JSON as plans are written in it: the standard grammar, with `NaN` and the infinities as numbers.
A number with a fraction or an exponent is a float and any other one an integer; of the fields of
a record with one key the last one counts.

* `Json.parse`: the value, or why the text is none.
-/

namespace MigrationSafety.Json

/-- Why a text is not read. -/
inductive Fault where
  | malformed
  | integerTooLong (digits : Nat)
  deriving DecidableEq, Repr

/-- The blanks of JSON. -/
def isGap (c : Char) : Bool :=
  c == ' ' || c == '\t' || c == '\n' || c == '\r'

/-- The text after the blanks at its head. -/
def skipGap (cs : List Char) : List Char :=
  cs.dropWhile isGap

/-- The value of a hexadecimal digit. -/
def hexValue? (c : Char) : Option Nat :=
  if '0' ≤ c && c ≤ '9' then some (c.toNat - 0x30)
  else if 'a' ≤ c && c ≤ 'f' then some (c.toNat - 0x57)
  else if 'A' ≤ c && c ≤ 'F' then some (c.toNat - 0x37)
  else none

/-- A code unit of four hexadecimal digits. -/
def unit? (a b c d : Char) : Option Nat :=
  match hexValue? a, hexValue? b, hexValue? c, hexValue? d with
  | some a, some b, some c, some d => some (0x1000 * a + 0x100 * b + 0x10 * c + d)
  | _, _, _, _ => none

/-- The character of an escape with one letter. -/
def simpleEscape? (c : Char) : Option Char :=
  if c == '\x22' || c == '\\' || c == '/' then some c
  else if c == 'b' then some '\x08'
  else if c == 'f' then some '\x0c'
  else if c == 'n' then some '\n'
  else if c == 'r' then some '\r'
  else if c == 't' then some '\t'
  else none

/-- Whether a code unit is the first half of a character beyond the first 65536. -/
def isHighUnit (n : Nat) : Bool :=
  0xD800 ≤ n && n < 0xDC00

/-- Whether a code unit is the second half of a character beyond the first 65536. -/
def isLowUnit (n : Nat) : Bool :=
  0xDC00 ≤ n && n < 0xE000

/-- The character of a code unit; a half without its partner becomes the replacement
character. -/
def charOfUnit (n : Nat) : Char :=
  if isHighUnit n || isLowUnit n then '\uFFFD' else Char.ofNat n

/-- Reads a string whose opening quote has been read; `high` is a first half that waits for its
partner, and `done` what has been read, last character first. -/
def stringFrom (high : Option Nat) (done : List Char) :
    List Char → Except Fault (String × List Char)
  | [] => .error .malformed
  | '\\' :: 'u' :: a :: b :: c :: d :: rest =>
    match unit? a b c d with
    | none => .error .malformed
    | some n =>
      match high with
      | some h =>
        if isLowUnit n then
          stringFrom none (Char.ofNat (0x10000 + 0x400 * (h - 0xD800) + (n - 0xDC00)) :: done) rest
        else if isHighUnit n then stringFrom (some n) (charOfUnit h :: done) rest
        else stringFrom none (charOfUnit n :: charOfUnit h :: done) rest
      | none =>
        if isHighUnit n then stringFrom (some n) done rest
        else stringFrom none (charOfUnit n :: done) rest
  | '\\' :: e :: rest =>
    match simpleEscape? e with
    | none => .error .malformed
    | some c => stringFrom none (c :: ((high.map charOfUnit).toList ++ done)) rest
  | c :: rest =>
    let done := (high.map charOfUnit).toList ++ done
    if c == '\x22' then .ok (String.ofList done.reverse, rest)
    else if c.toNat < 0x20 || c == '\\' then .error .malformed
    else stringFrom none (c :: done) rest

/-- Whether a character is an ASCII digit. -/
def isAsciiDigit (c : Char) : Bool :=
  '0' ≤ c && c ≤ '9'

/-- The number that ASCII digits write. -/
def natOf (digits : List Char) : Nat :=
  digits.foldl (fun n c => 10 * n + (c.toNat - 0x30)) 0

/-- The digits at the head of a text and what follows them. -/
def digitRun (cs : List Char) : List Char × List Char :=
  (cs.takeWhile isAsciiDigit, cs.dropWhile isAsciiDigit)

/-- The whole part of a number: a zero alone, or digits that do not start with one. -/
def wholePart? (cs : List Char) : Option (List Char × List Char) :=
  match cs with
  | '0' :: rest => some (['0'], rest)
  | _ =>
    let (digits, rest) := digitRun cs
    if digits.isEmpty then none else some (digits, rest)

/-- The fraction of a number, if one follows. -/
def fraction? (cs : List Char) : Option (List Char × List Char) :=
  match cs with
  | '.' :: rest =>
    let (digits, rest) := digitRun rest
    if digits.isEmpty then none else some (digits, rest)
  | _ => none

/-- The exponent of a number, if one follows. -/
def exponent? (cs : List Char) : Option (Int × List Char) :=
  match cs with
  | e :: rest =>
    if e == 'e' || e == 'E' then
      let (negative, rest) := Text.splitSign rest
      let (digits, rest) := digitRun rest
      if digits.isEmpty then none
      else some (if negative then -(natOf digits : Int) else natOf digits, rest)
    else none
  | [] => none

/-- Reads a number whose sign has been read. -/
def numberFrom (negative : Bool) (cs : List Char) : Except Fault (Value × List Char) :=
  match wholePart? cs with
  | none => .error .malformed
  | some (whole, rest) =>
    match fraction? rest, exponent? ((fraction? rest).elim rest (·.2)) with
    | none, none =>
      if whole.length > Text.digitLimit then .error (.integerTooLong whole.length)
      else .ok (.int (if negative then -(natOf whole : Int) else natOf whole), rest)
    | fraction, exponent =>
      let (fractionDigits, rest) := fraction.getD ([], rest)
      let (power, rest) := exponent.getD (0, rest)
      .ok (.float (Binary64.ofDecimal negative (natOf (whole ++ fractionDigits))
        (power - fractionDigits.length)), rest)

/-- Reads a literal word. -/
def word? (word : String) (cs : List Char) : Option (List Char) :=
  if word.toList.isPrefixOf cs then some (cs.drop word.length) else none

/-- The words that stand for values. -/
def words : List (String × Value) :=
  [("null", .null), ("true", .flag true), ("false", .flag false), ("NaN", .float .notANumber),
    ("Infinity", .float (.infinite false)), ("-Infinity", .float (.infinite true))]

/-- Reads a value that is one of the words, or a number. -/
def scalar (cs : List Char) : Except Fault (Value × List Char) :=
  match words.findSome? fun (word, v) => (word? word cs).map (v, ·) with
  | some found => .ok found
  | none =>
    match cs with
    | '-' :: rest => numberFrom true rest
    | _ => numberFrom false cs

mutual

/-- Reads a value at the head of a text. `fuel` bounds the steps. -/
def valueFrom : (fuel : Nat) → List Char → Except Fault (Value × List Char)
  | 0, _ => .error .malformed
  | fuel + 1, cs =>
    match cs with
    | '\x22' :: rest => (stringFrom none [] rest).map fun (s, rest) => (.text s, rest)
    | '[' :: rest =>
      match skipGap rest with
      | ']' :: rest => .ok (.list [], rest)
      | rest => (itemsFrom fuel rest).map fun (items, rest) => (.list items, rest)
    | '\x7b' :: rest =>
      match skipGap rest with
      | '\x7d' :: rest => .ok (.record [], rest)
      | rest => fieldsFrom fuel [] rest
    | _ => scalar cs

/-- Reads the items of a list up to its closing bracket. -/
def itemsFrom : (fuel : Nat) → List Char → Except Fault (List Value × List Char)
  | 0, _ => .error .malformed
  | fuel + 1, cs => do
    let (v, rest) ← valueFrom fuel cs
    match skipGap rest with
    | ']' :: rest => .ok ([v], rest)
    | ',' :: rest =>
      let (vs, rest) ← itemsFrom fuel (skipGap rest)
      .ok (v :: vs, rest)
    | _ => .error .malformed

/-- Reads the fields of a record up to its closing brace, adding them to those in `done`. -/
def fieldsFrom :
    (fuel : Nat) → List (String × Value) → List Char → Except Fault (Value × List Char)
  | 0, _, _ => .error .malformed
  | fuel + 1, done, cs =>
    match cs with
    | '\x22' :: rest => do
      let (key, rest) ← stringFrom none [] rest
      match skipGap rest with
      | ':' :: rest =>
        let (v, rest) ← valueFrom fuel (skipGap rest)
        let done := assign key v done
        match skipGap rest with
        | '\x7d' :: rest => .ok (.record done, rest)
        | ',' :: rest => fieldsFrom fuel done (skipGap rest)
        | _ => .error .malformed
      | _ => .error .malformed
    | _ => .error .malformed

end

/-- The value that a text writes. -/
def parse (text : String) : Except Fault Value := do
  let cs := text.toList
  let (v, rest) ← valueFrom (2 * cs.length + 2) (skipGap cs)
  if (skipGap rest).isEmpty then .ok v else .error .malformed

end MigrationSafety.Json
