import MigrationSafety.ColumnType.Basic
import MigrationSafety.Failure
import MigrationSafety.Text.Blank
import MigrationSafety.Text.Case
import MigrationSafety.Text.Split

/-!
# Reading column types

A type is written as words, numbers in parentheses, and possibly a time zone clause behind them.
Case and the width of blanks do not matter. What is not written like that is kept as it stands, in
lower case, as the name of a type that equals no other.

* `ColumnType.Spelling.ofChars?`: takes a normalized spelling apart;
* `ColumnType.parse`: reads a type.
-/

namespace MigrationSafety.ColumnType

/-- A spelling of a type, taken apart. -/
structure Spelling where
  /-- The words before the parentheses. -/
  name : List Char
  /-- What stands between the parentheses, if there are any. -/
  numbers : Option (List Char)
  /-- The time zone clause behind the rest. -/
  zone : Option (List Char)

namespace Spelling

/-- Characters of the words of a name. -/
def isNameChar (c : Char) : Bool :=
  ('a' ≤ c && c ≤ 'z') || ('0' ≤ c && c ≤ '9') || c == '_' || c == ' '

/-- Characters between parentheses. -/
def isNumbersChar (c : Char) : Bool :=
  ('0' ≤ c && c ≤ '9') || c == ' ' || c == ','

/-- The clauses that may end a type. -/
def zoneClauses : List (List Char) :=
  ["with time zone".toList, "without time zone".toList]

/-- The text before a time zone clause at the end, and the clause. -/
def splitZone (cs : List Char) : List Char × Option (List Char) :=
  match zoneClauses.find? fun zone => (' ' :: zone).isSuffixOf cs with
  | some zone => (cs.take (cs.length - (zone.length + 1)), some zone)
  | none => (cs, none)

/-- Takes a spelling apart whose words are separated by single spaces. -/
def ofChars? (cs : List Char) : Option Spelling :=
  let words := cs.takeWhile isNameChar
  if !(words.head?.any fun c => 'a' ≤ c && c ≤ 'z') then none
  else
    match cs.dropWhile isNameChar with
    | [] =>
      let (name, zone) := splitZone words
      some ⟨name, none, zone⟩
    | '(' :: rest =>
      let name := (words.reverse.dropWhile (· == ' ')).reverse
      let numbers := rest.takeWhile isNumbersChar
      match rest.dropWhile isNumbersChar with
      | ')' :: rest =>
        match splitZone rest with
        | ([], zone) => some ⟨name, some numbers, zone⟩
        | _ => none
      | _ => none
    | _ => none

/-- The words of the type, those of a time zone clause last. -/
def fullName (s : Spelling) : String :=
  match s.zone with
  | none => String.ofList s.name
  | some zone => String.ofList (s.name ++ ' ' :: zone)

end Spelling

/-- The numbers between parentheses: spaces are dropped, and commas separate. -/
def readModifiers (cs : List Char) : Except ValueFault (List Nat) :=
  let pieces := (Text.splitAtEach ',' (cs.filter (· != ' '))).filter (!·.isEmpty)
  pieces.mapM fun digits =>
    if digits.length > Text.digitLimit then .error (.tooLong digits.length)
    else .ok (Text.ofDigits (digits.map fun c => c.toNat - '0'.toNat))

/-- Lower case, with single spaces between words. -/
def normalize (spec : String) : List Char :=
  (Text.squeeze (Text.lower spec)).toList

/-- Reads a type. -/
def parse (spec : String) : Except ValueFault ColumnType :=
  let cs := normalize spec
  match Spelling.ofChars? cs with
  | none => .ok ⟨String.ofList cs, []⟩
  | some spelling => do
    let modifiers ← readModifiers (spelling.numbers.getD [])
    .ok ⟨canonicalName spelling.fullName, modifiers⟩

end MigrationSafety.ColumnType
