import MigrationSafety.Number.Shortest
import MigrationSafety.Text.Quoted
import MigrationSafety.Value.Basic

/-!
# Writing JSON

The JSON text of a value, in ASCII. `Json.render` writes it on one line, or, given a depth of
indentation, one item a line. `Value.sortKeys` puts the keys of every record in order first, which
makes the text a function of the value alone.
-/

namespace MigrationSafety

mutual

/-- A value with the keys of every record in the order of their code points. -/
def Value.sortKeys : Value → Value
  | .list items => .list (Value.sortKeysItems items)
  | .record fields =>
    .record ((Value.sortKeysFields fields).mergeSort fun a b => !decide (b.1 < a.1))
  | v => v

/-- The items of a list, each with its keys in order. -/
def Value.sortKeysItems : List Value → List Value
  | [] => []
  | v :: vs => v.sortKeys :: Value.sortKeysItems vs

/-- The fields of a record in the order given, each value with its keys in order. -/
def Value.sortKeysFields : List (String × Value) → List (String × Value)
  | [] => []
  | (k, v) :: fs => (k, v.sortKeys) :: Value.sortKeysFields fs

end

namespace Json

/-- A code unit of sixteen bits as an escape. -/
def escapeUnit (n : Nat) : List Char :=
  '\\' :: 'u' :: Text.hex 4 n

/-- One character inside a JSON string. Beyond the first 65536 code points it is written as two
code units. -/
def escapeChar (c : Char) : List Char :=
  if c == '\x22' || c == '\\' then ['\\', c]
  else if c == '\n' then ['\\', 'n']
  else if c == '\r' then ['\\', 'r']
  else if c == '\t' then ['\\', 't']
  else if c == '\x0c' then ['\\', 'f']
  else if c == '\x08' then ['\\', 'b']
  else if 0x20 ≤ c.toNat && c.toNat ≤ 0x7E then [c]
  else if c.toNat < 0x10000 then escapeUnit c.toNat
  else
    let rest := c.toNat - 0x10000
    escapeUnit (0xD800 + rest / 0x400) ++ escapeUnit (0xDC00 + rest % 0x400)

/-- A JSON string. -/
def renderString (s : String) : String :=
  String.ofList ('\x22' :: s.toList.flatMap escapeChar ++ ['\x22'])

/-- A JSON number that is not whole. -/
def renderFloat : Binary64 → String
  | .notANumber => "NaN"
  | .infinite negative => if negative then "-Infinity" else "Infinity"
  | x => x.display

/-- Puts written items between brackets, `depth` levels deep. -/
def enclose (indent : Option Nat) (depth : Nat) (left right : String) (items : List String) :
    String :=
  match indent with
  | none => left ++ ", ".intercalate items ++ right
  | some width =>
    if items.isEmpty then left ++ right
    else
      let line (levels : Nat) := "\n".pushn ' ' (width * levels)
      left ++ line (depth + 1) ++ ("," ++ line (depth + 1)).intercalate items ++ line depth ++ right

mutual

/-- The text of a value that stands `depth` levels deep. -/
def renderAt (indent : Option Nat) (depth : Nat) : Value → String
  | .null => "null"
  | .flag b => if b then "true" else "false"
  | .int n => toString n
  | .float x => renderFloat x
  | .text s => renderString s
  | .list items => enclose indent depth "[" "]" (renderItems indent (depth + 1) items)
  | .record fields => enclose indent depth "\x7b" "\x7d" (renderFields indent (depth + 1) fields)

/-- The texts of the items of a list. -/
def renderItems (indent : Option Nat) (depth : Nat) : List Value → List String
  | [] => []
  | v :: vs => renderAt indent depth v :: renderItems indent depth vs

/-- The texts of the fields of a record. -/
def renderFields (indent : Option Nat) (depth : Nat) : List (String × Value) → List String
  | [] => []
  | (k, v) :: fs =>
    (renderString k ++ ": " ++ renderAt indent depth v) :: renderFields indent depth fs

end

/-- The JSON text of a value, its keys in the order given. -/
def render (v : Value) (indent : Option Nat) : String :=
  renderAt indent 0 v

end Json

end MigrationSafety
