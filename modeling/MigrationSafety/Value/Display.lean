import MigrationSafety.Number.Shortest
import MigrationSafety.Text.Quoted
import MigrationSafety.Value.Basic

/-!
# Values in messages

How a value is written into a message. A text that stands for itself is written as it is; where a
message shows what was given, and inside lists and records, texts are quoted.

* `Value.shown`: the value as given, texts in quotes;
* `Value.display`: the same, a text without quotes.
-/

namespace MigrationSafety.Value

/-- How flags are written. -/
def flagWord (b : Bool) : String :=
  if b then "True" else "False"

mutual

/-- A value as it was given. -/
def shown : Value → String
  | .null => "None"
  | .flag b => flagWord b
  | .int n => toString n
  | .float x => x.display
  | .text s => Text.quoted s
  | .list items => "[" ++ ", ".intercalate (shownItems items) ++ "]"
  | .record fields => "\x7b" ++ ", ".intercalate (shownFields fields) ++ "\x7d"

/-- The items of a list as they were given. -/
def shownItems : List Value → List String
  | [] => []
  | v :: vs => shown v :: shownItems vs

/-- The fields of a record as they were given. -/
def shownFields : List (String × Value) → List String
  | [] => []
  | (k, v) :: fs => (Text.quoted k ++ ": " ++ shown v) :: shownFields fs

end

/-- A value as part of a sentence. -/
def display : Value → String
  | .text s => s
  | v => shown v

@[simp] theorem display_text (s : String) : display (.text s) = s := rfl

end MigrationSafety.Value
