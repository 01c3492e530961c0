import MigrationSafety.Failure
import MigrationSafety.Text.Blank
import MigrationSafety.Text.Case
import MigrationSafety.Text.Word

/-!
# Volatile expressions

A default that calls a function with a new result for every row cannot be stored once; the engine
writes every row anew. Such a call is the name of a volatile function, in any case, that starts at
the head of a word and is followed by an opening parenthesis, with or without blanks between.

* `isVolatile`: whether an expression holds such a call.
-/

namespace MigrationSafety.Operation

/-- The functions that are evaluated anew for every row. -/
def volatileFunctions : List String :=
  ["random", "rand", "gen_random_uuid", "uuid_generate_v1", "uuid_generate_v1mc",
    "uuid_generate_v4", "uuid", "uuid_short", "clock_timestamp", "timeofday", "nextval",
    "sysdate"]

/-- Whether a text starts with a call of a function. -/
def startsWithCall (cs : List Char) (function : String) : Bool :=
  match Text.startsWithFolded? function.toList cs with
  | some rest => (rest.dropWhile Text.isBlank).head? == some '('
  | none => false

/-- Whether a call of a volatile function stands somewhere in a text; `inWord` tells whether the
character before it may stand inside a word. -/
def holdsCall (inWord : Bool) : List Char → Bool
  | [] => false
  | c :: rest =>
    (!inWord && volatileFunctions.any (startsWithCall (c :: rest))) ||
      holdsCall (Text.isWord c) rest

/-- Whether an expression calls a volatile function. -/
def isVolatile (expression : String) : Bool :=
  holdsCall false expression.toList

/-- Whether a default calls a volatile function. One that counts as absent does not. -/
def isVolatileValue : Value → Outcome Bool
  | .text s => .ok (isVolatile s)
  | v => if v.truthy then .error (.shape (.notText v)) else .ok false

end MigrationSafety.Operation
