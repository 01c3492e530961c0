import MigrationSafety.Failure
import MigrationSafety.Text.Blank
import MigrationSafety.Text.Case

/-!
# Checks against null

A check constraint proves that a column holds no null if it says exactly that: the name of the
column and `IS NOT NULL`, in any case, with blanks and one pair of parentheses around it, and the
name in double quotes or not. An expression with anything else in it proves nothing.

* `notNullColumn?`: the column of such an expression.
-/

namespace MigrationSafety.Operation

/-- Whether a column name may start with a character: a letter, ignoring case, or the underscore. -/
def isNameStart (c : Char) : Bool :=
  (Text.foldLetter c).isLower || c == '_'

/-- Whether a column name may go on with a character. -/
def isNamePart (c : Char) : Bool :=
  isNameStart c || c.isDigit

/-- A text without the character at its head, if it stands there. -/
def skipOne (c : Char) : List Char → List Char
  | [] => []
  | d :: rest => if d == c then rest else d :: rest

/-- A text without the blanks at its head. -/
def skipBlanks (cs : List Char) : List Char :=
  cs.dropWhile Text.isBlank

/-- What follows a word, in lower case here, with at least one blank before it. -/
def afterWord? (word : String) (cs : List Char) : Option (List Char) :=
  if (cs.head?.any Text.isBlank) then Text.startsWithFolded? word.toList (skipBlanks cs) else none

/-- The column that an expression forbids to be null, if it says nothing else. -/
def notNullColumn? (expression : String) : Option String := do
  let cs := skipOne '\x22' (skipBlanks (skipOne '(' (skipBlanks expression.toList)))
  let column := cs.takeWhile isNamePart
  let first ← column.head?
  if isNameStart first then
    let rest := skipOne '\x22' (cs.dropWhile isNamePart)
    let rest ← afterWord? "is" rest
    let rest ← afterWord? "not" rest
    let rest ← afterWord? "null" rest
    if (skipBlanks (skipOne ')' (skipBlanks rest))).isEmpty then some (String.ofList column)
    else none
  else none

/-- The same for an expression that may be no text. -/
def notNullColumnOf : Value → Outcome (Option String)
  | .text s => .ok (notNullColumn? s)
  | v => .error (.shape (.notText v))

end MigrationSafety.Operation
