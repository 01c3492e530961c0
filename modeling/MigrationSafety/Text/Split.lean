/-!
# Splitting at a character

* `splitAtEach`: the pieces of a text between the places where a character stands;
* `splitAtFirst`: the text before the first such place, and the text after it.
-/

namespace MigrationSafety.Text

/-- The pieces between the places where a character stands; one piece if it stands nowhere. -/
def splitAtEach (sep : Char) : List Char → List (List Char)
  | [] => [[]]
  | c :: rest =>
    if c == sep then [] :: splitAtEach sep rest
    else
      match splitAtEach sep rest with
      | [] => [[c]]
      | piece :: pieces => (c :: piece) :: pieces

/-- The text before the first place where a character stands, and the text after it. -/
def splitAtFirst (sep : Char) (cs : List Char) : List Char × List Char :=
  (cs.takeWhile (· != sep), (cs.dropWhile (· != sep)).drop 1)

theorem splitAtEach_ne_nil (sep : Char) (cs : List Char) : splitAtEach sep cs ≠ [] := by
  cases cs with
  | nil => simp [splitAtEach]
  | cons c rest =>
    simp only [splitAtEach]
    split
    · simp
    · split <;> simp

end MigrationSafety.Text
