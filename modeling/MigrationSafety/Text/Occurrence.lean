/-!
# Occurrences of a word

* `occursIn`: whether a word stands somewhere in a text.
-/

namespace MigrationSafety.Text

/-- Whether a word stands somewhere in a text. -/
def occursIn (word : List Char) : List Char → Bool
  | [] => word.isEmpty
  | c :: rest => word.isPrefixOf (c :: rest) || occursIn word rest

theorem occursIn_iff {word cs : List Char} : occursIn word cs ↔ word <:+: cs := by
  induction cs with
  | nil => simp [occursIn]
  | cons c rest ih => simp [occursIn, ih, List.infix_cons_iff]

end MigrationSafety.Text
