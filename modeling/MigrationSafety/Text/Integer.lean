import MigrationSafety.Text.Blank
import MigrationSafety.Text.Digit

/-!
# Reading whole numbers

A written whole number may be surrounded by blanks and carry a sign; its digits may come from any
script, with a single underscore between two of them. Numbers of more than `digitLimit` digits
are refused, because reading them takes time quadratic in their length.

* `readInteger`: the number, or why the text is none;
* `digitsOf?`: the digits of an unsigned text.
-/

namespace MigrationSafety.Text

/-- The largest number of digits that is read. -/
def digitLimit : Nat := 4300

/-- Why a text is not read as a whole number. -/
inductive IntegerFault where
  | malformed
  | tooLong (digits : Nat)
  deriving DecidableEq, Repr

/-- What a number with too many digits is refused with. -/
def tooLongMessage (digits : Nat) : String :=
  s!"Exceeds the limit ({digitLimit} digits) for integer string conversion: value has {digits} " ++
    "digits; use sys.set_int_max_str_digits() to increase the limit"

/-- The values of the digits of an unsigned number, most significant first. -/
def digitsOf? : List Char → Option (List Nat)
  | [] => none
  | [c] => (digitValue? c).map ([·])
  | c :: d :: rest =>
    match digitValue? c, (if d == '_' then digitsOf? rest else digitsOf? (d :: rest)) with
    | some n, some ns => some (n :: ns)
    | _, _ => none

/-- The number that a list of decimal digits writes. -/
def ofDigits (digits : List Nat) : Nat :=
  digits.foldl (fun n d => 10 * n + d) 0

/-- Blanks that may surround a number: all but the four separators of ASCII. -/
def isNumberBlank (c : Char) : Bool :=
  isBlank c && !(0x1C ≤ c.toNat && c.toNat ≤ 0x1F)

/-- Splits off the sign; `true` stands for a minus. -/
def splitSign : List Char → Bool × List Char
  | '-' :: rest => (true, rest)
  | '+' :: rest => (false, rest)
  | cs => (false, cs)

/-- The whole number that a text writes. -/
def readInteger (s : String) : Except IntegerFault Int :=
  let core := ((s.toList.dropWhile isNumberBlank).reverse.dropWhile isNumberBlank).reverse
  let (negative, unsigned) := splitSign core
  match digitsOf? unsigned with
  | none => .error .malformed
  | some digits =>
    if digits.length > digitLimit then .error (.tooLong digits.length)
    else .ok (if negative then -(ofDigits digits : Int) else ofDigits digits)

theorem digitsOf?_lt {cs : List Char} {ds : List Nat} (h : digitsOf? cs = some ds) :
    ∀ d ∈ ds, d < 10 := by
  fun_induction digitsOf? cs generalizing ds with
  | case1 => simp at h
  | case2 c =>
    obtain ⟨n, hn, rfl⟩ := Option.map_eq_some_iff.1 h
    simpa using digitValue?_lt hn
  | case3 c d rest n ns hns hn ih1 ih2 =>
    simp only [Option.some.injEq] at h
    subst h
    have : ∀ m ∈ ns, m < 10 := by
      split at hns
      · exact ih1 hns
      · exact ih2 hns
    simpa using ⟨digitValue?_lt hn, this⟩
  | case4 => simp at h

end MigrationSafety.Text
