import MigrationSafety.Text.Blank
import MigrationSafety.Text.Digit
import MigrationSafety.Text.Word

/-!
# Breaking text into lines

A paragraph is cut into chunks between which a line may end: runs of spaces, words, the parts of
hyphenated words, and dashes between words. Lines are filled with chunks greedily, and a chunk that
fits on no line is cut.

* `chunks`: a paragraph, cut; the chunks joined are the paragraph again;
* `fillLines`: the lines;
* `wrap`: a text with every line indented.
-/

namespace MigrationSafety.Text

/-- Tabs become spaces up to the next multiple of eight columns; `column` is the column of the
first character. -/
def expandTabs (column : Nat) : List Char → List Char
  | [] => []
  | c :: rest =>
    if c == '\t' then
      let width := 8 - column % 8
      List.replicate width ' ' ++ expandTabs (column + width) rest
    else if c == '\n' || c == '\r' then c :: expandTabs 0 rest
    else c :: expandTabs (column + 1) rest

/-- Characters that a paragraph shows as a space. -/
def isLayout (c : Char) : Bool :=
  c == ' ' || (0x09 ≤ c.toNat && c.toNat ≤ 0x0D)

/-- A paragraph with spaces for everything that lays it out. -/
def paragraph (cs : List Char) : List Char :=
  (expandTabs 0 cs).map fun c => if isLayout c then ' ' else c

/-- Word characters and the punctuation that belongs to a word. -/
def isWordOrPunctuation (c : Char) : Bool :=
  isWord c || ['!', '\x22', '\x27', '&', '.', ',', '?'].contains c

/-- Word characters that are no digits. -/
def isLetter (c : Char) : Bool :=
  isWord c && !isDigit c

/-- Whether a text starts with at least two hyphens and a word character behind them. -/
def startsWithDash (cs : List Char) : Bool :=
  2 ≤ (cs.takeWhile (· == '-')).length && (cs.dropWhile (· == '-')).head?.any isWord

/-- Whether a hyphen after the characters `before`, last one first, has enough of a word before
it: two letters, or one letter after another hyphen that follows a letter. -/
def hyphenMayFollow : (before : List Char) → Bool
  | a :: '-' :: c :: _ => isLetter a && isLetter c
  | a :: b :: _ => isLetter a && isLetter b
  | _ => false

/-- Whether a hyphen has enough of a word behind it: two letters, or two with a hyphen between. -/
def hyphenMayPrecede : (rest : List Char) → Bool
  | a :: '-' :: c :: _ => isLetter a && isLetter c
  | a :: b :: _ => isLetter a && isLetter b
  | _ => false

/-- The rest of a chunk that has begun with a character other than a space, and what follows the
chunk; `before` holds the characters read, last one first. -/
def chunkRest (before : List Char) : List Char → List Char × List Char
  | [] => ([], [])
  | c :: rest =>
    if c == ' ' then ([], c :: rest)
    else if c == '-' && hyphenMayFollow before && hyphenMayPrecede rest then ([c], rest)
    else if before.head?.any isWordOrPunctuation && startsWithDash (c :: rest) then ([], c :: rest)
    else
      let (chunk, rest) := chunkRest (c :: before) rest
      (c :: chunk, rest)

/-- The chunks of a text after the characters `before`, last one first. `fuel` bounds their
number. -/
def chunksFrom : (fuel : Nat) → (before : List Char) → List Char → List (List Char)
  | 0, _, _ => []
  | _, _, [] => []
  | fuel + 1, before, c :: rest =>
    let (chunk, rest) :=
      if c == ' ' then (c :: rest.takeWhile (· == ' '), rest.dropWhile (· == ' '))
      else if before.head?.any isWordOrPunctuation && startsWithDash (c :: rest) then
        (c :: rest.takeWhile (· == '-'), rest.dropWhile (· == '-'))
      else
        let (chunk, rest) := chunkRest (c :: before) rest
        (c :: chunk, rest)
    chunk :: chunksFrom fuel (chunk.reverse ++ before) rest

/-- The chunks of a paragraph. -/
def chunks (cs : List Char) : List (List Char) :=
  chunksFrom cs.length [] cs

/-- Takes chunks as long as they fit into `room`: those taken, the room left, and the rest. -/
def takeFitting (room : Nat) : List (List Char) → List (List Char) × Nat × List (List Char)
  | [] => ([], room, [])
  | chunk :: rest =>
    if chunk.length ≤ room then
      let (taken, room, rest) := takeFitting (room - chunk.length) rest
      (chunk :: taken, room, rest)
    else ([], room, chunk :: rest)

/-- Where a chunk is cut that fits on no line: behind the last hyphen in the room left that has
something else before it, else at the end of the room. -/
def cutAt (room : Nat) (chunk : List Char) : Nat :=
  let kept := (chunk.take room).reverse.dropWhile (· != '-')
  if (kept.drop 1).any (· != '-') then kept.length else room

/-- Whether a chunk shows nothing. -/
def isBlankChunk (chunk : List Char) : Bool :=
  chunk.all isBlank

/-- A list without its last chunk if that shows nothing. -/
def dropBlankEnd (line : List (List Char)) : List (List Char) :=
  match line.getLast? with
  | some chunk => if isBlankChunk chunk then line.dropLast else line
  | none => []

/-- Fills lines of a width with chunks. A line does not start with a blank chunk, the first one
excepted, and does not end with one. `fuel` bounds the number of steps. -/
def fillLines (width : Nat) : (fuel : Nat) → (first : Bool) → List (List Char) → List (List Char)
  | 0, _, _ => []
  | _, _, [] => []
  | fuel + 1, first, chunk :: rest =>
    let pieces := if !first && isBlankChunk chunk then rest else chunk :: rest
    let (taken, room, rest) := takeFitting width pieces
    let (line, rest) :=
      match rest with
      | [] => (taken, [])
      | chunk :: rest =>
        if width < chunk.length then
          let cut := cutAt room chunk
          (taken ++ [chunk.take cut], chunk.drop cut :: rest)
        else (taken, chunk :: rest)
    let line := dropBlankEnd line
    if line.isEmpty then fillLines width fuel first rest
    else line.flatten :: fillLines width fuel false rest

/-- A text broken into lines of at most `width` characters, each indented by `indent` spaces. -/
def wrap (width indent : Nat) (s : String) : String :=
  let cs := paragraph s.toList
  let lines := fillLines (width - indent) (2 * cs.length + 1) true (chunks cs)
  "\n".intercalate (lines.map fun line => String.ofList (List.replicate indent ' ' ++ line))

end MigrationSafety.Text
