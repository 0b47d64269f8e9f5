import NestedFlow.Console.Cells
import NestedFlow.Text.Blank

/-! Breaking lines of text to the width of a console.

Lines are broken before words. A word that is too long for a line is either folded over several lines or cut off with
an ellipsis. Tabulators lead to the next multiple of eight columns.
-/

set_option autoImplicit false

namespace NestedFlow.Console

/-- What happens to a word that is too long for a line. -/
inductive Overflow where
  | fold
  | ellipsis
  deriving DecidableEq

/-- Where text stands that is shorter than its line; ragged text is not filled up. -/
inductive Alignment where
  | ragged
  | left
  | right
  deriving DecidableEq

/-! ### Words -/

/-- The text up to a word and after it, with the blanks that follow it, and the rest. -/
def nextWord (text : Line) : Line × Line :=
  let blanks := text.takeWhile Text.isGap
  let rest := text.drop blanks.length
  let letters := rest.takeWhile fun c => !Text.isGap c
  let rest := rest.drop letters.length
  let after := rest.takeWhile Text.isGap
  (blanks ++ letters ++ after, rest.drop after.length)

/-- The words of a text, each with the blanks after it; the steps bound their number. -/
def wordsWithin : Nat → Line → List Line
  | 0, _ => []
  | steps + 1, text => if text.all Text.isGap then [] else (nextWord text).1 :: wordsWithin steps (nextWord text).2

def words (text : Line) : List Line := wordsWithin text.length text

/-! ### Breaks -/

/-- The positions of the breaks within a folded word that starts at a position. -/
def foldBreaks : Nat → List Nat → List Nat
  | _, [] => []
  | start, count :: rest => start :: foldBreaks (start + count) rest

/-- The positions before which lines end. The words stand from a position on, in a line of which some columns are
taken. -/
def breaksAfter (overflow : Overflow) (columns : Nat) : Nat → Nat → List Line → List Nat
  | _, _, [] => []
  | start, used, word :: rest =>
    let next := start + word.length
    let size := width (Text.trimEnd word)
    let here := if start = 0 then [] else [start]
    if used + size ≤ columns then breaksAfter overflow columns next (used + width word) rest
    else if columns < size then
      match overflow with
      | .fold =>
        let counts := pieces columns 0 0 (clusters word)
        let last := word.drop (counts.dropLast.foldl (· + ·) 0)
        (foldBreaks start counts).filter (0 < ·) ++
          breaksAfter overflow columns next (width (last.take (counts.getLastD 0))) rest
      | .ellipsis => here ++ breaksAfter overflow columns next (width word) rest
    else if used = 0 then breaksAfter overflow columns next used rest
    else if start = 0 then breaksAfter overflow columns next used rest
    else here ++ breaksAfter overflow columns next (width word) rest

/-- The parts of a text between positions in ascending order. -/
def splitFrom : Nat → List Nat → Line → List Line
  | _, [], text => [text]
  | start, position :: rest, text => text.take (position - start) :: splitFrom position rest (text.drop (position - start))

/-! ### Lines -/

/-- Replace tabulators, from a column on. -/
def expandTabs : Nat → Line → Line → Line
  | _, part, [] => part.reverse
  | column, part, c :: rest =>
    if c = '\t' then
      let part := (' ' :: part).reverse
      let reached := column + width part
      let more := (8 - reached % 8) % 8
      part ++ blanks more ++ expandTabs (reached + more) [] rest
    else expandTabs column (c :: part) rest

/-- Drop blanks at the end of a line that has more characters than columns, as many as are too many. -/
def dropExcess (columns : Nat) (line : Line) : Line :=
  let gaps := line.length - (Text.trimEnd line).length
  line.take (line.length - min gaps ((Text.points line).length - columns))

/-- The line in at most so many columns. -/
def truncate (overflow : Overflow) (columns : Nat) (line : Line) : Line :=
  if width line ≤ columns then line
  else
    match overflow with
    | .fold => fit columns line
    | .ellipsis => fit (columns - 1) line ++ ['…']

def align (alignment : Alignment) (overflow : Overflow) (columns : Nat) (line : Line) : Line :=
  match alignment with
  | .ragged => truncate overflow columns line
  | .left =>
    let line := truncate overflow columns line
    line ++ blanks (columns - width line)
  | .right =>
    let line := truncate overflow columns (Text.trimEnd line)
    blanks (columns - width line) ++ line

/-- Texts between line feeds. -/
def splitLines (text : Line) : List Line := (String.ofList text).splitOn "\n" |>.map String.toList

/-- A text as lines of at most so many columns. -/
def wrap (alignment : Alignment) (overflow : Overflow) (columns : Nat) (text : Line) : List Line :=
  if columns = 0 then []
  else
    (splitLines text).flatMap fun line =>
      let line := if line.contains '\t' then expandTabs 0 [] line else line
      (splitFrom 0 (breaksAfter overflow columns 0 0 (words line)) line).map fun part =>
        align alignment overflow columns (dropExcess columns part)

end NestedFlow.Console
