import NestedFlow.Console.Emoji

/-! Text with marks for its style.

A mark stands in square brackets and begins with a small letter, a number sign, a slash or an at sign. A mark after an
odd number of backslashes is text, and of the backslashes before a mark every other one is text. What is shown is the
text without marks, with pictures for names, and without the control characters that move the cursor.
-/

set_option autoImplicit false

namespace NestedFlow.Console

def startsMark (c : Char) : Bool := ('a' ≤ c && c ≤ 'z') || c = '#' || c = '/' || c = '@'

/-- A mark at the beginning of a text, and the rest. -/
def mark? : List Char → Option (List Char × List Char)
  | '[' :: c :: rest =>
    if startsMark c then
      let inside := rest.takeWhile fun d => d != '[' && d != ']'
      match rest.drop inside.length with
      | ']' :: after => some ('[' :: c :: inside ++ [']'], after)
      | _ => none
    else none
  | _ => none

/-- A part of a text. -/
inductive Part where
  /-- Text without marks. -/
  | plain (text : List Char)
  /-- A mark and the number of backslashes before it. -/
  | mark (backslashes : Nat) (text : List Char)

/-- The parts of a text, after some plain text in reverse order; the steps bound their number. -/
def partsWithin : Nat → List Char → List Char → List Part
  | 0, plain, text => [.plain (plain.reverse ++ text)]
  | _ + 1, plain, [] => [.plain plain.reverse]
  | steps + 1, plain, c :: rest =>
    let backslashes := (c :: rest).takeWhile (· == '\\')
    match mark? ((c :: rest).drop backslashes.length) with
    | some (mark, after) => .plain plain.reverse :: .mark backslashes.length mark :: partsWithin steps [] after
    | none =>
      match backslashes with
      | [] => partsWithin steps (c :: plain) rest
      | _ => partsWithin steps (backslashes ++ plain) ((c :: rest).drop backslashes.length)

def parts (text : List Char) : List Part := partsWithin (text.length + 1) [] text

/-! ### Writing -/

def backslashes (count : Nat) : List Char := List.replicate count '\\'

def Part.escape : Part → List Char
  | .plain text => text
  | .mark count text => backslashes (2 * count + 1) ++ text

/-- The text for a part that is to be shown as it is. A single backslash at the end is doubled, lest it escape the mark
that follows. -/
def escape (text : List Char) : List Char :=
  let escaped := (parts text).flatMap Part.escape
  match escaped.reverse with
  | '\\' :: '\\' :: _ => escaped
  | '\\' :: _ => escaped ++ ['\\']
  | _ => escaped

/-! ### Showing -/

/-- Bell, backspace, vertical tab, form feed and carriage return. -/
def movesCursor (c : Char) : Bool := c.toNat ∈ [7, 8, 11, 12, 13]

def shown (text : List Char) : List Char := (replaceEmoji text).filter fun c => !movesCursor c

/-- Text without the backslashes before square brackets. -/
def unescaped : List Char → List Char
  | '\\' :: '[' :: rest => '[' :: unescaped rest
  | c :: rest => c :: unescaped rest
  | [] => []

def Part.seen : Part → List Char
  | .plain text => shown (unescaped text)
  | .mark count text => backslashes (count / 2) ++ if count % 2 = 1 then shown (unescaped text) else []

/-- The text that is seen. -/
def seen (markup : List Char) : List Char :=
  if markup.contains '[' then (parts markup).flatMap Part.seen else shown markup

end NestedFlow.Console
