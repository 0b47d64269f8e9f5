import NestedFlow.Console.Width
import NestedFlow.Text.Surrogate

/-! Text measured in the columns of a console.

A joiner hides the character after it, and a selector may widen the character before it. A half of a surrogate pair
takes one column, as the mark does. Text is cut only between clusters: a character with all that combines with it.
-/

set_option autoImplicit false

namespace NestedFlow.Console

abbrev Line := List Char

def joiner : Char := Char.ofNat 0x200D

/-- The character that selects the colourful form of a picture. -/
def selector : Char := Char.ofNat 0xFE0F

def isWidened (last : Option Char) : Bool := (last.map (Text.inRanges widened)).getD false

/-- The columns of a text, after a last visible character. -/
def widthAfter : Option Char → Line → Nat
  | _, [] => 0
  | last, c :: rest =>
    if c = joiner then
      match rest with
      | next :: hidden :: rest =>
        if next = Text.mark then widthAfter last rest else widthAfter last (hidden :: rest)
      | _ => 0
    else if c = selector then (if isWidened last then 1 else 0) + widthAfter none rest
    else if c = Text.mark then
      match rest with
      | _ :: rest => 1 + widthAfter (some c) rest
      | [] => 1
    else
      let width := charWidth c
      width + widthAfter (if width = 0 then last else some c) rest

def width (text : Line) : Nat := widthAfter none text

structure Cluster where
  text : Line
  width : Nat

/-- Extend the latest cluster of those in reverse order. -/
def extend (text : Line) (width : Nat) : List Cluster → List Cluster
  | latest :: rest => ⟨latest.text ++ text, latest.width + width⟩ :: rest
  | [] => [⟨text, width⟩]

/-- The clusters of a text, after those already found in reverse order and a last visible character. -/
def clustersAfter : List Cluster → Option Char → Line → List Cluster
  | done, _, [] => done.reverse
  | done, last, c :: rest =>
    if c = joiner then
      match done, rest with
      | [], rest => clustersAfter (extend [c] 0 []) last rest
      | done, next :: hidden :: rest =>
        if next = Text.mark then clustersAfter (extend [c, next, hidden] 0 done) last rest
        else clustersAfter (extend [c, next] 0 done) last (hidden :: rest)
      | done, rest => (extend (c :: rest) 0 done).reverse
    else if c = selector then
      if isWidened last && !done.isEmpty then clustersAfter (extend [c] 1 done) none rest
      else clustersAfter (extend [c] 0 done) last rest
    else if c = Text.mark then
      match rest with
      | told :: rest => clustersAfter (⟨[c, told], 1⟩ :: done) (some c) rest
      | [] => (⟨[c], 1⟩ :: done).reverse
    else
      match charWidth c with
      | 0 => clustersAfter (extend [c] 0 done) last rest
      | width => clustersAfter (⟨[c], width⟩ :: done) (some c) rest

def clusters (text : Line) : List Cluster := clustersAfter [] none text

/-- The clusters that fit in so many columns; one that would be cut leaves blanks. -/
def take : Nat → List Cluster → Line
  | _, [] => []
  | columns, cluster :: rest =>
    if columns = 0 then []
    else if cluster.width ≤ columns then cluster.text ++ take (columns - cluster.width) rest
    else [' ']

def blanks (columns : Nat) : Line := List.replicate columns ' '

/-- The text in exactly so many columns. -/
def fit (columns : Nat) (text : Line) : Line :=
  if width text ≤ columns then text ++ blanks (columns - width text) else take columns (clusters text)

/-- The numbers of characters of the pieces of at most so many columns, after some characters that take up some
columns. -/
def pieces (columns : Nat) : Nat → Nat → List Cluster → List Nat
  | _, 0, [] => []
  | count, _, [] => [count]
  | count, used, cluster :: rest =>
    if columns < used + cluster.width then count :: pieces columns cluster.text.length cluster.width rest
    else pieces columns (count + cluster.text.length) (used + cluster.width) rest

end NestedFlow.Console
