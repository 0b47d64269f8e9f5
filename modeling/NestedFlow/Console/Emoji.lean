import NestedFlow.Console.EmojiNames
import NestedFlow.Text.Blank

/-! Pictures by name.

A name between colons stands for a picture. The name may end with the form that is asked for, and letters count
without regard to case. An unknown name stays as it is.
-/

set_option autoImplicit false

namespace NestedFlow.Console

/-- The picture and the names of an entry. -/
def readEntry (entry : String) : List (String × String) :=
  match entry.splitOn " " with
  | picture :: names => names.map fun name => (name, picture)
  | [] => []

/-- Every name with its picture. -/
def emojiByName : List (String × String) := emojiEntries.flatMap fun line => (line.splitOn ";").flatMap readEntry

/-- The small form of a letter. Names have no letters but those of Latin-1, and two signs are letters of it. -/
def smallLetter (c : Char) : Char :=
  let code := c.toNat
  if (0x41 ≤ code && code ≤ 0x5A) || (0xC0 ≤ code && code ≤ 0xDE && code != 0xD7) then Char.ofNat (code + 0x20)
  else if code = 0x212A then 'k'
  else if code = 0x212B then 'å'
  else c

def emoji? (name : List Char) : Option (List Char) :=
  (emojiByName.lookup (String.ofList (name.map smallLetter))).map String.toList

/-- The form that the end of a name asks for: the rest of the name, and the character that selects the form. -/
def variant (name : List Char) : List Char × List Char :=
  let forms : List (String × Nat) := [("-emoji", 0xFE0F), ("-text", 0xFE0E)]
  match forms.find? fun form => form.1.toList.isSuffixOf name with
  | some (ending, code) => (name.take (name.length - ending.length), [Char.ofNat code])
  | none => (name, [])

/-- The picture for what stands between two colons. -/
def picture? (between : List Char) : Option (List Char) :=
  let (name, form) := variant between
  (emoji? name).map (· ++ form)

/-- Replace names by pictures; the steps bound the number of replacements. -/
def replaceWithin : Nat → List Char → List Char
  | 0, text => text
  | _ + 1, [] => []
  | steps + 1, c :: rest =>
    if c = ':' then
      let between := rest.takeWhile fun d => d != ':' && !Text.isGap d
      match rest.drop between.length with
      | ':' :: after => (picture? between).getD (':' :: between ++ [':']) ++ replaceWithin steps after
      | _ => c :: replaceWithin steps rest
    else c :: replaceWithin steps rest

def replaceEmoji (text : List Char) : List Char := if text.contains ':' then replaceWithin text.length text else text

end NestedFlow.Console
