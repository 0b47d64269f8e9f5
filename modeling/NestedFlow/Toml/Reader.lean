import NestedFlow.Toml.Scalar
import NestedFlow.Toml.Table

/-! Reading tables from text. -/

set_option autoImplicit false

namespace NestedFlow.Toml

def isBareKey (c : Char) : Bool := c.isAlphanum || c = '-' || c = '_'

def readKeyPart? (text : List Char) : Option (String × List Char) :=
  match text with
  | '"' :: rest => readBasic? (text.length + 1) [] rest
  | '\'' :: rest => readLiteral? [] rest
  | _ =>
    let part := text.takeWhile isBareKey
    if part.isEmpty then none else some (String.ofList part, text.dropWhile isBareKey)

/-- A dotted key, with the blanks after it. -/
def readKey? : Nat → List Char → Option (Path × List Char)
  | 0, _ => none
  | steps + 1, text => do
    let (part, rest) ← readKeyPart? text
    match skipSpaces rest with
    | '.' :: rest =>
      let (path, rest) ← readKey? steps (skipSpaces rest)
      pure (part :: path, rest)
    | rest => pure ([part], rest)

/-- The rest after a comment, which ends before the line does. -/
def readComment? (text : List Char) : Option (List Char) :=
  match text with
  | '#' :: rest =>
    if (rest.takeWhile fun c => c != '\n').any isControl then none
    else some (rest.dropWhile fun c => c != '\n')
  | _ => some text

/-- Skip blanks, line breaks and comments. -/
def skipLines? : Nat → List Char → Option (List Char)
  | 0, _ => none
  | steps + 1, text =>
    match text.dropWhile fun c => isSpace c || c = '\n' with
    | '#' :: rest => (readComment? ('#' :: rest)).bind (skipLines? steps)
    | rest => some rest

/-- The room that a value has for what lies in it; every array and inline table takes some of it. -/
def maxRoom : Nat := 985

def arrayRoom : Nat := 2

def tableRoom : Nat := 3

mutual

/-- A value. The steps bound the recursion, the room what may lie in the value. -/
def readValue : Nat → Nat → List Char → Reading (Json × List Char)
  | 0, _, _ => .error .form
  | steps + 1, room, text =>
    match text with
    | '[' :: rest =>
      if room < arrayRoom then .error .depth
      else do
        match ← skipLines? (rest.length + 1) rest with
        | ']' :: rest => pure (.arr [], rest)
        | rest => readItems steps (room - arrayRoom) [] rest
    | '\x7b' :: rest =>
      if room < tableRoom then .error .depth
      else
        match skipSpaces rest with
        | '\x7d' :: rest => pure (.obj [], rest)
        | rest => readFields steps (room - tableRoom) [] [] rest
    | '"' :: _ | '\'' :: _ => do
      let (value, rest) ← readText? text
      pure (.str value, rest)
    | _ => readPlain text

def readItems : Nat → Nat → List Json → List Char → Reading (Json × List Char)
  | 0, _, _, _ => .error .form
  | steps + 1, room, done, text => do
    let (item, rest) ← readValue steps room text
    let rest ← skipLines? (rest.length + 1) rest
    match rest with
    | ']' :: rest => pure (.arr (item :: done).reverse, rest)
    | ',' :: rest =>
      match ← skipLines? (rest.length + 1) rest with
      | ']' :: rest => pure (.arr (item :: done).reverse, rest)
      | rest => readItems steps room (item :: done) rest
    | _ => .error .form

def readFields : Nat → Nat → Fields → List Path → List Char → Reading (Json × List Char)
  | 0, _, _, _, _ => .error .form
  | steps + 1, room, fields, closed, text => do
    let (path, rest) ← readKey? (text.length + 1) text
    match rest with
    | '=' :: rest =>
      let (value, rest) ← readValue steps room (skipSpaces rest)
      let fields ← assignInline? fields closed path value
      match skipSpaces rest with
      | '\x7d' :: rest => pure (.obj fields, rest)
      | ',' :: rest =>
        readFields steps room fields (if isComposite value then path :: closed else closed) (skipSpaces rest)
      | _ => .error .form
    | _ => .error .form

end

/-- A header or a key with its value. -/
def readStatement (progress : Progress) (text : List Char) : Reading (Progress × List Char) :=
  match text with
  | '[' :: '[' :: rest => do
    let (path, rest) ← readKey? (text.length + 1) (skipSpaces rest)
    let rest ← Json.after? [']', ']'] rest
    let progress ← progress.openItem? path
    pure (progress, rest)
  | '[' :: rest => do
    let (path, rest) ← readKey? (text.length + 1) (skipSpaces rest)
    let rest ← Json.after? [']'] rest
    let progress ← progress.openTable? path
    pure (progress, rest)
  | _ => do
    let (path, rest) ← readKey? (text.length + 1) text
    let rest ← Json.after? ['='] rest
    let (value, rest) ← readValue (text.length + 1) maxRoom (skipSpaces rest)
    let progress ← progress.assign? path value
    pure (progress, rest)

/-- Line by line, a statement on each line at most. -/
def readLines : Nat → Progress → List Char → Reading Fields
  | 0, _, _ => .error .form
  | steps + 1, progress, text =>
    match skipSpaces text with
    | [] => pure progress.data
    | '\n' :: rest => readLines steps progress rest
    | '#' :: rest => do
      let rest ← readComment? ('#' :: rest)
      readLines steps progress rest
    | text => do
      let (progress, rest) ← readStatement progress text
      let rest ← readComment? (skipSpaces rest)
      match rest with
      | [] => pure progress.data
      | '\n' :: rest => readLines steps progress rest
      | _ => .error .form

/-- Line breaks in one form. -/
def unifyLines : List Char → List Char
  | '\r' :: '\n' :: rest => '\n' :: unifyLines rest
  | c :: rest => c :: unifyLines rest
  | [] => []

/-- The table that a text gives. -/
def ofText (text : String) : Reading Fields :=
  let chars := unifyLines text.toList
  readLines (chars.length + 1) .start chars

end NestedFlow.Toml
