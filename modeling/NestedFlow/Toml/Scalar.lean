import NestedFlow.Json.Reader

/-! Texts, numbers and dates of configuration tables.

Control characters other than the tabulator have to be escaped; texts over several lines may also contain line breaks.
A decimal whole number has a limited number of digits, one in another base has not.
-/

set_option autoImplicit false

namespace NestedFlow.Toml

open Json (isDecimalDigit digitValue hexValue? natOfDecimal after?)

def isSpace (c : Char) : Bool := c = ' ' || c = '\t'

def skipSpaces (text : List Char) : List Char := text.dropWhile isSpace

def isControl (c : Char) : Bool := (c.toNat < 32 && c != '\t') || c.toNat = 127

/-! ### Texts -/

/-- The spelling of a code point given by so many hexadecimal digits. Halves of surrogate pairs are not allowed. -/
def readCode? (count : Nat) (text : List Char) : Option (List Char × List Char) := do
  let digits := text.take count
  if digits.length = count then
    let values ← digits.mapM hexValue?
    let code := values.foldl (fun code value => 16 * code + value) 0
    if code < 0x110000 && !Text.isHalf code then some (Text.spell code, text.drop count) else none
  else none

def readEscape? : List Char → Option (List Char × List Char)
  | '"' :: rest => some (['"'], rest)
  | '\\' :: rest => some (['\\'], rest)
  | 'b' :: rest => some ([Char.ofNat 8], rest)
  | 'f' :: rest => some ([Char.ofNat 12], rest)
  | 'n' :: rest => some (['\n'], rest)
  | 'r' :: rest => some (['\r'], rest)
  | 't' :: rest => some (['\t'], rest)
  | 'u' :: rest => readCode? 4 rest
  | 'U' :: rest => readCode? 8 rest
  | _ => none

/-- A backslash before the end of a line joins the lines: blanks up to the next word are dropped. -/
def joinLines? (text : List Char) : Option (List Char) :=
  match text with
  | c :: _ =>
    if isSpace c || c = '\n' then
      match skipSpaces text with
      | [] => some []
      | '\n' :: rest => some (rest.dropWhile fun c => isSpace c || c = '\n')
      | _ => none
    else none
  | [] => none

/-- The rest of a text in double quotes on one line. -/
def readBasic? : Nat → List Char → List Char → Option (String × List Char)
  | 0, _, _ => none
  | _ + 1, _, [] => none
  | steps + 1, done, c :: rest =>
    if c = '"' then some (String.ofList done.reverse, rest)
    else if c = '\\' then
      match readEscape? rest with
      | some (spelling, rest) => readBasic? steps (spelling.reverse ++ done) rest
      | none => none
    else if isControl c then none
    else readBasic? steps (c :: done) rest

/-- The rest of a text in single quotes on one line. -/
def readLiteral? : List Char → List Char → Option (String × List Char)
  | _, [] => none
  | done, c :: rest =>
    if c = '\'' then some (String.ofList done.reverse, rest)
    else if isControl c then none
    else readLiteral? (c :: done) rest

/-- Up to two quotes before the closing three belong to the text. -/
def trailingQuotes (quote : Char) (done rest : List Char) : String × List Char :=
  match rest with
  | a :: b :: more =>
    if a = quote ∧ b = quote then (String.ofList (quote :: quote :: done).reverse, more)
    else if a = quote then (String.ofList (quote :: done).reverse, b :: more)
    else (String.ofList done.reverse, rest)
  | [a] => if a = quote then (String.ofList (quote :: done).reverse, []) else (String.ofList done.reverse, rest)
  | [] => (String.ofList done.reverse, rest)

/-- The rest of a text in triple quotes. -/
def readLong? (quote : Char) : Nat → List Char → List Char → Option (String × List Char)
  | 0, _, _ => none
  | _ + 1, _, [] => none
  | steps + 1, done, c :: rest =>
    match after? [quote, quote, quote] (c :: rest) with
    | some rest => some (trailingQuotes quote done rest)
    | none =>
      if c = '\\' ∧ quote = '"' then
        match readEscape? rest with
        | some (spelling, rest) => readLong? quote steps (spelling.reverse ++ done) rest
        | none =>
          match joinLines? rest with
          | some rest => readLong? quote steps done rest
          | none => none
      else if isControl c ∧ c ≠ '\n' then none
      else readLong? quote steps (c :: done) rest

/-- A line break right after the opening quotes does not count. -/
def openLong (text : List Char) : List Char :=
  match text with
  | '\n' :: rest => rest
  | rest => rest

def readText? (text : List Char) : Option (String × List Char) :=
  match text with
  | '"' :: '"' :: '"' :: rest => readLong? '"' (text.length + 1) [] (openLong rest)
  | '\'' :: '\'' :: '\'' :: rest => readLong? '\'' (text.length + 1) [] (openLong rest)
  | '"' :: rest => readBasic? (text.length + 1) [] rest
  | '\'' :: rest => readLiteral? [] rest
  | _ => none

/-! ### Numbers -/

/-- Digits after a first one, with single separators between them; the separators are dropped. -/
def moreDigits (isDigit : Char → Bool) : List Char → List Char × List Char
  | '_' :: d :: rest =>
    if isDigit d then
      let (digits, rest) := moreDigits isDigit rest
      (d :: digits, rest)
    else ([], '_' :: d :: rest)
  | d :: rest =>
    if isDigit d then
      let (digits, rest) := moreDigits isDigit rest
      (d :: digits, rest)
    else ([], d :: rest)
  | [] => ([], [])

def digitRun? (isDigit : Char → Bool) (text : List Char) : Option (List Char × List Char) :=
  match text with
  | d :: rest =>
    if isDigit d then
      let (digits, rest) := moreDigits isDigit rest
      some (d :: digits, rest)
    else none
  | [] => none

def ofBase (base : Nat) (digits : List Char) : Nat :=
  digits.foldl (fun value c => base * value + (hexValue? c).getD 0) 0

/-- A number in another base than ten. -/
def readBased? : List Char → Option (Json × List Char)
  | '0' :: 'x' :: rest =>
    (digitRun? (fun c => (hexValue? c).isSome) rest).map fun (digits, rest) => (.int (ofBase 16 digits), rest)
  | '0' :: 'b' :: rest =>
    (digitRun? (fun c => c = '0' || c = '1') rest).map fun (digits, rest) => (.int (ofBase 2 digits), rest)
  | '0' :: 'o' :: rest =>
    (digitRun? (fun c => '0' ≤ c && c ≤ '7') rest).map fun (digits, rest) => (.int (ofBase 8 digits), rest)
  | _ => none

def readWhole? (text : List Char) : Option (List Char × List Char) :=
  match text with
  | '0' :: rest => some (['0'], rest)
  | _ => digitRun? isDecimalDigit text

def readFraction? : List Char → Option (List Char × List Char)
  | '.' :: rest => digitRun? isDecimalDigit rest
  | _ => none

def readExponent? : List Char → Option (Int × List Char)
  | mark :: rest =>
    if mark = 'e' ∨ mark = 'E' then
      let (negative, unsigned) := match rest with
        | '-' :: more => (true, more)
        | '+' :: more => (false, more)
        | _ => (false, rest)
      (digitRun? isDecimalDigit unsigned).map fun (digits, rest) =>
        let size : Int := natOfDecimal digits
        (if negative then -size else size, rest)
    else none
  | [] => none

def readDecimal (negative : Bool) (text : List Char) : Reading (Json × List Char) := do
  let (whole, rest) ← readWhole? text
  let fraction := readFraction? rest
  let (fractionDigits, rest) := fraction.getD ([], rest)
  let exponent := readExponent? rest
  let (shift, rest) := exponent.getD (0, rest)
  if fraction.isNone ∧ exponent.isNone then
    if Text.maxDigits < whole.length then .error .digits
    else
      let value : Int := natOfDecimal whole
      pure (.int (if negative then -value else value), rest)
  else
    let digits := natOfDecimal (whole ++ fractionDigits)
    pure (.float (Binary64.ofDecimal negative digits (shift - fractionDigits.length)), rest)

def readSpecial? (negative : Bool) (text : List Char) : Option (Json × List Char) :=
  match after? ['i', 'n', 'f'] text with
  | some rest => some (.float (.infinite negative), rest)
  | none => (after? ['n', 'a', 'n'] text).map fun rest => (.float .nan, rest)

def readSigned (negative : Bool) (text : List Char) : Reading (Json × List Char) :=
  match readSpecial? negative text with
  | some found => .ok found
  | none => readDecimal negative text

def readNumber (text : List Char) : Reading (Json × List Char) :=
  match text with
  | '+' :: rest => readSigned false rest
  | '-' :: rest => readSigned true rest
  | _ =>
    match readBased? text with
    | some found => .ok found
    | none => readSigned false text

/-! ### Dates and times -/

def digits? (count : Nat) (text : List Char) : Option (Nat × List Char) :=
  let digits := text.take count
  if digits.length = count ∧ digits.all isDecimalDigit then some (natOfDecimal digits, text.drop count) else none

/-- Something of the form of a date. The day may not exist. -/
def readDate? (text : List Char) : Option (Date × List Char) := do
  let (year, rest) ← digits? 4 text
  let rest ← after? ['-'] rest
  let (month, rest) ← digits? 2 rest
  let rest ← after? ['-'] rest
  let (day, rest) ← digits? 2 rest
  if 1 ≤ month ∧ month ≤ 12 ∧ 1 ≤ day ∧ day ≤ 31 then pure (⟨year, month, day⟩, rest) else none

/-- The microseconds of a fraction, if there is one; further digits do not count. -/
def readMicros (text : List Char) : Nat × List Char :=
  match text with
  | '.' :: rest =>
    let digits := rest.takeWhile isDecimalDigit
    if digits.isEmpty then (0, text)
    else (natOfDecimal ((digits ++ List.replicate 6 '0').take 6), rest.dropWhile isDecimalDigit)
  | _ => (0, text)

def readClock? (text : List Char) : Option (Clock × List Char) := do
  let (hour, rest) ← digits? 2 text
  let rest ← after? [':'] rest
  let (minute, rest) ← digits? 2 rest
  let rest ← after? [':'] rest
  let (second, rest) ← digits? 2 rest
  if hour < 24 ∧ minute < 60 ∧ second < 60 then
    let (micro, rest) := readMicros rest
    pure (⟨hour, minute, second, micro⟩, rest)
  else none

/-- The distance from standard time in minutes, if it is given. -/
def readOffset (text : List Char) : Option Int × List Char :=
  match text with
  | sign :: rest =>
    if sign = 'Z' ∨ sign = 'z' then (some 0, rest)
    else if sign = '+' ∨ sign = '-' then
      let found : Option (Option Int × List Char) := do
        let (hour, rest) ← digits? 2 rest
        let rest ← after? [':'] rest
        let (minute, rest) ← digits? 2 rest
        let offset : Int := hour * 60 + minute
        if hour < 24 ∧ minute < 60 then some (some (if sign = '-' then -offset else offset), rest) else none
      found.getD (none, text)
    else (none, text)
  | [] => (none, [])

/-- A date, with a time if one follows. -/
def readDateTime? (text : List Char) : Option (Option Moment × List Char) := do
  let (date, dateRest) ← readDate? text
  let found : Option (Clock × List Char) := match dateRest with
    | mark :: more => if mark ∈ ['T', 't', ' '] then readClock? more else none
    | [] => none
  let (moment, rest) := match found with
    | some (clock, rest) =>
      let (offset, rest) := readOffset rest
      (Moment.both date clock offset, rest)
    | none => (.date date, dateRest)
  pure (if date.inCalendar then some moment else none, rest)

/-- A value that is no text and has no parts. -/
def readPlain (text : List Char) : Reading (Json × List Char) :=
  match after? "true".toList text, after? "false".toList text with
  | some rest, _ => .ok (.bool true, rest)
  | _, some rest => .ok (.bool false, rest)
  | _, _ =>
    match readDateTime? text with
    | some (some moment, rest) => .ok (.moment moment, rest)
    | some (none, _) => .error .form
    | none =>
      match readClock? text with
      | some (clock, rest) => .ok (.moment (.clock clock), rest)
      | none => readNumber text

end NestedFlow.Toml
