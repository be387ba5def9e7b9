import Osc.Floating.Decimal
import Osc.Text.Numeral
import Osc.Toml.Document

/-!
Reading TOML. Every part takes what it reads from the front of the text and returns the
rest; reading a value takes a bound on its parts, for which the length of the text is
enough. Besides bad syntax only two things are refused: a decimal integer with too many
digits, with its length, and values that are nested too deep.
-/

namespace Osc.Toml

open Floating (Binary Binary64)

inductive Refusal where
  | malformed
  | integerTooLong (digits : Nat)
  | tooDeep

abbrev Reading := Except Refusal

def malformed {α : Type} : Reading α := .error .malformed

def point (c : Char) : CodePoint := CodePoint.ofChar c

def isSpace (c : CodePoint) : Bool := c == point ' ' || c == point '\t'

def isLetter (c : CodePoint) : Bool :=
  (65 ≤ c.val && c.val ≤ 90) || (97 ≤ c.val && c.val ≤ 122)

def isDigit (c : CodePoint) : Bool := 48 ≤ c.val && c.val ≤ 57

def isHexDigit (c : CodePoint) : Bool :=
  isDigit c || (65 ≤ c.val && c.val ≤ 70) || (97 ≤ c.val && c.val ≤ 102)

def isBareKey (c : CodePoint) : Bool :=
  isLetter c || isDigit c || c == point '-' || c == point '_'

/-- Control characters other than the tab. -/
def isControl (c : CodePoint) : Bool := (c.val < 0x20 && c != point '\t') || c.val == 0x7F

def isControlInLines (c : CodePoint) : Bool := isControl c && c != point '\n'

def digitValue (c : CodePoint) : Nat :=
  if isDigit c then c.val - 48 else if c.val < 97 then c.val - 55 else c.val - 87

def ofDigits (base : Nat) (digits : Text) : Nat :=
  digits.foldl (fun n c => n * base + digitValue c) 0

def skipSpace (t : Text) : Text := t.dropWhile isSpace

/-- The rest after a fixed start. -/
def after? (start : String) (t : Text) : Option Text :=
  let s := Text.ofString start
  if Text.startsWith s t then some (t.drop s.length) else none

/-- The rest after a comment, which ends before the end of its line. -/
def skipComment (t : Text) : Reading Text :=
  match after? "#" t with
  | none => .ok t
  | some t =>
    let comment := t.takeWhile (· != point '\n')
    if comment.any isControl then malformed else .ok (t.drop comment.length)

/-- Blanks, line ends and comments, as they may stand between the items of an array. -/
def skipLines : Nat → Text → Reading Text
  | 0, t => .ok t
  | fuel + 1, t => do
    let blank := t.dropWhile fun c => isSpace c || c == point '\n'
    let rest ← skipComment blank
    if rest.length = t.length then return t else skipLines fuel rest

def escapes : List (Char × Char) :=
  [('b', '\x08'), ('t', '\t'), ('n', '\n'), ('f', '\x0C'), ('r', '\r'), ('"', '"'), ('\\', '\\')]

def hexPoint (count : Nat) (t : Text) : Reading (Text × Text) :=
  let digits := t.take count
  let code := ofDigits 16 digits
  if digits.length = count && digits.all isHexDigit && code < 0x110000 &&
      !(CodePoint.ofNat code).isSurrogate then
    .ok ([CodePoint.ofNat code], t.drop count)
  else malformed

/-- What follows a backslash. Within lines a backslash at the end of one takes the line
end and all blanks after it away. -/
def escape (lines : Bool) (t : Text) : Reading (Text × Text) :=
  match t with
  | [] => malformed
  | c :: rest =>
    if lines && (isSpace c || c == point '\n') then
      let isBlank (c : CodePoint) : Bool := isSpace c || c == point '\n'
      match skipSpace t with
      | [] => .ok ([], [])
      | d :: rest => if d == point '\n' then .ok ([], rest.dropWhile isBlank) else malformed
    else if c == point 'u' then hexPoint 4 rest
    else if c == point 'U' then hexPoint 8 rest
    else
      match escapes.find? fun (letter, _) => point letter == c with
      | some (_, meant) => .ok ([point meant], rest)
      | none => malformed

/-- The rest of a string in double quotes. -/
def basicString (lines : Bool) : Nat → Text → Reading (Text × Text)
  | 0, _ => malformed
  | fuel + 1, t =>
    match t with
    | [] => malformed
    | c :: rest =>
      if c == point '"' then
        if !lines then .ok ([], rest)
        else
          match after? "\"\"\"" t with
          | some rest => .ok ([], rest)
          | none => do
            let (more, rest) ← basicString lines fuel rest
            return (c :: more, rest)
      else if c == point '\\' then do
        let (meant, rest) ← escape lines rest
        let (more, rest) ← basicString lines fuel rest
        return (meant ++ more, rest)
      else if (if lines then isControlInLines c else isControl c) then malformed
      else do
        let (more, rest) ← basicString lines fuel rest
        return (c :: more, rest)

/-- The rest of a string in apostrophes, which knows no escapes. -/
def literalString (t : Text) : Reading (Text × Text) :=
  let body := t.takeWhile (· != point '\'')
  match t.drop body.length with
  | [] => malformed
  | _ :: rest => if body.any isControl then malformed else .ok (body, rest)

def literalLines : Text → Reading (Text × Text)
  | [] => malformed
  | c :: rest =>
    match after? "'''" (c :: rest) with
    | some rest => .ok ([], rest)
    | none =>
      if isControlInLines c then malformed
      else do
        let (more, rest) ← literalLines rest
        return (c :: more, rest)

/-- Up to two more quotes belong to a string of lines when its end has them. -/
def extraQuotes (quote : CodePoint) (body t : Text) : Text × Text :=
  let extra := (t.take 2).takeWhile (· == quote)
  (body ++ extra, t.drop extra.length)

/-- A string in either kind of quote, of one line or of several. -/
def string? (t : Text) : Option (Reading (Text × Text)) :=
  let withoutFirstEnd (t : Text) : Text := (after? "\n" t).getD t
  match after? "\"\"\"" t, after? "'''" t, after? "\"" t, after? "'" t with
  | some rest, _, _, _ => some do
    let (body, rest) ← basicString true (t.length + 1) (withoutFirstEnd rest)
    return extraQuotes (point '"') body rest
  | none, some rest, _, _ => some do
    let (body, rest) ← literalLines (withoutFirstEnd rest)
    return extraQuotes (point '\'') body rest
  | none, none, some rest, _ => some (basicString false (t.length + 1) rest)
  | none, none, none, some rest => some (literalString rest)
  | none, none, none, none => none

def keyPart (t : Text) : Reading (Text × Text) :=
  match t with
  | [] => malformed
  | c :: rest =>
    if isBareKey c then .ok (t.takeWhile isBareKey, t.dropWhile isBareKey)
    else if c == point '\'' then literalString rest
    else if c == point '"' then basicString false (t.length + 1) rest
    else malformed

def keyParts : Nat → Text → Reading (Key × Text)
  | 0, _ => malformed
  | fuel + 1, t => do
    let (part, rest) ← keyPart t
    let rest := skipSpace rest
    match after? "." rest with
    | some rest =>
      let (more, rest) ← keyParts fuel (skipSpace rest)
      return (part :: more, rest)
    | none => return ([part], rest)

def key (t : Text) : Reading (Key × Text) := keyParts (t.length + 1) t

/-- Digits with single underscores between them; nothing when there is no digit first. -/
def digitRun (isDigit : CodePoint → Bool) : Text → Text × Text
  | [] => ([], [])
  | c :: rest =>
    if isDigit c then
      match rest with
      | u :: d :: more =>
        if u == point '_' && isDigit d then
          let (digits, rest) := digitRun isDigit (d :: more)
          (c :: digits, rest)
        else
          let (digits, rest) := digitRun isDigit (u :: d :: more)
          (c :: digits, rest)
      | rest =>
        let (digits, rest) := digitRun isDigit rest
        (c :: digits, rest)
    else ([], c :: rest)

def based? (start : String) (base : Nat) (isDigit : CodePoint → Bool) (t : Text) :
    Option (Item × Text) := do
  let (digits, rest) := digitRun isDigit (← after? start t)
  if digits.isEmpty then none else some (.integer (ofDigits base digits), rest)

def sign (t : Text) : Bool × Text :=
  match after? "-" t, after? "+" t with
  | some rest, _ => (true, rest)
  | none, some rest => (false, rest)
  | none, none => (false, t)

/-- Digits behind a point, when there are some. -/
def fraction (t : Text) : Text × Text :=
  match after? "." t with
  | some rest =>
    let (digits, rest) := digitRun isDigit rest
    if digits.isEmpty then ([], t) else (digits, rest)
  | none => ([], t)

/-- An exponent, when there is one. -/
def exponent? (t : Text) : Option (Int × Text) := do
  let rest ← (after? "e" t).or (after? "E" t)
  let (negative, rest) := sign rest
  let (digits, rest) := digitRun isDigit rest
  if digits.isEmpty then none
  else some (if negative then -(ofDigits 10 digits : Int) else ofDigits 10 digits, rest)

/-- A decimal number: an integer, or a float when a fraction or an exponent follows. A
zero in front is a number of its own. -/
def decimal? (t : Text) : Option (Reading (Item × Text)) :=
  let (negative, body) := sign t
  let (whole, rest) :=
    match body with
    | c :: rest => if c == point '0' then ([c], rest) else digitRun isDigit body
    | [] => ([], [])
  if whole.isEmpty then none
  else
    let (behind, rest) := fraction rest
    let power := exponent? rest
    if behind.isEmpty && power.isNone then
      some (
        if whole.length > Numeral.maxDigits then .error (.integerTooLong whole.length)
        else
          let n : Int := ofDigits 10 whole
          .ok (.integer (if negative then -n else n), rest))
    else
      let (e, rest) := power.getD (0, rest)
      let x := Binary.ofDecimal negative (ofDigits 10 (whole ++ behind)) (e - behind.length)
      some (.ok (.float x, rest))

def special? (t : Text) : Option (Item × Text) :=
  let (negative, body) := sign t
  let infinite : Binary64 :=
    ⟨negative, Floating.Format.double.infinity, Floating.Format.double.infinity_lt⟩
  let undefined : Binary64 :=
    ⟨negative, Floating.Format.double.infinity + 2 ^ 51, Floating.Format.quiet_lt⟩
  match after? "inf" body, after? "nan" body with
  | some rest, _ => some (.float infinite, rest)
  | none, some rest => some (.float undefined, rest)
  | none, none => none

/-- A number of exactly `count` digits within bounds. -/
def fixed? (count low high : Nat) (t : Text) : Option (Nat × Text) :=
  let digits := t.take count
  let n := ofDigits 10 digits
  if digits.length = count && digits.all isDigit && low ≤ n && n ≤ high then
    some (n, t.drop count)
  else none

/-- The rest after a fraction of a second, which has digits only. -/
def skipFraction (t : Text) : Text :=
  match after? "." t with
  | some (c :: rest) => if isDigit c then rest.dropWhile isDigit else t
  | some [] | none => t

def timeOfDay? (t : Text) : Option Text := do
  let (_, t) ← fixed? 2 0 23 t
  let (_, t) ← fixed? 2 0 59 (← after? ":" t)
  let (_, t) ← fixed? 2 0 59 (← after? ":" t)
  return skipFraction t

/-- The rest after a time zone, when there is one. -/
def zone? (t : Text) : Option Text :=
  match (after? "Z" t).or (after? "z" t) with
  | some rest => some rest
  | none => do
    let rest ← (after? "+" t).or (after? "-" t)
    let (_, rest) ← fixed? 2 0 23 rest
    let (_, rest) ← fixed? 2 0 59 (← after? ":" rest)
    return rest

/-- A date with the time that was read behind it, and its time zone if it has one. -/
def dateTime (t : Text) : Item × Text :=
  match zone? t with
  | some rest => (.offsetDateTime, rest)
  | none => (.localDateTime, t)

def daysIn (year month : Nat) : Nat :=
  let leap := year % 4 = 0 && (year % 100 ≠ 0 || year % 400 = 0)
  if month = 2 then (if leap then 29 else 28)
  else if [4, 6, 9, 11].contains month then 30 else 31

def date? (t : Text) : Option (Reading (Item × Text)) := do
  let (year, t) ← fixed? 4 0 9999 t
  let (month, t) ← fixed? 2 1 12 (← after? "-" t)
  let (day, t) ← fixed? 2 1 31 (← after? "-" t)
  if year = 0 || daysIn year month < day then some malformed
  else
    match ((after? "T" t).or ((after? "t" t).or (after? " " t))).bind timeOfDay? with
    | some rest => some (.ok (dateTime rest))
    | none => some (.ok (.date, t))

/-- A value that is neither an array nor a table. -/
def scalar (t : Text) : Reading (Item × Text) :=
  match string? t with
  | some outcome => outcome.map fun (s, rest) => (.text s, rest)
  | none =>
    match after? "true" t, after? "false" t, date? t with
    | some rest, _, _ => .ok (.boolean true, rest)
    | none, some rest, _ => .ok (.boolean false, rest)
    | none, none, some outcome => outcome
    | none, none, none =>
      match timeOfDay? t with
      | some rest => .ok (.timeOfDay, rest)
      | none =>
        let prefixed :=
          (based? "0x" 16 isHexDigit t).or
            ((based? "0b" 2 (fun c => c == point '0' || c == point '1') t).or
              (based? "0o" 8 (fun c => 48 ≤ c.val && c.val ≤ 55) t))
        match prefixed, decimal? t, special? t with
        | some found, _, _ => .ok found
        | none, some outcome, _ => outcome
        | none, none, some found => .ok found
        | none, none, none => malformed

/-- The depth that values may have, an array counting for two and a table for three. -/
def maxDepth : Nat := 980

/-- The depth that is left inside a value that counts for some of it. -/
def deeper (weight depth : Nat) : Reading Nat :=
  if depth < weight then .error .tooDeep else .ok (depth - weight)

mutual

def value : Nat → Nat → Text → Reading (Item × Text)
  | 0, _, _ => malformed
  | fuel + 1, depth, t =>
    match after? "[" t, after? "\x7b" t with
    | some rest, _ => do
      let depth ← deeper 2 depth
      let rest ← skipLines rest.length rest
      match after? "]" rest with
      | some rest => return (.array [], rest)
      | none =>
        let (items, rest) ← arrayItems fuel depth rest
        return (.array items, rest)
    | none, some rest => do
      let depth ← deeper 3 depth
      let rest := skipSpace rest
      match after? "\x7d" rest with
      | some rest => return (.table [], rest)
      | none =>
        let (fields, rest) ← tableFields fuel depth .empty rest
        return (.table fields, rest)
    | none, none => scalar t

/-- The items of an array, at least one, up to its end. -/
def arrayItems : Nat → Nat → Text → Reading (List Item × Text)
  | 0, _, _ => malformed
  | fuel + 1, depth, t => do
    let (item, rest) ← value fuel depth t
    let rest ← skipLines rest.length rest
    match after? "]" rest, after? "," rest with
    | some rest, _ => return ([item], rest)
    | none, some rest =>
      let rest ← skipLines rest.length rest
      match after? "]" rest with
      | some rest => return ([item], rest)
      | none =>
        let (more, rest) ← arrayItems fuel depth rest
        return (item :: more, rest)
    | none, none => malformed

/-- The fields of an inline table, at least one, up to its end. -/
def tableFields : Nat → Nat → Document → Text → Reading (Table × Text)
  | 0, _, _, _ => malformed
  | fuel + 1, depth, d, t => do
    let (path, rest) ← key t
    match after? "=" rest with
    | none => malformed
    | some rest =>
      let (item, rest) ← value fuel depth (skipSpace rest)
      if d.isClosed path then malformed
      else
        match d.content.insert false path item with
        | none => malformed
        | some content =>
          let rest := skipSpace rest
          match after? "\x7d" rest, after? "," rest with
          | some rest, _ => return (content, rest)
          | none, some rest =>
            let closed := if item.isContainer then path :: d.closed else d.closed
            tableFields fuel depth { d with content, closed } (skipSpace rest)
          | none, none => malformed

end

/-- A key, an equals sign and a value. -/
def assignment (d : Document) (t : Text) : Reading (Document × Text) := do
  let (path, rest) ← key t
  match after? "=" rest with
  | none => malformed
  | some rest =>
    let rest := skipSpace rest
    let (item, rest) ← value (2 * rest.length + 2) maxDepth rest
    match d.assign path item with
    | some d => return (d, rest)
    | none => malformed

def header (d : Document) (t : Text) : Reading (Document × Text) := do
  match after? "[[" t, after? "[" t with
  | some rest, _ =>
    let (path, rest) ← key (skipSpace rest)
    match d.openElement path, after? "]]" rest with
    | some d, some rest => return (d, rest)
    | _, _ => malformed
  | none, some rest =>
    let (path, rest) ← key (skipSpace rest)
    match d.openTable path, after? "]" rest with
    | some d, some rest => return (d, rest)
    | _, _ => malformed
  | none, none => malformed

/-- What stands on a line before its comment. -/
def statement (d : Document) (t : Text) : Reading (Document × Text) :=
  match t with
  | [] => .ok (d, [])
  | c :: _ =>
    if isBareKey c || c == point '"' || c == point '\'' then assignment d t
    else if c == point '[' then header d t
    else .ok (d, t)

def statements : Nat → Document → Text → Reading Document
  | 0, d, _ => .ok d
  | fuel + 1, d, t => do
    let (d, rest) ← statement d (skipSpace t)
    match ← skipComment (skipSpace rest) with
    | [] => return d
    | c :: rest => if c == point '\n' then statements fuel d rest else malformed

/-- Line ends of two characters count as one, within strings too. -/
def unifyLines : Text → Text
  | [] => []
  | [c] => [c]
  | c :: d :: rest =>
    if c == point '\r' && d == point '\n' then d :: unifyLines rest
    else c :: unifyLines (d :: rest)

def read (t : Text) : Reading Table :=
  let t := unifyLines t
  (statements (t.length + 1) .empty t).map Document.content

end Osc.Toml
