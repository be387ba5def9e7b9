import Osc.Address

/-!
Which texts are numeric addresses. Version 4 has four decimal parts of at most three
digits, none above 255 and none with a zero in front. Version 6 has eight groups of
one to four hexadecimal digits, of which a double colon stands for at least one and the
last two may be written as version 4; a zone may follow after a percent sign.
-/

namespace Osc.IpLiteral

/-- The parts between separators, always at least one. -/
def parts (separator : CodePoint) : Text → List Text
  | [] => [[]]
  | c :: rest =>
    if c = separator then [] :: parts separator rest
    else
      match parts separator rest with
      | [] => [[c]]
      | first :: more => (c :: first) :: more

def isAsciiDigit (c : CodePoint) : Bool := 48 ≤ c.val && c.val ≤ 57

def isHexDigit (c : CodePoint) : Bool :=
  isAsciiDigit c || (65 ≤ c.val && c.val ≤ 70) || (97 ≤ c.val && c.val ≤ 102)

def isOctet (t : Text) : Bool :=
  !t.isEmpty && t.all isAsciiDigit && t.length ≤ 3 &&
    (t.length == 1 || t.head? != some (CodePoint.ofChar '0')) &&
    t.foldl (fun n c => 10 * n + (c.val - 48)) 0 ≤ 255

def isVersion4 (t : Text) : Bool :=
  let octets := parts (CodePoint.ofChar '.') t
  octets.length == 4 && octets.all isOctet

def isGroup (t : Text) : Bool := !t.isEmpty && t.all isHexDigit && t.length ≤ 4

/-- The groups, those of a version 4 ending replaced by two groups of zeros. -/
def groups? (t : Text) : Option (List Text) :=
  let groups := parts Address.colon t
  match groups.getLast? with
  | some last =>
    if last.contains (CodePoint.ofChar '.') then
      let none_ := Text.ofString "0"
      if isVersion4 last then some (groups.dropLast ++ [none_, none_]) else none
    else some groups
  | none => none

/-- The groups beside a double colon; a side that is empty has none. -/
def side (groups : List Text) : List Text := if groups == [[]] then [] else groups

def isVersion6Body (t : Text) : Bool :=
  (parts Address.colon t).length ≥ 3 &&
    match groups? t with
    | none => false
    | some groups =>
      let inner := (groups.drop 1).dropLast
      match inner.findIdx? List.isEmpty with
      | none => groups.length == 8 && groups.all isGroup
      | some place =>
        let before := side (groups.take (place + 1))
        let behind := side (groups.drop (place + 2))
        before.length + behind.length ≤ 7 && before.all isGroup && behind.all isGroup

def isVersion6 (t : Text) : Bool :=
  match parts (CodePoint.ofChar '%') t with
  | [body] => isVersion6Body body
  | [body, zone] => !zone.isEmpty && isVersion6Body body
  | _ => false

def isLiteral (t : Text) : Bool :=
  !t.contains (CodePoint.ofChar '/') && (isVersion4 t || isVersion6 t)

end Osc.IpLiteral
