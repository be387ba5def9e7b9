import Osc.Text.Printable

/-!
Quoted text, the form in which messages show the texts and byte strings they are
about. The quote is the apostrophe, or the double quote where only that avoids an
escape; what does not print is written as an escape of two, four or eight
hexadecimal digits.
-/

namespace Osc.Quoted

def apostrophe : CodePoint := CodePoint.ofChar '\''

def doubleQuote : CodePoint := CodePoint.ofChar '"'

def backslash : CodePoint := CodePoint.ofChar '\\'

/-- The quote that a text with these characters is put in. -/
def quoteFor (t : Text) : CodePoint :=
  if t.contains apostrophe && !t.contains doubleQuote then doubleQuote else apostrophe

def escaped (letter : Char) (digits : Text) : Text :=
  backslash :: CodePoint.ofChar letter :: digits

/-- Escapes shared by texts and byte strings; `none` where the two differ. -/
def shortEscape? (quote c : CodePoint) : Option Text :=
  if c = quote || c = backslash then some [backslash, c]
  else if c = CodePoint.ofChar '\n' then some (escaped 'n' [])
  else if c = CodePoint.ofChar '\r' then some (escaped 'r' [])
  else if c = CodePoint.ofChar '\t' then some (escaped 't' [])
  else if c.val < 0x20 || c.val = 0x7F then some (escaped 'x' (Text.hex 2 c.val))
  else if c.val < 0x7F then some [c]
  else none

def escapeText (quote c : CodePoint) : Text :=
  match shortEscape? quote c with
  | some t => t
  | none =>
    if c.isPrintable then [c]
    else if c.val ≤ 0xFF then escaped 'x' (Text.hex 2 c.val)
    else if c.val ≤ 0xFFFF then escaped 'u' (Text.hex 4 c.val)
    else escaped 'U' (Text.hex 8 c.val)

def escapeByte (quote c : CodePoint) : Text :=
  match shortEscape? quote c with
  | some t => t
  | none => escaped 'x' (Text.hex 2 c.val)

def text (t : Text) : Text :=
  let quote := quoteFor t
  quote :: t.flatMap (escapeText quote) ++ [quote]

def bytes (b : Bytes) : Text :=
  let t := b.map CodePoint.ofByte
  let quote := quoteFor t
  CodePoint.ofChar 'b' :: quote :: t.flatMap (escapeByte quote) ++ [quote]

end Osc.Quoted
