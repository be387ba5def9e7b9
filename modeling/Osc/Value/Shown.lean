import Osc.Value
import Osc.Floating.Shortest
import Osc.Text.Quoted

/-!
Values as messages show them: texts quoted, numbers in decimal, lists in brackets,
tuples in parentheses with a comma after a single item, and packets and arguments as
their names with named fields.
-/

namespace Osc.Value

open Text (ofString)

def foreignShown : Foreign → String
  | .mapping => "\x7b\x7d"
  | .set => "set()"
  | .frozenSet => "frozenset()"
  | .complex => "0j"
  | .range => "range(0, 3)"
  | kind => kind.name

def comma : Text := ofString ", "

/-- A name with fields in parentheses. -/
def record (name : String) (fields : List (String × Text)) : Text :=
  ofString name ++ ofString "(" ++
    Text.join comma (fields.map fun (field, shown) => ofString field ++ ofString "=" ++ shown) ++
    ofString ")"

def bracketed (items : List Text) : Text :=
  ofString "[" ++ Text.join comma items ++ ofString "]"

def parenthesized : List Text → Text
  | [item] => ofString "(" ++ item ++ ofString ",)"
  | items => ofString "(" ++ Text.join comma items ++ ofString ")"

def bytesShown : ByteForm → Bytes → Text
  | .fixed, data => Quoted.bytes data
  | .growing, data => ofString "bytearray(" ++ Quoted.bytes data ++ ofString ")"
  | .view, _ => ofString "<memory>"

mutual

def shown : Value → Text
  | .none => ofString "None"
  | .bool b => ofString (if b then "True" else "False")
  | .int n => Text.ofInt n
  | .float x => x.text
  | .text t => Quoted.text t
  | .bytes form data => bytesShown form data
  | .list items => bracketed (shownAll items)
  | .tuple items => parenthesized (shownAll items)
  | .foreign kind => ofString (foreignShown kind)
  | .scalar kind value => record kind.name [("value", value.shown)]
  | .quad kind a b c d =>
    let (first, second, third, fourth) := kind.fieldNames
    record kind.name [(first, a.shown), (second, b.shown), (third, c.shown), (fourth, d.shown)]
  | .blob data => record "Blob" [("data", Quoted.bytes data)]
  | .nil => record "Nil" []
  | .infinitum => record "Inf" []
  | .array items => record "Array" [("items", parenthesized (shownAll items))]
  | .time seconds fractional =>
    record "OscTime" [("seconds", seconds.shown), ("fractional", fractional.shown)]
  | .message address arguments =>
    record "OscMessage" [("addr", address.shown), ("args", parenthesized (shownAll arguments))]
  | .bundle timetag content =>
    record "OscBundle" [("timetag", timetag.shown), ("content", parenthesized (shownAll content))]

def shownAll : List Value → List Text
  | [] => []
  | v :: rest => v.shown :: shownAll rest

end

/-- Text stands for itself; every other value as it is shown. -/
def asText : Value → Text
  | .text t => t
  | v => v.shown

end Osc.Value
