import Osc.Fault

/-!
What can be asked of a packet: the messages in it, depth first, and whether the address
of a message starts with a given text, or with one of several.
-/

namespace Osc.Value

mutual

def messages : Value → List Value
  | .message address arguments => [.message address arguments]
  | .bundle _ content => messagesOf content
  | _ => []

def messagesOf : List Value → List Value
  | [] => []
  | v :: rest => messages v ++ messagesOf rest

end

/-- Whether some start fits; items after the first that fits are not looked at. -/
def someStart (t : Text) : List Value → Except Fault Bool
  | [] => .ok false
  | .text start :: rest => if Text.startsWith start t then .ok true else someStart t rest
  | v :: _ => .error (.type (.notStartItem v.typeName))

/-- The same for an address of bytes. -/
def someStartBytes (data : Bytes) : List Value → Except Fault Bool
  | [] => .ok false
  | .bytes _ start :: rest =>
    if start.isPrefixOf data then .ok true else someStartBytes data rest
  | v :: _ => .error (.type (.notBytesLike v.typeName))

/-- Whether a byte string starts with a start. -/
def startsWithBytes (data : Bytes) : Value → Except Fault Bool
  | .bytes _ start => .ok (start.isPrefixOf data)
  | .tuple starts => someStartBytes data starts
  | v => .error (.type (.notBytesStart v.typeName))

/-- Whether an address starts with a start, both being given as values. -/
def startsWith (address start : Value) : Except Fault Bool :=
  match address, start with
  | .text t, .text start => .ok (Text.startsWith start t)
  | .text t, .tuple starts => someStart t starts
  | .text _, v => .error (.type (.notStart v.typeName))
  | .bytes .fixed data, v | .bytes .growing data, v => startsWithBytes data v
  | v, _ => .error (.field (.attribute v.typeName "startswith"))

end Osc.Value
