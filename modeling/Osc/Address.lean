import Osc.Value.Integer

/-!
Addresses are texts of the form `host:port` or tuples that start with a host and a
port. A text is cut at its last colon and loses the square brackets around the host;
what is behind the colon must be digits.
-/

namespace Osc.Address

def colon : CodePoint := CodePoint.ofChar ':'

def isBracket (c : CodePoint) : Bool := c == CodePoint.ofChar '[' || c == CodePoint.ofChar ']'

/-- What is before and behind the last occurrence of a character. -/
def splitLast (separator : CodePoint) : Text → Option (Text × Text)
  | [] => none
  | c :: rest =>
    match splitLast separator rest with
    | some (before, behind) => some (c :: before, behind)
    | none => if c = separator then some ([], rest) else none

/-- The text without brackets at either end, however many there are. -/
def stripBrackets (t : Text) : Text :=
  ((t.dropWhile isBracket).reverse.dropWhile isBracket).reverse

def isPort (t : Text) : Bool := !t.isEmpty && t.all CodePoint.isDigit

def splitText (address : Text) : Except Fault (Text × Int) :=
  match splitLast colon address with
  | some (host, port) =>
    if isPort port then do
      return (stripBrackets host, ← Value.toInteger (.text port))
    else .error (.value (.notHostPort address))
  | none => .error (.value (.notHostPort address))

/-- The item at a place of a value that has places. A mapping has keys in their stead, and
an empty one has none. -/
def item (v : Value) (place : Nat) : Except Fault Value :=
  match v with
  | .tuple _ | .list _ | .bytes .. | .foreign .range =>
    match (v.items?.getD [])[place]? with
    | some found => .ok found
    | none => .error (.index v.typeName)
  | .foreign .mapping => .error (.unknownKey (.int place))
  | v => .error (.type (.notSubscriptable v.typeName))

/-- The host and the port of an address. -/
def split (address : Value) : Except Fault (Text × Int) :=
  match address with
  | .text t => splitText t
  | v => do
    let host ← item v 0
    let port ← item v 1
    return (host.asText, ← port.toInteger)

theorem splitLast_eq_some {separator : CodePoint} {t before behind : Text}
    (h : splitLast separator t = some (before, behind)) :
    t = before ++ separator :: behind ∧ separator ∉ behind := by
  induction t generalizing before behind with
  | nil => simp [splitLast] at h
  | cons c t ih =>
    unfold splitLast at h
    cases later : splitLast separator t with
    | some found =>
      obtain ⟨b, a⟩ := found
      simp only [later, Option.some.injEq, Prod.mk.injEq] at h
      obtain ⟨rfl, rfl⟩ := h
      obtain ⟨rfl, outside⟩ := ih later
      exact ⟨rfl, outside⟩
    | none =>
      simp only [later] at h
      split at h
      · next same =>
        simp only [Option.some.injEq, Prod.mk.injEq] at h
        obtain ⟨rfl, rfl⟩ := h
        refine ⟨by simp [same], ?_⟩
        clear ih
        intro inside
        induction t with
        | nil => simp at inside
        | cons d t ih =>
          unfold splitLast at later
          cases deeper : splitLast separator t with
          | some found => simp [deeper] at later
          | none =>
            simp only [deeper, ite_eq_right_iff, reduceCtorEq, imp_false] at later
            rcases List.mem_cons.mp inside with same | inside
            · exact later same.symm
            · exact ih deeper inside
      · simp at h

end Osc.Address
