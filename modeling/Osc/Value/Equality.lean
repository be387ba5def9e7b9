import Osc.Value

/-!
When two values count as equal. Numbers are equal when their exact values are, truth
values counting as one and zero; byte strings are equal when their bytes are, whatever
their kind; lists, tuples, arguments and packets are equal to their own kind with equal
parts. What is not a number is not equal to itself.
-/

namespace Osc.Value

open Floating (Extent)

def extent? : Value → Option Extent
  | .float x => x.extent?
  | v => v.integer?.map Extent.ofInt

def foreignEqual : Foreign → Foreign → Bool
  | .set, .frozenSet | .frozenSet, .set => true
  | .object, .object => false
  | a, b => a == b

mutual

def equal : Value → Value → Bool
  | .none, .none => true
  | .text s, .text t => s == t
  | .bytes _ a, .bytes _ b => a == b
  | .list xs, .list ys => equalAll xs ys
  | .tuple xs, .tuple ys => equalAll xs ys
  | .foreign a, .foreign b => foreignEqual a b
  | .scalar k v, .scalar l w => k == l && v.equal w
  | .quad k a b c d, .quad l e f g h =>
    k == l && a.equal e && b.equal f && c.equal g && d.equal h
  | .blob a, .blob b => a == b
  | .nil, .nil => true
  | .infinitum, .infinitum => true
  | .array xs, .array ys => equalAll xs ys
  | .time a b, .time c d => a.equal c && b.equal d
  | .message a xs, .message b ys => a.equal b && equalAll xs ys
  | .bundle a xs, .bundle b ys => a.equal b && equalAll xs ys
  | v, w =>
    match v.extent?, w.extent? with
    | some x, some y => x == y
    | _, _ => false

def equalAll : List Value → List Value → Bool
  | [], [] => true
  | v :: vs, w :: ws => v.equal w && equalAll vs ws
  | _, _ => false

end

end Osc.Value
