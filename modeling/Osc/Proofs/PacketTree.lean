import Mathlib.Tactic
import Osc.Packet
import Osc.Value.Build

/-!
Packets as trees: how deep bundles nest in one another, and the floats among the
arguments. A float takes single precision when it is built, so of the floats that a
packet could hold only some are ever found in one.
-/

namespace Osc

open Floating (Binary32 Binary64)

@[elab_as_elim, induction_eliminator]
theorem Packet.nested_induction {motive : Packet → Prop}
    (message : ∀ address arguments, motive (.message address arguments))
    (bundle : ∀ timetag content, (∀ p ∈ content, motive p) → motive (.bundle timetag content)) :
    ∀ p, motive p
  | .message address arguments => message address arguments
  | .bundle timetag content =>
    bundle timetag content fun p _ => nested_induction message bundle p

/-- A message has no depth; a bundle is one level above the deepest of its packets. -/
def Packet.depth : Packet → Nat
  | .message .. => 0
  | .bundle _ content => 1 + (content.map depth).foldr max 0

/-- Bundles nest at most `levels` deep in packets that do so one by one. -/
theorem Packet.deepest_le {content : List Packet} {levels : Nat} :
    (content.map Packet.depth).foldr max 0 ≤ levels ↔ ∀ p ∈ content, p.depth ≤ levels := by
  induction content with
  | nil => simp
  | cons p content ih => simp [ih]

theorem Packet.depth_bundle_le {timetag : TimeTag} {content : List Packet} {levels : Nat} :
    (Packet.bundle timetag content).depth ≤ levels + 1 ↔ ∀ p ∈ content, p.depth ≤ levels := by
  rw [Packet.depth, Nat.add_comm 1, Nat.add_le_add_iff_right, Packet.deepest_le]

/-- A statement about rows of arguments follows from the rest of a row and, when the first
argument is an array, from its items. -/
theorem Argument.row_induction {motive : List Argument → Prop} (nil : motive [])
    (cons : ∀ a rest, (∀ items, a = .array items → motive items) → motive rest →
      motive (a :: rest)) : ∀ row, motive row
  | [] => nil
  | a :: rest => cons a rest (fun items _ => row_induction nil cons items)
      (row_induction nil cons rest)
termination_by row => sizeOf row
decreasing_by
  · next same =>
    subst same
    simp
    omega
  · simp

/-- The fields of the floats among some arguments, those in arrays included. -/
def Argument.floats : Argument → List Binary64
  | .float x => [x]
  | .array items => items.flatMap floats
  | _ => []

def Packet.floats : Packet → List Binary64
  | .message _ arguments => arguments.flatMap Argument.floats
  | .bundle _ content => content.flatMap floats

/-- Every float is one that building gave, from whatever it was built. All other arguments
and packets keep the fields that they are given. -/
def Packet.Built (p : Packet) : Prop :=
  ∀ x ∈ p.floats, ∃ given, (Value.Form.scalar .float).build [given] = .ok (Argument.float x).toValue

/-- A float that was built and can be narrowed is a widened one. -/
theorem Argument.exists_widen {x : Binary64} {y : Binary32} {given : Value}
    (built : (Value.Form.scalar .float).build [given] = .ok (Argument.float x).toValue)
    (narrowed : x.narrow? = some y) : ∃ z : Binary32, x = z.widen := by
  simp only [Value.Form.build, Value.Form.buildIn, Value.buildFloat] at built
  split at built
  · cases built
  · next number real =>
    split at built
    · next z rounded =>
      cases built
      exact ⟨z, rfl⟩
    · next large =>
      split at built
      · cases built
      · -- What is too large for single precision stays as it is.
        cases built
        cases real
        rw [large] at narrowed
        cases narrowed

end Osc
