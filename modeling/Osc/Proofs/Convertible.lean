import Osc.Proofs.Reading
import Osc.Value.Convert

/-!
Conversion of any value at all. It looks at a value and, through lists alone, at what is in it,
from left to right; it fails exactly when it meets a value that no argument is made of, and
names the type of the first one. Otherwise each list has become an array with an argument for
each item, and each other value one argument, or has stayed as it is when it was one; so a
second conversion changes nothing. Groups of arguments, messages and packets are settled with
that.
-/

namespace Osc.Value

open Text (ofString)
open Wire (ok_of_bind ok_of_map bind_ok)

section Definitions

/-- What an argument is made of: arguments, and values of the types that have one. -/
def isAccepted : Value → Bool
  | .none | .bool _ | .int _ | .float _ | .text _ | .bytes .. | .time .. | .list _ => true
  | v => v.isArgument

/-- A value holds itself, and a list what its items hold. Nothing else is looked into. -/
inductive Holds : Value → Value → Prop where
  | self (v : Value) : Holds v v
  | item {items : List Value} {v w : Value} (among : v ∈ items) (inside : Holds v w) :
      Holds (.list items) w

/-- What a value holds, each list before its items. -/
def held : Value → List Value
  | .list items => .list items :: items.flatMap held
  | v => [v]

/-- The first value that no argument is made of. -/
def firstRefused? (vs : List Value) : Option Value :=
  (vs.flatMap held).find? fun w => !w.isAccepted

/-- The argument that a value becomes: an array for each list, with one argument for each item
in their order, and one that is no array for each other value that is no argument. -/
inductive Becomes : Value → Value → Prop where
  | same {a : Value} (typed : a.isArgument = true) : Becomes a a
  | none : Becomes .none .nil
  | bool (b : Bool) : Becomes (.bool b) (.scalar .bool (.bool b))
  | int {n : Int} (short : -2 ^ 31 ≤ n ∧ n < 2 ^ 31) : Becomes (.int n) (.scalar .int (.int n))
  | long {n : Int} (long : ¬ (-2 ^ 31 ≤ n ∧ n < 2 ^ 31)) :
      Becomes (.int n) (.scalar .long (.int n))
  | float (x : Floating.Binary64) : Becomes (.float x) (ofBinary64 x)
  | text (t : Text) : Becomes (.text t) (.scalar .string (.text t))
  | bytes (form : ByteForm) (data : Bytes) : Becomes (.bytes form data) (.blob data)
  | time (seconds fractional : Value) :
      Becomes (.time seconds fractional) (.scalar .time (.time seconds fractional))
  | list {items arguments : List Value} (each : List.Forall₂ Becomes items arguments) :
      Becomes (.list items) (.array arguments)

/-- The values that become arguments one by one. -/
def group : Value → List Value
  | .list items | .tuple items => items
  | v => [v]

end Definitions

section Holding

private theorem mem_held_of {v w : Value} (h : v.Holds w) : w ∈ v.held := by
  induction h with
  | self v => cases v <;> simp [held]
  | item among inside ih =>
    rw [held]
    exact List.mem_cons_of_mem _ (List.mem_flatMap.mpr ⟨_, among, ih⟩)

mutual

theorem holds_of_mem {w : Value} : (v : Value) → w ∈ v.held → v.Holds w
  | .list items, member => by
    rw [held] at member
    rcases List.mem_cons.mp member with rfl | inside
    · exact .self _
    · obtain ⟨v, among, inner⟩ := holds_of_mem_flatMap items inside
      exact .item among inner
  | .none, member | .bool _, member | .int _, member | .float _, member | .text _, member
  | .bytes .., member | .tuple _, member | .foreign _, member | .scalar .., member
  | .quad .., member | .blob _, member | .nil, member | .infinitum, member | .array _, member
  | .time .., member | .message .., member | .bundle .., member => by
    rw [held, List.mem_singleton] at member
    · subst member
      exact .self _
    · rintro _ ⟨⟩

theorem holds_of_mem_flatMap {w : Value} : (vs : List Value) → w ∈ vs.flatMap held →
    ∃ v ∈ vs, v.Holds w
  | [], member => by cases member
  | v :: rest, member => by
    rw [List.flatMap_cons] at member
    rcases List.mem_append.mp member with first | later
    · exact ⟨v, List.mem_cons_self, holds_of_mem v first⟩
    · obtain ⟨u, among, inside⟩ := holds_of_mem_flatMap rest later
      exact ⟨u, List.mem_cons_of_mem v among, inside⟩

end

private theorem mem_held {v w : Value} : w ∈ v.held ↔ v.Holds w := ⟨holds_of_mem v, mem_held_of⟩

/-- A value is refused for something that it holds, if it holds anything that is refused. -/
theorem firstRefused?_isSome {v : Value} :
    (∃ w, firstRefused? [v] = some w) ↔ ∃ w, v.Holds w ∧ w.isAccepted = false := by
  rw [← Option.isSome_iff_exists, firstRefused?, List.flatMap_singleton, List.find?_isSome]
  simp only [mem_held, Bool.not_eq_true']

private theorem firstRefused?_cons (v : Value) (rest : List Value) :
    firstRefused? (v :: rest) = (firstRefused? [v]).or (firstRefused? rest) := by
  simp only [firstRefused?, List.flatMap_cons, List.flatMap_nil, List.append_nil, List.find?_append]

/-- A list is made an argument of; so it is refused for its items alone. -/
theorem firstRefused?_list (items : List Value) :
    firstRefused? [.list items] = firstRefused? items := by
  rw [firstRefused?, List.flatMap_singleton, held, List.find?_cons_of_neg (by simp [isAccepted])]
  rfl

end Holding

section Converting

/-- The fault of a value that no argument is made of. -/
def refusal (w : Value) : Fault := .type (.notConvertible w.bareTypeName "OSC argument")

/-- A step fails for the first of some values that is refused, and else gives something of a
kind. -/
def Settles {α : Type} (vs : List Value) (x : Except Fault α) (kind : α → Prop) : Prop :=
  match firstRefused? vs with
  | some w => x = .error (refusal w)
  | Option.none => ∃ a, x = .ok a ∧ kind a

theorem Settles.refused {α : Type} {vs : List Value} {x : Except Fault α} {kind : α → Prop}
    (h : Settles vs x kind) {fault : Fault} (failed : x = .error fault) :
    ∃ w, firstRefused? vs = some w ∧ fault = refusal w := by
  unfold Settles at h
  split at h
  · next w first =>
    rw [h] at failed
    exact ⟨w, first, (Except.error.inj failed).symm⟩
  · obtain ⟨a, rfl, -⟩ := h
    cases failed

theorem Settles.failed_iff {α : Type} {vs : List Value} {x : Except Fault α} {kind : α → Prop}
    (h : Settles vs x kind) : (∃ fault, x = .error fault) ↔ ∃ w, firstRefused? vs = some w := by
  constructor
  · rintro ⟨fault, failed⟩
    obtain ⟨w, first, -⟩ := h.refused failed
    exact ⟨w, first⟩
  · rintro ⟨w, first⟩
    rw [Settles, first] at h
    exact ⟨_, h⟩

theorem Settles.given {α : Type} {vs : List Value} {x : Except Fault α} {kind : α → Prop}
    (h : Settles vs x kind) {a : α} (done : x = .ok a) : kind a := by
  unfold Settles at h
  split at h
  · rw [h] at done
    cases done
  · obtain ⟨b, rfl, like⟩ := h
    cases done
    exact like

/-- A value that is no list is settled by itself. -/
theorem Settles.leaf {v a : Value} (single : v.held = [v]) (accepted : v.isAccepted = true)
    (converted : v.toArgument = .ok a) (h : v.Becomes a) : Settles [v] v.toArgument v.Becomes := by
  have none : firstRefused? [v] = Option.none := by
    rw [firstRefused?, List.flatMap_singleton, single]
    simp [accepted]
  rw [Settles, none]
  exact ⟨a, converted, h⟩

theorem Settles.unaccepted {v : Value} (single : v.held = [v]) (refused : v.isAccepted = false)
    (failed : v.toArgument = .error (refusal v)) : Settles [v] v.toArgument v.Becomes := by
  have first : firstRefused? [v] = some v := by
    rw [firstRefused?, List.flatMap_singleton, single]
    simp [refused]
  rw [Settles, first]
  exact failed

private theorem toArgument_int (n : Int) :
    ∃ a, (Value.int n).toArgument = .ok a ∧ (Value.int n).Becomes a := by
  rw [toArgument, ofInteger]
  by_cases short : -2 ^ 31 ≤ n ∧ n < 2 ^ 31
  · rw [if_pos (by simpa using short)]
    exact ⟨_, rfl, .int short⟩
  · rw [if_neg (by simpa using short)]
    exact ⟨_, rfl, .long short⟩

theorem toArgument_typed {a : Value} (typed : a.isArgument = true) : a.toArgument = .ok a := by
  cases a with
  | scalar | quad | blob | nil | infinitum | array => rfl
  | _ => cases typed

mutual

theorem toArgument_settles : (v : Value) → Settles [v] v.toArgument v.Becomes
  | .list items => by
    have inner := toArgumentAll_settles items
    rw [Settles] at inner ⊢
    rw [firstRefused?_list, toArgument]
    split at inner
    · rw [inner]
      rfl
    · obtain ⟨arguments, converted, each⟩ := inner
      rw [converted]
      exact ⟨.array arguments, rfl, .list each⟩
  | .none => .leaf (by simp [held]) rfl rfl .none
  | .bool b => .leaf (by simp [held]) rfl rfl (.bool b)
  | .int n => by
    obtain ⟨a, converted, h⟩ := toArgument_int n
    exact .leaf (by simp [held]) rfl converted h
  | .float x => .leaf (by simp [held]) rfl rfl (.float x)
  | .text t => .leaf (by simp [held]) rfl rfl (.text t)
  | .bytes form data => .leaf (by simp [held]) rfl rfl (.bytes form data)
  | .time seconds fractional => .leaf (by simp [held]) rfl rfl (.time seconds fractional)
  | .scalar .. | .quad .. | .blob _ | .nil | .infinitum | .array _ =>
    .leaf (by simp [held]) rfl rfl (.same rfl)
  | .tuple _ | .foreign _ | .message .. | .bundle .. => .unaccepted (by simp [held]) rfl rfl

theorem toArgumentAll_settles : (vs : List Value) →
    Settles vs (toArgumentAll vs) (List.Forall₂ Becomes vs)
  | [] => ⟨[], rfl, .nil⟩
  | v :: rest => by
    have first := toArgument_settles v
    have later := toArgumentAll_settles rest
    rw [Settles] at first later ⊢
    rw [firstRefused?_cons, toArgumentAll]
    split at first
    · next w refused =>
      rw [refused, first]
      rfl
    · next fine =>
      obtain ⟨a, converted, become⟩ := first
      rw [fine, Option.none_or, converted, bind_ok]
      split at later
      · rw [later]
        rfl
      · obtain ⟨more, others, each⟩ := later
        rw [others, bind_ok]
        exact ⟨a :: more, rfl, .cons become each⟩

end

theorem Becomes.typed {v a : Value} (h : v.Becomes a) : a.isArgument = true := by
  cases h with
  | same typed => exact typed
  | _ => rfl

/-- Values are converted one by one. -/
theorem toArgumentAll_iff {vs arguments : List Value} :
    toArgumentAll vs = .ok arguments ↔
      List.Forall₂ (fun v a => v.toArgument = .ok a) vs arguments := by
  induction vs generalizing arguments with
  | nil =>
    rw [List.forall₂_nil_left_iff, toArgumentAll, Except.ok.injEq]
    exact eq_comm
  | cons v rest ih =>
    rw [toArgumentAll]
    constructor
    · intro converted
      obtain ⟨a, first, converted⟩ := ok_of_bind converted
      obtain ⟨more, later, converted⟩ := ok_of_bind converted
      cases converted
      exact .cons first (ih.mp later)
    · rintro (_ | ⟨first, later⟩)
      rw [first, bind_ok, ih.mpr later]
      rfl

private theorem toArguments_eq (v : Value) : v.toArguments = toArgumentAll v.group := by
  cases v with
  | list items => rfl
  | tuple items => rfl
  | _ => rfl

theorem toArguments_iff {v : Value} {arguments : List Value} :
    v.toArguments = .ok arguments ↔
      List.Forall₂ (fun w a => w.toArgument = .ok a) v.group arguments := by
  rw [toArguments_eq, toArgumentAll_iff]

/-- Arguments are a group that conversion leaves as it is. -/
theorem toArguments_again {v : Value} {arguments : List Value}
    (converted : v.toArguments = .ok arguments) :
    (Value.tuple arguments).toArguments = .ok arguments := by
  rw [toArguments_iff] at converted ⊢
  have typed : ∀ a ∈ arguments, a.isArgument = true := by
    generalize v.group = values at converted
    induction converted with
    | nil => simp
    | cons made _ ih =>
      exact List.forall_mem_cons.mpr ⟨((toArgument_settles _).given made).typed, ih⟩
  rw [group, List.forall₂_same]
  exact fun a member => toArgument_typed (typed a member)

/-- What becomes a message is one. -/
theorem message_of_toMessage {v p : Value} (made : v.toMessage = .ok p) :
    ∃ address arguments, p = .message address arguments := by
  unfold toMessage at made
  split at made
  · cases made
    exact ⟨_, _, rfl⟩
  · obtain ⟨arguments, -, rfl⟩ := ok_of_map made
    exact ⟨_, _, rfl⟩
  · obtain ⟨arguments, -, rfl⟩ := ok_of_map made
    exact ⟨_, _, rfl⟩
  · cases made

/-- What becomes a packet is one, and stays as it is. -/
theorem toPacket_again {v p : Value} (converted : v.toPacket = .ok p) : p.toPacket = .ok p := by
  unfold toPacket at converted
  split at converted
  · cases converted
    rfl
  · cases converted
    rfl
  · obtain ⟨address, arguments, rfl⟩ := message_of_toMessage converted
    rfl

end Converting

/-- Conversion of any value: it fails for the first value, from left to right and through lists
only, that no argument is made of, and for nothing else; what it gives has the shape of the
value, and converting it again changes nothing. A group gives one argument for each of its
values, packets stay as they are, and both ways to make a message agree. -/
theorem conversion_settled (v : Value) :
    ((∃ fault, v.toArgument = .error fault) ↔ ∃ w, v.Holds w ∧ w.isAccepted = false) ∧
    (∀ fault, v.toArgument = .error fault →
      ∃ w, v.held.find? (fun u => !u.isAccepted) = some w ∧
        fault = .type (.notConvertible w.bareTypeName "OSC argument")) ∧
    (∀ a, v.toArgument = .ok a → v.Becomes a ∧ a.toArgument = .ok a) ∧
    (∀ arguments, v.toArguments = .ok arguments ↔
      List.Forall₂ (fun w a => w.toArgument = .ok a) v.group arguments) ∧
    (∀ arguments, v.toArguments = .ok arguments →
      (Value.tuple arguments).toArguments = .ok arguments) ∧
    (∀ p, v.toPacket = .ok p → p.toPacket = .ok p) ∧
    ∀ address : Text,
      newMessage (.text address) v = (Value.tuple [.text address, v]).toPacket := by
  have settles := toArgument_settles v
  refine ⟨settles.failed_iff.trans firstRefused?_isSome, ?_, ?_, fun _ => toArguments_iff,
    fun _ => toArguments_again, ?_, ?_⟩
  · intro fault failed
    obtain ⟨w, first, rfl⟩ := settles.refused failed
    rw [firstRefused?, List.flatMap_singleton] at first
    exact ⟨w, first, rfl⟩
  · intro a converted
    have become := settles.given converted
    exact ⟨become, toArgument_typed become.typed⟩
  · exact fun _ => toPacket_again
  · intro address
    rfl

end Osc.Value
