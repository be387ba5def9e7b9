import Mathlib.Tactic
import Osc.Endpoint

/-!
Faults, and those of addresses. An address may be such that it cannot even be looked up, and what
is wrong with it then is its value; otherwise the system fails, or an address is found. A text that
is an address is cut into a host and a port, and every text that cannot be cut so is refused.
-/

namespace Osc

def RuntimeFault.isMiscount : RuntimeFault → Bool
  | .alreadyReceiving => false
  | .alreadyReleased | .releasedTooOften => true

/-- Faults of counting the references to an endpoint. -/
def Fault.isMiscount : Fault → Bool
  | .runtime fault => fault.isMiscount
  | _ => false

theorem Fault.isMiscount_wrapOs (wrap : OsError → TransportFault) (fault : Fault) :
    (fault.wrapOs wrap).isMiscount = fault.isMiscount := by
  cases fault <;> rfl

/-- An answer that is a result, or a fault of a kind. -/
def Answers {α : Type} (kind : Fault → Prop) (answer : Except Fault α) : Prop :=
  ∀ fault, answer = .error fault → kind fault

namespace Answers

variable {α β : Type} {kind : Fault → Prop}

theorem ok (a : α) : Answers kind (.ok a) := by
  intro fault failed
  cases failed

theorem error {fault : Fault} (h : kind fault) : Answers kind (.error fault : Except Fault α) := by
  intro fault' failed
  cases failed
  exact h

theorem bind {x : Except Fault α} {f : α → Except Fault β} (first : Answers kind x)
    (next : ∀ a, Answers kind (f a)) : Answers kind (x >>= f) := by
  cases x with
  | ok a => exact next a
  | error fault => exact error (first fault rfl)

end Answers

/-- An answer that is no fault of counting references. -/
def Calm {α : Type} (answer : Except Fault α) : Prop :=
  ∀ fault, answer = .error fault → fault.isMiscount = false

namespace Calm

variable {α β : Type}

theorem ok (a : α) : Calm (.ok a) := Answers.ok a

theorem error {fault : Fault} (calm : fault.isMiscount = false) :
    Calm (.error fault : Except Fault α) := Answers.error calm

theorem bind {x : Except Fault α} {f : α → Except Fault β} (first : Calm x)
    (next : ∀ a, Calm (f a)) : Calm (x >>= f) := Answers.bind first next

theorem map {x : Except Fault α} (h : Calm x) (f : α → β) : Calm (f <$> x) := by
  cases x with
  | ok a => exact ok (f a)
  | error fault => exact error (h fault rfl)

theorem wrapOs {x : Except Fault α} (h : Calm x) (wrap : OsError → TransportFault) :
    Calm (x.mapError (Fault.wrapOs wrap)) := by
  cases x with
  | ok a => exact ok a
  | error fault => exact error ((Fault.isMiscount_wrapOs wrap fault).trans (h fault rfl))

end Calm

/-- A fault of a value that cannot be used for what it was given for. -/
inductive Fault.OfValue : Fault → Prop where
  | value (cause : ValueFault) : OfValue (.value cause)
  | field (cause : FieldFault) : OfValue (.field cause)
  | index (type : String) : OfValue (.index type)
  | key (key : Value) : OfValue (.unknownKey key)

theorem Fault.OfValue.calm {fault : Fault} (h : fault.OfValue) : fault.isMiscount = false := by
  cases h <;> rfl

theorem Fault.OfValue.wrapOs {fault : Fault} (h : fault.OfValue)
    (wrap : OsError → TransportFault) : fault.wrapOs wrap = fault := by
  cases h <;> rfl

section Values

theorem value_of_readNumeral (t shown : Text) :
    Answers (fun fault => ∃ cause, fault = .value cause) (Value.readNumeral t shown) := by
  unfold Value.readNumeral
  split
  · exact .ok _
  · exact .error ⟨_, rfl⟩
  · exact .error ⟨_, rfl⟩

theorem ofValue_readNumeral (t shown : Text) :
    Answers Fault.OfValue (Value.readNumeral t shown) := by
  intro fault failed
  obtain ⟨cause, rfl⟩ := value_of_readNumeral t shown fault failed
  exact .value cause

theorem ofValue_toInteger (v : Value) : Answers Fault.OfValue v.toInteger := by
  unfold Value.toInteger
  split
  · split
    · exact .error (.value _)
    · split
      · exact .error (.field _)
      · exact .ok _
  · exact ofValue_readNumeral _ _
  · exact ofValue_readNumeral _ _
  · split
    · exact .ok _
    · exact .error (.field _)

theorem ofValue_found (found : Option Value) (type : String) :
    Answers Fault.OfValue (match found with
      | some v => .ok v
      | none => .error (.index type)) := by
  cases found with
  | some v => exact .ok v
  | none => exact .error (.index type)

theorem ofValue_item (v : Value) (place : Nat) :
    Answers Fault.OfValue (Address.item v place) := by
  unfold Address.item
  split
  · exact ofValue_found _ _
  · exact ofValue_found _ _
  · exact ofValue_found _ _
  · exact ofValue_found _ _
  · exact .error (.key _)
  · exact .error (.field _)

private theorem ofValue_split (address : Value) :
    Answers Fault.OfValue (Address.split address) := by
  unfold Address.split
  split
  · unfold Address.splitText
    split
    · split
      · exact (ofValue_toInteger _).bind fun _ => .ok _
      · exact .error (.value _)
    · exact .error (.value _)
  · exact (ofValue_item _ 0).bind fun _ => (ofValue_item _ 1).bind fun _ =>
      (ofValue_toInteger _).bind fun _ => .ok _

private theorem ofValue_isResolved (address : Value) :
    Answers Fault.OfValue (Lookup.isResolved address) := by
  unfold Lookup.isResolved
  split
  · exact (ofValue_item _ 0).bind fun _ => .ok _
  · exact .ok _

end Values

/-- A failure that the system reports. -/
inductive Fault.IsOs : Fault → Prop where
  | os (error : OsError) : IsOs (.os error)

theorem Fault.IsOs.calm {fault : Fault} (h : fault.IsOs) : fault.isMiscount = false := by
  cases h
  rfl

namespace Address

/-- What is wrong with an address before anything is looked up. -/
inductive Refuses (address : Value) (fault : Fault) : Prop where
  | unread (failed : Lookup.isResolved address = .error fault)
  | unsplit (named : Lookup.isResolved address = .ok false)
      (failed : split address = .error fault)

/-- A text is refused when it cannot be cut into a host and a port. -/
theorem refuses_text {t : Text} {fault : Fault} :
    Refuses (.text t) fault ↔ splitText t = .error fault := by
  constructor
  · intro refuses
    cases refuses with
    | unread failed => cases failed
    | unsplit named failed => exact failed
  · exact fun failed => .unsplit rfl failed

/-- What is wrong with a text is its value: it has no port, or the port is no number. -/
theorem value_of_splitText (t : Text) :
    Answers (fun fault => ∃ cause, fault = .value cause) (splitText t) := by
  unfold splitText
  split
  · split
    · exact (value_of_readNumeral _ _).bind fun _ => .ok _
    · exact .error ⟨_, rfl⟩
  · exact .error ⟨_, rfl⟩

/-- An address is refused for its value. -/
theorem Refuses.ofValue {address : Value} {fault : Fault} (refuses : Refuses address fault) :
    fault.OfValue := by
  cases refuses with
  | unread failed => exact ofValue_isResolved address fault failed
  | unsplit named failed => exact ofValue_split address fault failed

/-- Why no address was found: the system has failed, or what was given is no address. -/
def Fails (address : Value) (fault : Fault) : Prop := fault.IsOs ∨ Refuses address fault

theorem Fails.calm {address : Value} {fault : Fault} (h : Fails address fault) :
    fault.isMiscount = false := by
  rcases h with os | refuses
  · exact os.calm
  · exact refuses.ofValue.calm

end Address

namespace Lookup

variable {hosts : Hosts} {address : Value} {family : Int} {fault : Fault}

private theorem isOs_find (host : Text) (port : Int) :
    Answers Fault.IsOs (find hosts host port family) := by
  unfold find
  split
  · exact .error (.os _)
  · exact .error (.os _)
  · split
    · exact .ok _
    · exact .error (.os _)

theorem fault_of_resolve (failed : (resolve hosts address family).2 = .error fault) :
    Address.Fails address fault := by
  rw [resolve] at failed
  split at failed
  · next unread =>
    cases failed
    exact .inr (.unread unread)
  · cases failed
  · next named =>
    rw [lookup] at failed
    cases split : Address.split address with
    | error cause =>
      rw [split] at failed
      cases failed
      exact .inr (.unsplit named split)
    | ok found =>
      obtain ⟨host, port⟩ := found
      rw [split] at failed
      change (find hosts host port family).map Prod.snd = .error fault at failed
      cases looked : find hosts host port family with
      | error cause =>
        rw [looked] at failed
        cases failed
        exact .inl (isOs_find host port _ looked)
      | ok found =>
        rw [looked] at failed
        cases failed

/-- Nothing is looked up for an address that is refused. -/
theorem resolve_refused (refuses : Address.Refuses address fault) :
    resolve hosts address family = ([], .error fault) := by
  cases refuses with
  | unread failed => rw [resolve, failed]
  | unsplit named failed =>
    rw [resolve, named]
    simp only [lookup, failed]
    rfl

end Lookup

end Osc
