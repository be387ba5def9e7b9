import Osc.Proofs.Faults

/-!
What calls on an endpoint leave alone, and the faults that they fail with. A call may read the table
of names, use up a failure that was foreseen and record what it did; it opens and closes nothing,
wakes nobody and lets nobody wait. It fails only as the system does, or since an address is none,
and such an address is refused before anything is asked of the network. Only a write hands a
datagram over, and only when it neither fails nor finds the socket busy.
-/

namespace Osc

def Call.isClose : Call → Bool
  | .close => true
  | _ => false

/-- How often an endpoint was closed. -/
def Network.closings (n : Network) : Nat := n.calls.countP Call.isClose

theorem Network.closings_append (n : Network) (call : Call) :
    { n with calls := n.calls ++ [call] }.closings =
      n.closings + if call.isClose then 1 else 0 := by
  simp only [closings, List.countP_append, List.countP_singleton]

/-- The same tasks and operations wait, and it was closed as often. -/
structure Network.Alike (n n' : Network) : Prop where
  waiting : n'.inbox.waiting = n.inbox.waiting
  closings : n'.closings = n.closings

/-- The same tasks and operations wait for the same things, and it is as open as it was. -/
structure Endpoint.Alike (e e' : Endpoint) : Prop where
  medium : e'.medium = e.medium
  closed : e'.closed = e.closed
  latch : e'.latch = e.latch
  watched : e'.watched = e.watched
  network : e.network.Alike e'.network

/-- Nothing was handed over either, and writes will fall short as they would have. -/
structure Network.Still (n n' : Network) : Prop extends n.Alike n' where
  sent : n'.sent = n.sent
  shortBy : n'.shortBy = n.shortBy

structure Endpoint.Still (e e' : Endpoint) : Prop extends e.Alike e' where
  sent : e'.network.sent = e.network.sent
  shortBy : e'.network.shortBy = e.network.shortBy

namespace Network.Alike

variable {n n' n'' : Network}

theorem refl (n : Network) : n.Alike n := ⟨rfl, rfl⟩

theorem trans (first : n.Alike n') (second : n'.Alike n'') : n.Alike n'' :=
  ⟨second.waiting.trans first.waiting, second.closings.trans first.closings⟩

end Network.Alike

namespace Network.Still

variable {n n' n'' : Network}

theorem refl (n : Network) : n.Still n := ⟨.refl n, rfl, rfl⟩

theorem trans (first : n.Still n') (second : n'.Still n'') : n.Still n'' where
  toAlike := first.toAlike.trans second.toAlike
  sent := second.sent.trans first.sent
  shortBy := second.shortBy.trans first.shortBy

end Network.Still

namespace Endpoint.Alike

variable {e e' e'' : Endpoint}

theorem refl (e : Endpoint) : e.Alike e := ⟨rfl, rfl, rfl, rfl, .refl _⟩

theorem trans (first : e.Alike e') (second : e'.Alike e'') : e.Alike e'' where
  medium := second.medium.trans first.medium
  closed := second.closed.trans first.closed
  latch := second.latch.trans first.latch
  watched := second.watched.trans first.watched
  network := first.network.trans second.network

private theorem ofNetwork (e : Endpoint) {network : Network} (same : e.network.Alike network) :
    e.Alike { e with network := network } := ⟨rfl, rfl, rfl, rfl, same⟩

theorem isSocket (h : e.Alike e') : e'.isSocket = e.isSocket := by
  rw [Endpoint.isSocket, h.medium, ← Endpoint.isSocket]

/-- Whether calls are refused. -/
theorem refuses (h : e.Alike e') : (e'.isSocket && e'.closed) = (e.isSocket && e.closed) := by
  rw [h.isSocket, h.closed]

end Endpoint.Alike

namespace Endpoint.Still

variable {e e' e'' : Endpoint}

theorem refl (e : Endpoint) : e.Still e := ⟨.refl e, rfl, rfl⟩

theorem trans (first : e.Still e') (second : e'.Still e'') : e.Still e'' where
  toAlike := first.toAlike.trans second.toAlike
  sent := second.sent.trans first.sent
  shortBy := second.shortBy.trans first.shortBy

end Endpoint.Still

section Running

variable {σ α β : Type}

theorem run_bind (x : ExceptT Fault (StateM σ) α) (f : α → ExceptT Fault (StateM σ) β) (s : σ) :
    (x >>= f).run.run s =
      match x.run.run s with
      | (.ok a, s') => (f a).run.run s'
      | (.error fault, s') => (.error fault, s') := by
  unfold ExceptT.run StateT.run
  simp only [bind, ExceptT.bind, ExceptT.mk, StateT.bind, ExceptT.bindCont]
  cases x s with
  | mk answer next => cases answer <;> rfl

theorem run_get_bind (f : σ → ExceptT Fault (StateM σ) α) (s : σ) :
    (MonadState.get >>= f).run.run s = (f s).run.run s := rfl

end Running

/-- A step that takes its state only where a relation allows, and fails only with faults of a
kind. -/
def Within {σ α : Type} (alike : σ → σ → Prop) (kind : Fault → Prop)
    (op : ExceptT Fault (StateM σ) α) : Prop :=
  ∀ s, alike s (op.run.run s).2 ∧ Answers kind (op.run.run s).1

/-- A step that takes its state only where a relation allows, and fails only in ways that have
nothing to do with the count of references. -/
def Keeps {σ α : Type} (alike : σ → σ → Prop) (op : ExceptT Fault (StateM σ) α) : Prop :=
  ∀ s, alike s (op.run.run s).2 ∧ Calm (op.run.run s).1

namespace Within

variable {σ α β : Type} {alike : σ → σ → Prop} {kind : Fault → Prop}

theorem pure (refl : ∀ s, alike s s) (a : α) :
    Within alike kind (Pure.pure a : ExceptT Fault (StateM σ) α) :=
  fun s => ⟨refl s, .ok a⟩

theorem throw (refl : ∀ s, alike s s) {fault : Fault} (h : kind fault) :
    Within alike kind (MonadExcept.throw fault : ExceptT Fault (StateM σ) α) :=
  fun s => ⟨refl s, .error h⟩

theorem get (refl : ∀ s, alike s s) :
    Within alike kind (MonadState.get : ExceptT Fault (StateM σ) σ) :=
  fun s => ⟨refl s, .ok s⟩

theorem modify {f : σ → σ} (same : ∀ s, alike s (f s)) :
    Within alike kind (modify f : ExceptT Fault (StateM σ) PUnit) :=
  fun s => ⟨same s, .ok _⟩

theorem bind (trans : ∀ {a b c}, alike a b → alike b c → alike a c)
    {x : ExceptT Fault (StateM σ) α} {f : α → ExceptT Fault (StateM σ) β}
    (first : Within alike kind x) (next : ∀ a, Within alike kind (f a)) :
    Within alike kind (x >>= f) := by
  intro s
  obtain ⟨moved, fails⟩ := first s
  rw [run_bind]
  rcases found : x.run.run s with ⟨answer, s'⟩
  rw [found] at moved fails
  cases answer with
  | ok a => exact ⟨trans moved (next a s').1, (next a s').2⟩
  | error fault => exact ⟨moved, .error (fails fault rfl)⟩

theorem mono {coarser : σ → σ → Prop} (weaker : ∀ {a b}, alike a b → coarser a b)
    {x : ExceptT Fault (StateM σ) α} (h : Within alike kind x) : Within coarser kind x :=
  fun s => ⟨weaker (h s).1, (h s).2⟩

theorem widen {more : Fault → Prop} (weaker : ∀ fault, kind fault → more fault)
    {x : ExceptT Fault (StateM σ) α} (h : Within alike kind x) : Within alike more x :=
  fun s => ⟨(h s).1, fun fault failed => weaker fault ((h s).2 fault failed)⟩

theorem keeps (calm : ∀ fault, kind fault → fault.isMiscount = false)
    {x : ExceptT Fault (StateM σ) α} (h : Within alike kind x) : Keeps alike x := h.widen calm

end Within

namespace Network

variable {α β : Type} {kind : Fault → Prop}

theorem still_bind {x : Op α} {f : α → Op β} (first : Within Still kind x)
    (next : ∀ a, Within Still kind (f a)) : Within Still kind (x >>= f) :=
  Within.bind .trans first next

theorem still_pure (a : α) : Within Still kind (pure a : Op α) := Within.pure .refl a

theorem still_throw {fault : Fault} (h : kind fault) : Within Still kind (throw fault : Op α) :=
  Within.throw .refl h

theorem still_get : Within Still kind (get : Op Network) := Within.get .refl

private theorem still_note {call : Call} (other : call.isClose = false) :
    Within Still kind (note call) := by
  refine Within.modify fun n => ⟨⟨rfl, ?_⟩, rfl, rfl⟩
  rw [closings_append, other]
  rfl

private theorem still_noteLookups (records : List LookupRecord) :
    Within Still kind (noteLookups records) :=
  Within.modify fun _ => ⟨⟨rfl, rfl⟩, rfl, rfl⟩

theorem still_failure? (operation : Operation) : Within Still kind (failure? operation) := by
  intro n
  rw [failure?, run_get_bind]
  split
  · exact ⟨.refl n, .ok _⟩
  · exact ⟨⟨⟨rfl, rfl⟩, rfl, rfl⟩, .ok _⟩

theorem still_failIfForeseen (operation : Operation) :
    Within Still Fault.IsOs (failIfForeseen operation) := by
  refine still_bind (still_failure? operation) fun found => ?_
  cases found with
  | some error => exact still_throw (.os error)
  | none => exact still_pure ()

private theorem still_stall (data : Bytes) : Within Still kind (stall data) := by
  intro n
  rw [stall, run_get_bind]
  split
  · exact ⟨.refl n, .ok _⟩
  · exact ⟨⟨⟨rfl, closings_append n (.stalled data)⟩, rfl, rfl⟩, .ok _⟩

private theorem still_resolve (address : Value) (family : Int) :
    Within Still (Address.Fails address) (resolve address family) := by
  refine still_bind still_get fun n => ?_
  refine still_bind (still_noteLookups _) fun _ => ?_
  split
  · next target found => exact still_pure target
  · next fault found => exact still_throw (Lookup.fault_of_resolve found)

end Network

namespace Endpoint

variable {α β : Type} {kind : Fault → Prop}

theorem still_bind {x : Op α} {f : α → Op β} (first : Within Still kind x)
    (next : ∀ a, Within Still kind (f a)) : Within Still kind (x >>= f) :=
  Within.bind .trans first next

theorem still_pure (a : α) : Within Still kind (pure a : Op α) := Within.pure .refl a

theorem still_throw {fault : Fault} (h : kind fault) : Within Still kind (throw fault : Op α) :=
  Within.throw .refl h

theorem still_get : Within Still kind (get : Op Endpoint) := Within.get .refl

theorem still_onNetwork {step : Network.Op α} (h : Within Network.Still kind step) :
    Within Still kind (onNetwork step) := by
  intro e
  obtain ⟨moved, fails⟩ := h e.network
  rw [onNetwork, run_get_bind]
  rcases found : step.run.run e.network with ⟨answer, network⟩
  rw [found] at moved fails
  have still : e.Still { e with network := network } :=
    ⟨.ofNetwork e moved.toAlike, moved.sent, moved.shortBy⟩
  cases answer with
  | ok a => exact ⟨still, .ok a⟩
  | error fault => exact ⟨still, .error (fails fault rfl)⟩

theorem still_failIfClosed : Within Still Fault.IsOs failIfClosed := by
  refine still_bind still_get fun e => ?_
  cases e.isSocket && e.closed with
  | false => exact still_pure ()
  | true => exact still_throw (.os _)

theorem still_target (address : Value) :
    Within Still (Address.Fails address) (target address) := by
  refine still_bind still_get fun e => ?_
  cases e.medium with
  | memory => exact still_pure address
  | socket family => exact still_onNetwork (Network.still_resolve address family)

theorem still_localAddress : Within Still Fault.IsOs localAddress := by
  refine still_bind still_failIfClosed fun _ => ?_
  refine still_bind (still_onNetwork (Network.still_failIfForeseen .localAddress)) fun _ => ?_
  exact still_bind still_get fun e => still_pure e.home

theorem still_peerAddress : Within Still Fault.IsOs peerAddress := by
  refine still_bind still_failIfClosed fun _ => ?_
  refine still_bind still_get fun e => ?_
  cases e.peer with
  | some peer => exact still_pure peer
  | none => exact still_throw (.os _)

theorem still_connect (address : Value) :
    Within Still (Address.Fails address) (connect address) := by
  refine still_bind (still_target address) fun goal => ?_
  -- Once the address was found only the system may fail.
  refine Within.widen (fun _ => .inl) ?_
  refine still_bind still_failIfClosed fun _ => ?_
  refine still_bind still_get fun e => ?_
  have done : Within Still Fault.IsOs (do
      onNetwork (Network.failIfForeseen .connect)
      modify fun e => { e with peer := some goal }
      if e.isSocket then let _ ← localAddress) := by
    refine still_bind (still_onNetwork (Network.still_failIfForeseen .connect)) fun _ => ?_
    refine still_bind (.modify fun e => ⟨⟨rfl, rfl, rfl, rfl, .refl _⟩, rfl, rfl⟩) fun _ => ?_
    cases e.isSocket with
    | false => exact still_pure ()
    | true => exact still_bind still_localAddress fun _ => still_pure ()
  cases socket : e.isSocket with
  | false =>
    rw [socket] at done
    exact done
  | true =>
    rw [socket] at done
    exact still_bind (still_onNetwork (Network.still_note rfl)) fun _ => done

theorem still_isBusy (data : Bytes) : Within Still kind (isBusy data) := by
  refine still_bind still_get fun e => ?_
  cases e.isSocket with
  | false => exact still_pure false
  | true =>
    rw [if_pos rfl]
    exact still_onNetwork (Network.still_stall data)

theorem still_destination (goal : Option Value) : Within Still Fault.IsOs (destination goal) := by
  refine still_bind still_get fun e => ?_
  cases goal with
  | some address => exact still_pure address
  | none =>
    cases e.peer with
    | some peer => exact still_pure peer
    | none => exact still_throw (.os _)

theorem keeps_target (address : Value) : Keeps Alike (target address) :=
  ((still_target address).mono Still.toAlike).keeps fun _ => Address.Fails.calm

theorem keeps_localAddress : Keeps Alike localAddress :=
  (still_localAddress.mono Still.toAlike).keeps fun _ => Fault.IsOs.calm

theorem keeps_peerAddress : Keeps Alike peerAddress :=
  (still_peerAddress.mono Still.toAlike).keeps fun _ => Fault.IsOs.calm

theorem keeps_connect (address : Value) : Keeps Alike (connect address) :=
  ((still_connect address).mono Still.toAlike).keeps fun _ => Address.Fails.calm

/-- What comes of a try to write: a fault, or the socket is busy, or the datagram is handed over
and the count of its bytes is the answer. A closed socket is not busy. -/
inductive Tries (e : Endpoint) (data : Bytes) : Except Fault Attempt × Endpoint → Prop where
  | fails {fault : Fault} {e' : Endpoint} (calm : fault.isMiscount = false) (still : e.Still e') :
      Tries e data (.error fault, e')
  | stalls {e' : Endpoint} (isOpen : (e.isSocket && e.closed) = false) (still : e.Still e') :
      Tries e data (.ok .busy, e')
  | sends {e' : Endpoint} (address : Value) (alike : e.Alike e')
      (sent : e'.network.sent = e.network.sent ++ [(data, address)]) :
      Tries e data (.ok (.sent (data.length - e.network.shortBy)), e')

theorem Tries.after {e e' : Endpoint} {data : Bytes} {p : Except Fault Attempt × Endpoint}
    (first : e.Still e') (next : Tries e' data p) : Tries e data p := by
  cases next with
  | fails calm still => exact .fails calm (first.trans still)
  | stalls isOpen still =>
    exact .stalls (first.refuses.symm.trans isOpen) (first.trans still)
  | sends address alike sent =>
    rw [first.shortBy]
    exact .sends address (first.toAlike.trans alike) (first.sent ▸ sent)

/-- A step before the try that may fail. -/
theorem Tries.bind {e : Endpoint} {data : Bytes} {x : Op α} {f : α → Op Attempt}
    (first : Within Still Fault.IsOs x) (next : ∀ a e', e.Still e' → Tries e' data ((f a).run.run e')) :
    Tries e data ((x >>= f).run.run e) := by
  obtain ⟨still, fails⟩ := first e
  rw [run_bind]
  rcases found : x.run.run e with ⟨answer, e'⟩
  rw [found] at still fails
  cases answer with
  | ok a => exact (next a e' still).after still
  | error fault => exact .fails (fails fault rfl).calm still

theorem attempt_tries (data : Bytes) (goal : Option Value) (e : Endpoint) :
    Tries e data ((attempt data goal).run.run e) := by
  cases isClosed : e.isSocket && e.closed with
  | true =>
    rw [attempt, run_bind]
    have refused : failIfClosed.run.run e = (.error (.os .badDescriptor), e) := by
      rw [failIfClosed, run_get_bind, isClosed]
      rfl
    rw [refused]
    exact .fails rfl (.refl e)
  | false =>
    refine .bind still_failIfClosed fun _ e₁ still₁ => ?_
    have open₁ := still₁.refuses.trans isClosed
    refine .bind (still_destination goal) fun address e₂ still₂ => ?_
    have open₂ := still₂.refuses.trans open₁
    refine .bind (still_isBusy data) fun busy e₃ still₃ => ?_
    have open₃ := still₃.refuses.trans open₂
    cases busy with
    | true => exact .stalls open₃ (.refl e₃)
    | false =>
      refine .bind (still_onNetwork (Network.still_failure? .send)) fun found e₄ still₄ => ?_
      cases found with
      | none => exact .sends address ⟨rfl, rfl, rfl, rfl, rfl, rfl⟩ rfl
      | some error =>
        rw [run_get_bind]
        cases e₄.isSocket && error.isRetry with
        | false => exact .fails rfl (.refl e₄)
        | true => exact .stalls (still₄.refuses.trans open₃) (.refl e₄)

theorem within_attempt (data : Bytes) (goal : Option Value) :
    Within Alike Fault.IsOs (attempt data goal) := by
  have alike {γ : Type} {x : Op γ} (h : Within Still Fault.IsOs x) :
      Within Alike Fault.IsOs x := h.mono Still.toAlike
  refine Within.bind .trans (alike still_failIfClosed) fun _ => ?_
  refine Within.bind .trans (alike (still_destination goal)) fun address => ?_
  refine Within.bind .trans (alike (still_isBusy data)) fun busy => ?_
  cases busy with
  | true => exact alike (still_pure Attempt.busy)
  | false =>
    have failure : Within Still Fault.IsOs (onNetwork (Network.failure? .send)) :=
      still_onNetwork (Network.still_failure? .send)
    refine Within.bind .trans (alike failure) fun found => ?_
    cases found with
    | none => exact fun e => ⟨⟨rfl, rfl, rfl, rfl, rfl, rfl⟩, .ok _⟩
    | some error =>
      refine alike (still_bind still_get fun e => ?_)
      cases e.isSocket && error.isRetry with
      | false => exact still_throw (.os error)
      | true => exact still_pure Attempt.busy

theorem keeps_attempt (data : Bytes) (goal : Option Value) : Keeps Alike (attempt data goal) :=
  (within_attempt data goal).keeps fun _ => Fault.IsOs.calm

/-- Memory takes every address as it is. -/
theorem target_memory {e : Endpoint} (memory : e.isSocket = false) (address : Value) :
    (target address).run.run e = (.ok address, e) := by
  rw [target, run_get_bind]
  cases medium : e.medium with
  | memory => rfl
  | socket family =>
    rw [isSocket, medium] at memory
    cases memory

/-- A socket refuses an address without asking the network. -/
theorem target_refused {e : Endpoint} (socket : e.isSocket = true) {address : Value}
    {fault : Fault} (refuses : Address.Refuses address fault) :
    (target address).run.run e = (.error fault, e) := by
  rw [target, run_get_bind]
  cases medium : e.medium with
  | memory =>
    rw [isSocket, medium] at socket
    cases socket
  | socket family =>
    have refused : (Network.resolve address family).run.run e.network = (.error fault, e.network) := by
      rw [Network.resolve, run_get_bind, Lookup.resolve_refused refuses, run_bind]
      change (Except.error fault, { e.network with lookups := e.network.lookups ++ [] }) = _
      rw [List.append_nil]
    change (onNetwork (Network.resolve address family)).run.run e = _
    rw [onNetwork, run_get_bind, refused]
    rfl

/-- What is refused is refused before anything else. -/
theorem connect_refused {e : Endpoint} (socket : e.isSocket = true) {address : Value}
    {fault : Fault} (refuses : Address.Refuses address fault) :
    (connect address).run.run e = (.error fault, e) := by
  rw [connect, run_bind, target_refused socket refuses]

/-- What is wrong with the address of a call is found before anything else. -/
theorem fault_of_target {e : Endpoint} {address : Value} {fault : Fault}
    (failed : ((target address).run.run e).1 = .error fault) :
    fault.IsOs ∨ e.isSocket = true ∧ Address.Refuses address fault := by
  cases socket : e.isSocket with
  | false =>
    rw [target_memory socket] at failed
    cases failed
  | true => exact ((still_target address e).2 fault failed).imp_right fun refuses => ⟨rfl, refuses⟩

end Endpoint

end Osc
