import Osc.Proofs.Refusal
import Osc.Proofs.Turns

/-!
Handles and the references they hold. The socket and each sender hold one reference as long
as they are open, so the count of references is the number of open handles, whatever the order
in which handles are made and closed. The endpoint is open as long as one of them is, and is
closed once. What is done through a closed handle ends before it reaches the endpoint.
-/

namespace Osc

theorem Wire.Escapes.isMiscount {v : Value} {fault : Fault} (h : Wire.Escapes v fault) :
    fault.isMiscount = false := by
  induction h with
  | element timed fine inner ih => exact ih
  | _ => rfl

/-- Neither writing nor reading packets counts references. -/
theorem Codec.osc_isCalm : Codec.osc.IsCalm := by
  constructor
  · intro v fault failed
    by_cases encoding : ∃ cause, fault = .encode cause
    · obtain ⟨cause, rfl⟩ := encoding
      rfl
    · apply Wire.Escapes.isMiscount
      exact Wire.escapes_of_encode (fun cause same => encoding ⟨cause, same⟩) v failed
  · intro data fault failed
    obtain ⟨cause, -, rfl⟩ := Wire.error_of_mapError failed
    rfl

namespace Session

/-- The handle that an action goes through. -/
def handleOf (s : Session) : Action → Option HandleId
  | .send name _ | .sendWithin name _ | .clone name _ | .localAddress name => s.handleId? name
  | .connect _ | .peerAddress | .sender _ => some socketHandle
  | _ => none

/-- The endpoint is closed with the last handle, and only then. -/
structure Books (s : Session) : Prop where
  closed : s.isEndpointClosed = true ↔ s.openHandles = 0
  closings : s.network.closings = if s.openHandles = 0 then 1 else 0

variable {given : Option Turn} {place : Nat} {s t : Session} {e : Endpoint} {id : TaskId}

namespace Books

/-- They only depend on the handles and on what was done to the endpoint. -/
theorem keep (h : s.Books) (handles : t.handles = s.handles)
    (closed : t.isEndpointClosed = s.isEndpointClosed)
    (closings : t.network.closings = s.network.closings) : t.Books := by
  have same : t.openHandles = s.openHandles := by rw [openHandles, openHandles, handles]
  constructor
  · rw [closed, same]
    exact h.closed
  · rw [closings, same]
    exact h.closings

/-- Over a step of the endpoint that neither opens nor closes it. -/
theorem onto (h : s.Books) (up : s.link = .up e) {e' : Endpoint} (up' : t.link = .up e')
    (handles : t.handles = s.handles) (closed : e'.closed = e.closed)
    (closings : e'.network.closings = e.network.closings) : t.Books := by
  refine h.keep handles ?_ ?_
  · simp only [isEndpointClosed, endpoint?, up, up', Option.any_some, closed]
  · rw [network_up up, network_up up', closings]

theorem aside (h : s.Books) (fit : s.Fit) (same : Aside s t) : t.Books := by
  obtain ⟨e, up⟩ := fit.up
  obtain ⟨inbox, up'⟩ := same.link e up
  exact h.onto up up' same.handles rfl rfl

/-- A handle is closed, and the endpoint when it was the last one. -/
theorem release (h : s.Books) (fit : s.Fit) {handle : HandleId}
    (there : handle < s.handles.length) (isOpen : s.isHandleClosed handle = false)
    (counted : s.references.getD 0 ≠ 0) : (s.releaseHandle handle).1.Books := by
  obtain ⟨e, up⟩ := fit.up
  have some := openHandles_pos there isOpen
  have references : s.references.getD 0 = s.openHandles := by
    rw [fit.count (fit.socket_of_handle there), Option.getD_some]
  have unclosed : e.network.closings = 0 := by
    rw [← network_up up, h.closings, if_neg (by omega)]
  have stillOpen : e.closed = false := by
    have opened : ¬ s.isEndpointClosed = true := by
      rw [h.closed]
      omega
    simpa only [isEndpointClosed, endpoint?, up, Option.any_some, Bool.not_eq_true] using opened
  rcases releaseHandle_cases up isOpen counted with ⟨last, same⟩ | ⟨more, same⟩
  · have none : (s.releaseHandle handle).1.openHandles = 0 := by
      rw [same]
      exact (openHandles_marked there isOpen 0).trans (by omega)
    have closes : (s.releaseHandle handle).1.link = .up e.close.1 := by
      rw [same]
      rfl
    constructor
    · simp only [isEndpointClosed, endpoint?, closes, none, Option.any_some, iff_true]
      rfl
    · rw [network_up closes, none, if_pos rfl]
      exact (Network.closings_append e.network .close).trans (by rw [unclosed]; rfl)
  · have left : (s.releaseHandle handle).1.openHandles = s.openHandles - 1 := by
      rw [same]
      exact openHandles_marked there isOpen _
    have stays : (s.releaseHandle handle).1.link = .up e := by
      rw [same]
      exact up
    constructor
    · simp only [isEndpointClosed, endpoint?, stays, left, Option.any_some, stillOpen,
        Bool.false_eq_true, false_iff]
      omega
    · rw [network_up stays, left, unclosed, if_neg (by omega)]

/-- Another open handle. -/
theorem clone (h : s.Books) {handle : HandleId} (there : handle < s.handles.length)
    (isOpen : s.isHandleClosed handle = false) (name : Text) (count : Option Nat) :
    Books { s with references := count, handles := s.handles ++ [⟨name, false⟩] } := by
  have some := openHandles_pos there isOpen
  have more : openHandles { s with references := count, handles := s.handles ++ [⟨name, false⟩] } =
      s.openHandles + 1 := by simp [openHandles]
  constructor
  · rw [more]
    have opened := h.closed
    constructor
    · intro closed
      have := opened.mp closed
      omega
    · intro none
      omega
  · rw [more, if_neg (by omega)]
    exact h.closings.trans (if_neg (by omega))

end Books

theorem Books.start {codec : Codec} {settings : Settings} {limit : Int} (unused : IsFresh e) :
    (fresh .socket codec settings e limit).Books := by
  refine ⟨?_, unused.closings⟩
  have closed : (fresh .socket codec settings e limit).isEndpointClosed = false := unused.opened
  rw [closed]
  exact ⟨nofun, nofun⟩

/-- Every change keeps the books of a socket. -/
theorem Change.books (change : Change given s t) (fit : s.Fit) (socket : s.layer = .socket)
    (h : s.Books) : t.Books := by
  obtain ⟨e, up⟩ := fit.up
  cases change with
  | inert same =>
    obtain ⟨e, e', up, up', alike⟩ := same.alike
    exact h.onto up up' same.handles alike.closed alike.network.closings
  | spend took stale => cases took; exact h.keep rfl rfl rfl
  | tell took blocked => cases took; exact h.keep rfl rfl rfl
  | drop took queued => cases took; exact h.keep rfl rfl rfl
  | start took queued => cases took; exact h.keep rfl rfl rfl
  | goOn took woken other => cases took; exact h.keep rfl rfl rfl
  | leave took woken => cases took; exact h.keep rfl rfl rfl
  | gain took woken there brought => cases took; exact h.keep rfl rfl rfl
  | lose took woken there brought => cases took; exact h.keep rfl rfl rfl
  | join pull runs free receiver current =>
    have begun : (s.setReceiver fun r => { r with waiting := true }).Books := h.keep rfl rfl rfl
    exact (begun.aside (fit.setReceiver _) (aside_watch _ _ _)).keep rfl rfl rfl
  | stop closed handle receiver current =>
    exact (h.aside fit (aside_cancelReceive s _)).keep rfl rfl rfl
  | halt runs other receiver current => exact absurd socket other
  | @close id r receive outcome runs plain there isOpen receiver current =>
    have stopped : ((s.cancelReceive receive).setReceiver
        fun r => { r with state := .idle none }).Books :=
      (h.aside fit (aside_cancelReceive s receive)).keep rfl rfl rfl
    exact (stopped.aside ((fit.cancelReceive receive).setReceiver _) (aside_watch _ _ _)).keep
      rfl rfl rfl
  | release there isOpen counted settled => exact h.release fit there isOpen counted
  | clone there isOpen counted name => exact h.clone there isOpen name _
  | overdrawn there isOpen counted => exact (fit.not_overdrawn there isOpen counted).elim
  | @block id w runs fits =>
    have same : (e.awaitWritable id).closed = e.closed ∧
        (e.awaitWritable id).network = e.network := by
      unfold Endpoint.awaitWritable
      split <;> exact ⟨rfl, rfl⟩
    rw [awaitWritable_up up]
    exact h.onto up rfl rfl same.1 (congrArg Network.closings same.2)
  | writable up watched => exact h.onto up rfl rfl rfl rfl
  | shut other => exact absurd socket other
  | waken up first => exact h.onto up rfl rfl rfl rfl
  | @wait id found there looks =>
    have here : (s.setReceive id .waiting).link = .up e := up
    rw [setInbox_onto here]
    exact h.onto up rfl rfl rfl rfl
  | unwrite up blocked asked => exact h.onto up rfl rfl rfl rfl
  | urge blocked asked => exact (h.aside fit (aside_cancelReceive s _)).keep rfl rfl rfl
  | _ => exact h.keep rfl rfl rfl

section Closed

variable {handle : HandleId}

theorem closeHandle_closed (closed : s.isHandleClosed handle = true) (id : TaskId)
    (outcome : Outcome) : s.closeHandle id handle outcome = (s, .finished outcome) := by
  simp only [closeHandle, closed, Bool.not_true, Bool.and_false, Bool.false_eq_true, if_false,
    releaseHandle, if_true, concludeClose]

theorem send_closed (closed : s.isHandleClosed handle = true) (id : TaskId) (parcel : Parcel)
    {use : WriteUse} (own : use = .packet parcel.address ∨
      use = .packetThenClose parcel.address handle) :
    ∃ fault, s.send id handle parcel use = (s, .finished (.fault fault)) := by
  have refused (fault : Fault) :
      s.refuseSend id use fault = (s, .finished (.fault fault)) := by
    rcases own with rfl | rfl
    · rfl
    · exact closeHandle_closed closed id (.fault fault)
  rw [send]
  cases Sender.data s.codec parcel.packet with
  | error fault => exact ⟨fault, refused fault⟩
  | ok data =>
    simp only [closed, if_true]
    exact ⟨_, refused _⟩

/-- Through a closed handle nothing is done. -/
theorem perform_closed (socket : s.layer = .socket) (closed : s.isHandleClosed handle = true)
    {action : Action} (through : s.handleOf action = some handle) (id : TaskId) :
    ∃ fault, s.perform id action = (s, .finished (.fault fault)) := by
  have cloned (name : Text) (result : Result) :
      s.cloneHandle handle name result = (s, .finished (.fault (.transport .senderClosed))) := by
    rw [cloneHandle, if_pos closed]
  have asked {α : Type} (fault : TransportFault) (wrap : OsError → TransportFault)
      (result : α → Result) (step : Endpoint.Op α) :
      s.onHandle handle fault wrap result step =
        (s, .finished (.fault (.transport fault))) := by
    rw [onHandle, if_pos closed]
  cases action with
  | send name parcel =>
    have known : s.handleId? name = some handle := through
    simp only [perform, withHandle, known]
    cases parcel with
    | error fault => exact ⟨fault, rfl⟩
    | ok parcel => exact send_closed closed id parcel (.inl rfl)
  | sendWithin name parcel =>
    have known : s.handleId? name = some handle := through
    simp only [perform, withHandle, known]
    cases parcel with
    | error fault => exact ⟨fault, closeHandle_closed closed id _⟩
    | ok parcel => exact send_closed closed id parcel (.inr rfl)
  | clone name new =>
    have known : s.handleId? name = some handle := through
    simp only [perform, withHandle, known]
    split
    · exact ⟨noClone, rfl⟩
    · exact ⟨_, cloned new _⟩
  | localAddress name =>
    have known : s.handleId? name = some handle := through
    simp only [perform, socket, if_true, withHandle, known]
    exact ⟨_, asked _ _ _ _⟩
  | connect address =>
    cases through
    simp only [perform, socket, if_true]
    exact ⟨_, asked _ _ _ _⟩
  | peerAddress =>
    cases through
    simp only [perform, socket, if_true]
    exact ⟨_, asked _ _ _ _⟩
  | sender name =>
    cases through
    exact ⟨_, cloned name _⟩
  | _ => cases through

/-- The turn of a task that would go through a closed handle does nothing but end it. -/
theorem turnAt_closed (fit : s.Fit) (socket : s.layer = .socket)
    (closed : s.isHandleClosed handle = true) (first : s.ready[place]? = some (.resume id))
    {action : Action} (queued : s.statuses[id]? = some (.queued action false))
    (through : s.handleOf action = some handle) :
    ∃ fault, s.turnAt place =
      { s with ready := s.ready.eraseIdx place }.finish id (.fault fault) := by
  obtain ⟨e, up⟩ := fit.up
  obtain ⟨fault, ends⟩ := perform_closed (s := s.begun place id) socket closed through id
  exact ⟨fault, turnAt_ends up first queued ends⟩

end Closed

/-- Whatever is done with the handles of a socket, and in whatever order: there are as many
references as open handles; the endpoint is closed when no handle is open, and then it was
closed once, and otherwise never; counting references never fails; and a task that would use
a closed handle ends with a fault before anything else happens. -/
theorem references_eq_openHandles {codec : Codec} {settings : Settings}
    {earlier : Except Fault Settings} {hosts : Hosts} {start : Session} {choices : List Choice}
    (calm : codec.IsCalm) (unused : IsFresh e)
    (built : (bare .socket codec earlier hosts).attach settings e = .ok start)
    (calls : Calls .socket choices) :
    let s := start.schedule choices
    s.references = some s.openHandles ∧
      (s.isEndpointClosed = true ↔ s.openHandles = 0) ∧
      s.network.closings = (if s.openHandles = 0 then 1 else 0) ∧
      (∀ task ∈ s.tasks, ∀ outcome, task.outcome? = some outcome → outcome.isMiscount = false) ∧
      ∀ place id action handle, s.ready[place]? = some (.resume id) →
        s.statuses[id]? = some (.queued action false) → s.handleOf action = some handle →
        s.isHandleClosed handle = true → ∃ fault, s.turnAt place =
          { s with ready := s.ready.eraseIdx place }.finish id (.fault fault) := by
  intro s
  obtain ⟨limit, -, rfl⟩ := exists_fresh rfl built
  obtain ⟨fit, socket, books⟩ := schedule_keep (P := fun s => s.layer = .socket ∧ s.Books)
    (fun _ s t change fit h => ⟨(change.layer fit).trans h.1, change.books fit h.1 h.2⟩)
    (Fit.start calm unused.waiting) calls ⟨rfl, .start unused⟩
  refine ⟨fit.count socket, books.closed, books.closings, ?_, ?_⟩
  · intro task member outcome ended
    have status : task.status = .finished outcome := by
      obtain ⟨name, status, requests⟩ := task
      cases status with
      | finished other => exact congrArg TaskStatus.finished (Option.some.inj ended)
      | _ => cases ended
    have listed : .finished outcome ∈ s.statuses := by
      rw [← status]
      exact List.mem_map_of_mem member
    exact fit.statuses _ listed
  · intro place id action handle first queued through closed
    exact turnAt_closed fit socket closed first queued through

/-- A sender outlives its socket and is closed twice, and then it is asked for another. -/
def senderLast : List Choice := [
  .spawn (Text.ofString "a") (.sender (Text.ofString "s")), .turn 0,
  .spawn (Text.ofString "b") (.close socketName), .turn 0,
  .spawn (Text.ofString "c") (.close (Text.ofString "s")), .turn 0,
  .spawn (Text.ofString "d") (.close (Text.ofString "s")), .turn 0,
  .spawn (Text.ofString "e") (.clone (Text.ofString "s") (Text.ofString "t"))]

def closedSender : Session :=
  (fresh .socket .osc .default (.inMemory (.quiet [])) 65536).schedule senderLast

theorem references_eq_openHandles_senderLast :
    IsFresh (.inMemory (.quiet [])) ∧ Calls .socket senderLast ∧
      closedSender.handles.map Handle.closed = [true, true] ∧
      closedSender.references = some 0 ∧ closedSender.isEndpointClosed = true ∧
      closedSender.network.closings = 1 ∧
      ∃ fault, closedSender.turnAt 0 =
        { closedSender with ready := [] }.finish 4 (.fault fault) := by
  have unused : IsFresh (.inMemory (.quiet [])) := ⟨rfl, rfl, rfl, rfl⟩
  have calls : Calls .socket senderLast := by decide
  have built : (bare .socket .osc (.ok .default) []).attach .default (.inMemory (.quiet [])) =
      .ok (fresh .socket .osc .default (.inMemory (.quiet [])) 65536) := rfl
  have counted := references_eq_openHandles Codec.osc_isCalm unused built calls
  obtain ⟨references, closed, closings, -, through⟩ := counted
  refine ⟨unused, calls, rfl, references, closed.mpr rfl, closings, ?_⟩
  exact through 0 4 (.clone (Text.ofString "s") (Text.ofString "t")) 1 rfl rfl rfl rfl

end Session

end Osc
