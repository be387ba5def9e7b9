import Osc.Proofs.Handles
import Osc.Proofs.Writers

/-!
Sends through the handles of a socket. A packet is converted and written before anything else;
then the handle must be open; then the endpoint is called once, with all the bytes. The send
returns when the endpoint has counted exactly those, and everything else is a fault. It leaves all
handles and references as they are, so later sends end as if it had not been made, unless the
endpoint answers them otherwise.
-/

namespace Osc

theorem Sender.cause?_failure (address : Option Value) (error : OsError) :
    (Sender.failure address error).cause? = some error := by
  cases address <;> rfl

/-- What a send makes of how far its call of the endpoint has come. -/
def Progress.relayed (address : Option Value) (size : Nat) : Progress → Progress
  | .finished (.value (.sent count)) =>
    .finished (.ofAnswer (fun _ => .nothing) (Sender.conclude address size (.ok count)))
  | .finished (.fault fault) =>
    .finished (.ofAnswer (fun _ => .nothing) (Sender.conclude address size (.error fault)))
  | .blocked (.writing w) => .blocked (.writing { w with use := .packet address })
  | progress => progress

/-- What has come of a call of an endpoint for a send, with what was handed over in it. An
endpoint over a socket may refuse the address, for its value. -/
inductive Relays (socket : Bool) (address : Option Value) (data : Bytes) :
    List Dispatch → TaskStatus → Prop where
  | waits (goal : Option Value) :
      Relays socket address data [] (.blocked (.writing ⟨data, goal, .packet address⟩))
  | woken (goal : Option Value) (wake : Wake) :
      Relays socket address data [] (.woken (.writing ⟨data, goal, .packet address⟩) wake)
  | cancelled : Relays socket address data [] (.finished .cancelled)
  | failed (error : OsError) :
      Relays socket address data []
        (.finished (.fault (.transport (Sender.failure address error))))
  | refused {target : Value} {fault : Fault} (isSocket : socket = true)
      (given : address = some target) (refuses : Address.Refuses target fault) :
      Relays socket address data [] (.finished (.fault fault))
  | sent (goal : Value) :
      Relays socket address data [⟨data, goal, data.length⟩] (.finished (.value .nothing))
  | partly (goal : Value) {count : Int} (other : count ≠ data.length) :
      Relays socket address data [⟨data, goal, count⟩]
        (.finished (.fault (.transport (.partlySent count data.length))))

/-- What has come of the send of a parcel through a handle that was open or not, with what was
handed over for it. -/
inductive Sends (codec : Codec) (socket closed : Bool) (parcel : Parcel) :
    List Dispatch → TaskStatus → Prop where
  | unwritten {fault : Fault} (failed : Sender.data codec parcel.packet = .error fault) :
      Sends codec socket closed parcel [] (.finished (.fault fault))
  | shut {data : Bytes} (written : Sender.data codec parcel.packet = .ok data)
      (isClosed : closed = true) :
      Sends codec socket closed parcel [] (.finished (.fault (.transport .senderClosed)))
  | called {data : Bytes} (written : Sender.data codec parcel.packet = .ok data)
      (isOpen : closed = false) {made : List Dispatch} {status : TaskStatus}
      (relays : Relays socket parcel.address data made status) :
      Sends codec socket closed parcel made status

namespace Sends

variable {codec : Codec} {socket closed : Bool} {parcel : Parcel} {made : List Dispatch}
  {status : TaskStatus}

/-- A send returns exactly when its packet was written, its handle was open and all bytes were
counted. -/
theorem returned_iff (h : Sends codec socket closed parcel made status) :
    status = .finished (.value .nothing) ↔ ∃ data goal,
      Sender.data codec parcel.packet = .ok data ∧ closed = false ∧
        made = [⟨data, goal, data.length⟩] := by
  constructor
  · rintro rfl
    cases h with
    | @called data written isOpen made status relays =>
      cases relays with
      | sent goal => exact ⟨data, goal, written, isOpen, rfl⟩
  · rintro ⟨data, goal, written, isOpen, rfl⟩
    cases h with
    | called written' isOpen' relays =>
      cases written.symm.trans written'
      cases relays with
      | sent goal => rfl
      | partly goal other => exact absurd rfl other

/-- A fault of transport has a cause unless the handle was closed or bytes were not counted. -/
theorem cause?_eq_none_iff (h : Sends codec socket closed parcel made status) {data : Bytes}
    (written : Sender.data codec parcel.packet = .ok data) {fault : TransportFault}
    (failed : status = .finished (.fault (.transport fault))) :
    fault.cause? = none ↔ closed = true ∨ made ≠ [] := by
  cases h with
  | unwritten failed' => cases written.symm.trans failed'
  | shut written' isClosed =>
    cases failed
    exact ⟨fun _ => .inl isClosed, fun _ => rfl⟩
  | called written' isOpen relays =>
    subst isOpen
    cases relays with
    | failed error =>
      cases failed
      rw [Sender.cause?_failure]
      simp
    | refused isSocket given refuses =>
      cases failed
      cases refuses.ofValue
    | partly goal other =>
      cases failed
      exact ⟨fun _ => .inr (List.cons_ne_nil _ _), fun _ => rfl⟩
    | _ => cases failed

/-- The task of a send does not run between its turns. -/
theorem rests (h : Sends codec socket closed parcel made status) : status.isRunning = false := by
  cases h with
  | unwritten | shut => rfl
  | called written isOpen relays => cases relays <;> rfl

/-- What others do to the task of a send. -/
theorem nudged (h : Sends codec socket closed parcel made status) {new : TaskStatus}
    (nudge : Nudge status new) : Sends codec socket closed parcel made new := by
  cases nudge with
  | same => exact h
  | wakes wait unclosing =>
    cases h with
    | called written isOpen relays =>
      cases relays with
      | waits goal => exact .called written isOpen (.woken goal .cancelled)
  | tells wait =>
    cases h with
    | called written isOpen relays =>
      cases relays with
      | waits goal => exact .called written isOpen (.woken goal .due)
  | marks wait wake =>
    cases h with
    | called written isOpen relays =>
      cases relays with
      | woken goal => exact .called written isOpen (.woken goal wake.cancel)
  | dooms | urges =>
    cases h with
    | called written isOpen relays => cases relays

end Sends

namespace Session

variable {given : Option Turn} {s t u : Session} {e : Endpoint} {id : TaskId} {place : Nat}
  {handle : HandleId} {parcel : Parcel} {codec : Codec} {socket closed : Bool}
  {made : List Dispatch} {status : TaskStatus}

section Over

/-- Whether the endpoint is one over a socket of the network. -/
def isOverSocket (s : Session) : Bool := s.endpoint?.any Endpoint.isSocket

theorem isOverSocket_up (up : s.link = .up e) : s.isOverSocket = e.isSocket := by
  simp only [isOverSocket, endpoint?, up, Option.any_some]

theorem Aside.isOverSocket (h : Aside s t) (up : s.link = .up e) :
    t.isOverSocket = s.isOverSocket := by
  obtain ⟨inbox, up'⟩ := h.link e up
  rw [isOverSocket_up up, isOverSocket_up up']
  rfl

/-- What an endpoint is over stays the same. -/
theorem Change.isOverSocket (change : Change given s t) (fit : s.Fit) :
    t.isOverSocket = s.isOverSocket := by
  obtain ⟨e, up⟩ := fit.up
  have asked (receive : ReceiveId) : (s.cancelReceive receive).isOverSocket = s.isOverSocket :=
    (aside_cancelReceive s receive).isOverSocket up
  cases change with
  | inert same =>
    obtain ⟨e, e', up, up', alike⟩ := same.alike
    rw [isOverSocket_up up, isOverSocket_up up', alike.isSocket]
  | spend took stale => cases took; rfl
  | tell took blocked => cases took; rfl
  | drop took queued => cases took; rfl
  | start took queued => cases took; rfl
  | goOn took woken other => cases took; rfl
  | leave took woken => cases took; rfl
  | gain took woken there brought => cases took; rfl
  | lose took woken there brought => cases took; rfl
  | @join id r receive pull runs free receiver current =>
    exact (aside_watch (s.setReceiver fun r => { r with waiting := true }) receive id).isOverSocket
      (s := s.setReceiver _) up
  | stop closed' handle receiver current => exact asked _
  | halt runs other receiver current => exact asked _
  | @close id r receive outcome runs plain there isOpen receiver current =>
    let stopped := (s.cancelReceive receive).setReceiver fun r => { r with state := .idle none }
    obtain ⟨inbox, up'⟩ := (aside_cancelReceive s receive).link e up
    have same := (aside_watch stopped receive id).isOverSocket (s := stopped) up'
    exact same.trans (asked receive)
  | release there isOpen counted settled =>
    rcases releaseHandle_cases up isOpen counted with ⟨-, same⟩ | ⟨-, same⟩
    · rw [same, isOverSocket_up up]
      rfl
    · rw [same]
      rfl
  | overdrawn there isOpen counted => exact (fit.not_overdrawn there isOpen counted).elim
  | @block id w runs fits =>
    rw [awaitWritable_up up, isOverSocket_up up]
    change (e.awaitWritable id).isSocket = e.isSocket
    unfold Endpoint.awaitWritable
    split <;> rfl
  | writable up' watched =>
    cases up.symm.trans up'
    exact (isOverSocket_up up).symm
  | shut other =>
    rw [closeEndpoint_up up, isOverSocket_up up]
    rfl
  | waken up' first =>
    cases up.symm.trans up'
    exact (isOverSocket_up up).symm
  | @wait id found there looks =>
    have here : (s.setReceive id .waiting).link = .up e := up
    rw [setInbox_onto here, isOverSocket_up up]
    rfl
  | unwrite up' blocked asked =>
    cases up.symm.trans up'
    exact (isOverSocket_up up).symm
  | urge blocked requested => exact asked _
  | _ => rfl

end Over

section Calling

/-- A call of the endpoint as a send sees it. -/
def relayed (address : Option Value) (size : Nat) (p : Session × Progress) : Session × Progress :=
  (p.1, p.2.relayed address size)

private theorem write_packet (s : Session) (id : TaskId) (data : Bytes)
    (goal address : Option Value) :
    s.write id ⟨data, goal, .packet address⟩ =
      relayed address data.length (s.write id ⟨data, goal, .count⟩) := by
  rw [write, write]
  rcases s.onEndpoint (Endpoint.attempt data goal) with ⟨t, answer⟩
  cases answer with
  | error fault => rfl
  | ok attempt => cases attempt <;> rfl

private theorem startWrite_packet (s : Session) (id : TaskId) (data : Bytes)
    (address : Option Value) :
    s.startWrite id data address (.packet address) =
      relayed address data.length (s.startWrite id data address .count) := by
  cases address with
  | none => exact s.write_packet id data none none
  | some target =>
    rw [startWrite, startWrite]
    rcases s.onEndpoint (Endpoint.target target) with ⟨t, answer⟩
    cases answer with
    | error fault => rfl
    | ok goal => exact t.write_packet id data (some goal) (some target)

private theorem resumeWrite_packet (s : Session) (id : TaskId) (data : Bytes)
    (goal address : Option Value) (wake : Wake) :
    s.resumeWrite id ⟨data, goal, .packet address⟩ wake =
      relayed address data.length (s.resumeWrite id ⟨data, goal, .count⟩ wake) := by
  rw [resumeWrite, resumeWrite]
  cases wake.isCancelled with
  | true => rfl
  | false => exact s.write_packet id data goal address

/-- A send is refused before the endpoint is called, or it calls it once, with all bytes. -/
theorem send_packet (s : Session) (id : TaskId) (handle : HandleId) (parcel : Parcel) :
    s.send id handle parcel (.packet parcel.address) =
      match Sender.data s.codec parcel.packet with
      | .error fault => (s, .finished (.fault fault))
      | .ok data =>
        if s.isHandleClosed handle then (s, .finished (.fault (.transport .senderClosed)))
        else relayed parcel.address data.length (s.startWrite id data parcel.address .count) := by
  rw [send]
  cases Sender.data s.codec parcel.packet with
  | error fault => rfl
  | ok data =>
    simp only [startWrite_packet]
    rfl

private theorem dispatched_same (same : t.network.sent = s.network.sent) : s.dispatched t = [] := by
  rw [dispatched, same, List.drop_length]
  rfl

private theorem dispatched_one {data : Bytes} {goal : Value}
    (more : t.network.sent = s.network.sent ++ [(data, goal)]) :
    s.dispatched t = [⟨data, goal, data.length - s.network.shortBy⟩] := by
  rw [dispatched, more, List.drop_left]
  rfl

/-- What a task does in a turn with the endpoint alone, with what is said of what it hands over and
of what it comes to. -/
structure Reaches (story : List Dispatch → TaskStatus → Prop) (s : Session)
    (p : Session × Progress) : Prop where
  onto : ∃ e, p.1 = s.onto e
  holds : story (s.dispatched p.1) p.2.status

private theorem reaches_write (up : s.link = .up e) (socket : Bool) (id : TaskId) (data : Bytes)
    (goal address : Option Value) :
    Reaches (Relays socket address data) s (s.write id ⟨data, goal, .packet address⟩) := by
  have tries := Endpoint.attempt_tries data goal e
  have raises := (Endpoint.within_attempt data goal e).2
  rw [write, onEndpoint_up up]
  rcases found : (Endpoint.attempt data goal).run.run e with ⟨answer, e'⟩
  rw [found] at tries raises
  have same (e'' : Endpoint) (sent : e''.network.sent = e.network.sent) :
      s.dispatched (s.onto e'') = [] :=
    dispatched_same (by rw [network_up up, network_up (s := s.onto e'') rfl, sent])
  cases tries with
  | fails calm still =>
    obtain ⟨error⟩ := raises _ rfl
    refine ⟨⟨e', rfl⟩, ?_⟩
    change Relays socket address data (s.dispatched (s.onto e')) _
    rw [same e' still.sent]
    exact .failed error
  | stalls isOpen still =>
    have waiting : (s.onto e').awaitWritable id = s.onto (e'.awaitWritable id) :=
      awaitWritable_up rfl id
    refine ⟨⟨e'.awaitWritable id, waiting⟩, ?_⟩
    change Relays socket address data (s.dispatched ((s.onto e').awaitWritable id)) _
    rw [waiting, same _ (by rw [Endpoint.network_awaitWritable, still.sent])]
    exact .waits goal
  | sends goal' alike sent =>
    refine ⟨⟨e', rfl⟩, ?_⟩
    have one : s.dispatched (s.onto e') = [⟨data, goal', data.length - e.network.shortBy⟩] := by
      rw [← network_up up] at sent ⊢
      exact dispatched_one sent
    change Relays socket address data (s.dispatched (s.onto e'))
      (.finished (.ofAnswer _ (Sender.conclude address data.length
        (.ok (data.length - e.network.shortBy)))))
    rw [one, Sender.conclude]
    split
    · next whole =>
      rw [whole]
      exact .sent goal'
    · next other => exact .partly goal' other

private theorem reaches_startWrite (up : s.link = .up e) (id : TaskId) (data : Bytes)
    (address : Option Value) :
    Reaches (Relays e.isSocket address data) s
      (s.startWrite id data address (.packet address)) := by
  cases address with
  | none => exact reaches_write up _ id data none none
  | some target =>
    have still := (Endpoint.still_target target e).1
    rw [startWrite, onEndpoint_up up]
    rcases found : (Endpoint.target target).run.run e with ⟨answer, e'⟩
    rw [found] at still
    have shortBy : (s.onto e').network.shortBy = s.network.shortBy := by
      rw [network_up up, network_up (s := s.onto e') rfl, still.shortBy]
    have sent : (s.onto e').network.sent = s.network.sent := by
      rw [network_up up, network_up (s := s.onto e') rfl, still.sent]
    cases answer with
    | ok goal =>
      obtain ⟨⟨e'', onto⟩, holds⟩ :=
        reaches_write (s := s.onto e') rfl e.isSocket id data (some goal) (some target)
      refine ⟨⟨e'', onto⟩, ?_⟩
      rw [dispatched, shortBy, sent] at holds
      exact holds
    | error fault =>
      refine ⟨⟨e', rfl⟩, ?_⟩
      change Relays e.isSocket (some target) data (s.dispatched (s.onto e')) _
      rw [dispatched_same sent]
      have failed : ((Endpoint.target target).run.run e).1 = .error fault := by rw [found]
      rcases Endpoint.fault_of_target failed with os | ⟨isSocket, refuses⟩
      · obtain ⟨error⟩ := os
        exact .failed error
      · have stays := refuses.ofValue.wrapOs (Sender.failure (some target))
        change Relays e.isSocket (some target) data []
          (.finished (.fault (fault.wrapOs (Sender.failure (some target)))))
        rw [stays]
        exact .refused isSocket rfl refuses

theorem onto_self (up : s.link = .up e) : s.onto e = s := by
  obtain ⟨layer, codec, settings, link, buffers, handed, receives, receiver, references, handles,
    tasks, ready, finished, warnings⟩ := s
  cases up
  rfl

private theorem reaches_self (up : s.link = .up e) {story : List Dispatch → TaskStatus → Prop}
    {progress : Progress} (holds : story [] progress.status) : Reaches story s (s, progress) := by
  refine ⟨⟨e, (onto_self up).symm⟩, ?_⟩
  change story (s.dispatched s) progress.status
  rw [dispatched_same rfl]
  exact holds

private theorem reaches_resumeWrite (up : s.link = .up e) (socket : Bool) (id : TaskId)
    (data : Bytes) (goal address : Option Value) (wake : Wake) :
    Reaches (Relays socket address data) s
      (s.resumeWrite id ⟨data, goal, .packet address⟩ wake) := by
  rw [resumeWrite]
  cases wake.isCancelled with
  | true => exact reaches_self up .cancelled
  | false => exact reaches_write up socket id data goal address

private theorem reaches_send (up : s.link = .up e) (id : TaskId) (handle : HandleId)
    (parcel : Parcel) :
    Reaches (Sends s.codec e.isSocket (s.isHandleClosed handle) parcel) s
      (s.send id handle parcel (.packet parcel.address)) := by
  rw [send]
  cases written : Sender.data s.codec parcel.packet with
  | error fault => exact reaches_self up (.unwritten written)
  | ok data =>
    cases closed : s.isHandleClosed handle with
    | true => exact reaches_self up (.shut written rfl)
    | false =>
      obtain ⟨onto, relays⟩ := reaches_startWrite up id data parcel.address
      exact ⟨onto, .called written rfl relays⟩

end Calling

section Turns

/-- A session after a turn, and the calls that are still to come. -/
theorem Calls.tail {after : List Choice} (calls : Calls s.layer (.turn place :: after))
    (fit : s.Fit) : (s.turnAt place).Fit ∧ Calls (s.turnAt place).layer after := by
  obtain ⟨fit', layer⟩ := turnAt_fit fit place
  exact ⟨fit', layer ▸ calls.head.2⟩

/-- No handle and no reference is touched, and later sends come as far as they would have come
before, when the endpoint's answers are what they would have been. -/
structure Spares (s t : Session) : Prop where
  handles : t.handles = s.handles
  references : t.references = s.references
  later : ∀ (id : TaskId) (handle : HandleId) (parcel : Parcel),
    (∀ data, (t.startWrite id data parcel.address .count).2 =
      (s.startWrite id data parcel.address .count).2) →
    (t.send id handle parcel (.packet parcel.address)).2 =
      (s.send id handle parcel (.packet parcel.address)).2

theorem Spares.intro (handles : t.handles = s.handles) (references : t.references = s.references)
    (codec : t.codec = s.codec) : Spares s t := by
  refine ⟨handles, references, fun id handle parcel answers => ?_⟩
  have closed : t.isHandleClosed handle = s.isHandleClosed handle := by
    rw [isHandleClosed, isHandleClosed, handles]
  rw [send_packet, send_packet, codec, closed]
  cases Sender.data s.codec parcel.packet with
  | error fault => rfl
  | ok data =>
    cases s.isHandleClosed handle with
    | true => rfl
    | false =>
      change (t.startWrite id data parcel.address .count).2.relayed _ _ =
        (s.startWrite id data parcel.address .count).2.relayed _ _
      rw [answers data]

/-- How far a write comes when it is tried is decided by the endpoint alone. -/
theorem write_congr (up : s.link = .up e) (up' : t.link = .up e) (id : TaskId) (data : Bytes)
    (goal : Option Value) :
    (t.write id ⟨data, goal, .count⟩).2 = (s.write id ⟨data, goal, .count⟩).2 := by
  rw [write, write, onEndpoint_up up, onEndpoint_up up']
  rcases (Endpoint.attempt data goal).run.run e with ⟨answer, e'⟩
  cases answer with
  | error fault => rfl
  | ok attempt => cases attempt <;> rfl

private theorem startWrite_congr (up : s.link = .up e) (up' : t.link = .up e) (id : TaskId)
    (data : Bytes) (address : Option Value) :
    (t.startWrite id data address .count).2 = (s.startWrite id data address .count).2 := by
  cases address with
  | none => exact write_congr up up' id data none
  | some target =>
    rw [startWrite, startWrite, onEndpoint_up up, onEndpoint_up up']
    rcases (Endpoint.target target).run.run e with ⟨answer, e'⟩
    cases answer with
    | error fault => rfl
    | ok goal => exact write_congr (s := s.onto e') (t := t.onto e') rfl rfl id data (some goal)

private theorem network_congr (link : t.link = s.link) : t.network = s.network := by
  rw [network, network, link]

theorem Reaches.settle {story : List Dispatch → TaskStatus → Prop} {p : Session × Progress}
    (reaches : Reaches story (s.begun place id) p) (inside : id < s.statuses.length) :
    ∃ status, (p.1.settle id p.2).statuses[id]? = some status ∧
      story (s.dispatched (p.1.settle id p.2)) status ∧ Spares s (p.1.settle id p.2) := by
  obtain ⟨⟨e, onto⟩, holds⟩ := reaches
  obtain ⟨-, handles, references, codec⟩ := settle_stays p.1 id p.2
  have runs : p.1.statuses[id]? = some (.running false) := by
    rw [onto]
    exact statuses_begun place inside
  refine ⟨p.2.status, status_settle runs p.2, ?_, ?_⟩
  · rw [dispatched, network_congr (link_settle p.1 id p.2)]
    exact holds
  · rw [onto] at handles references codec
    rw [onto]
    exact .intro handles references codec

/-- The first turn of the task of a send. -/
theorem turnAt_send (up : s.link = .up e) (first : s.ready[place]? = some (.resume id))
    {name : Text} (queued : s.statuses[id]? = some (.queued (.send name (.ok parcel)) false))
    (known : s.handleId? name = some handle) :
    s.turnAt place =
      let p := (s.begun place id).send id handle parcel (.packet parcel.address)
      p.1.settle id p.2 := by
  have performed : (s.begun place id).perform id (.send name (.ok parcel)) =
      (s.begun place id).send id handle parcel (.packet parcel.address) := by
    have known : (s.begun place id).handleId? name = some handle := known
    simp only [perform, withHandle, known]
  rw [turnAt_queued up first queued, performed]

/-- In its first turn a send is refused and changes nothing else, or it calls the endpoint. -/
theorem turnAt_send_eq (up : s.link = .up e) (first : s.ready[place]? = some (.resume id))
    {name : Text} (queued : s.statuses[id]? = some (.queued (.send name (.ok parcel)) false))
    (known : s.handleId? name = some handle) :
    s.turnAt place = match Sender.data s.codec parcel.packet with
      | .error fault => { s with ready := s.ready.eraseIdx place }.finish id (.fault fault)
      | .ok data =>
        if s.isHandleClosed handle then
          { s with ready := s.ready.eraseIdx place }.finish id (.fault (.transport .senderClosed))
        else
          let p := relayed parcel.address data.length
            ((s.begun place id).startWrite id data parcel.address .count)
          p.1.settle id p.2 := by
  have runs := statuses_begun place (List.getElem?_eq_some_iff.mp queued).1
  have ends (outcome : Outcome) : (s.begun place id).settle id (.finished outcome) =
      { s with ready := s.ready.eraseIdx place }.finish id outcome :=
    (settle_finished runs outcome).trans (finish_setStatus _ id _ outcome)
  have codec : (s.begun place id).codec = s.codec := rfl
  have closed : (s.begun place id).isHandleClosed handle = s.isHandleClosed handle := rfl
  rw [turnAt_send up first queued known, send_packet, codec, closed]
  cases Sender.data s.codec parcel.packet with
  | error fault => exact ends _
  | ok data =>
    cases s.isHandleClosed handle with
    | true => exact ends _
    | false => rfl

/-- A send that is to be given its first turn. -/
structure IsDue (s : Session) (place : Nat) (id : TaskId) (name : Text) (parcel : Parcel) :
    Prop where
  first : s.ready[place]? = some (.resume id)
  queued : s.statuses[id]? = some (.queued (.send name (.ok parcel)) false)

/-- Every send that is due in both sessions comes to the same in its first turn, when the endpoint
gives it the same answers. -/
def SendsAlike (s t : Session) : Prop :=
  ∀ (place place' : Nat) (id : TaskId) (name : Text) (parcel : Parcel),
    s.IsDue place id name parcel → t.IsDue place' id name parcel →
    (∀ data, (t.startWrite id data parcel.address .count).2 =
      (s.startWrite id data parcel.address .count).2) →
    (t.turnAt place').statuses[id]? = (s.turnAt place).statuses[id]?

/-- What a send comes to in its first turn. -/
theorem IsDue.comes {name : Text} (due : s.IsDue place id name parcel) (up : s.link = .up e) :
    (s.turnAt place).statuses[id]? = some (match s.handleId? name with
      | some handle => (s.send id handle parcel (.packet parcel.address)).2.status
      | none => .finished (.fault (.unknownKey (.text name)))) := by
  have inside := (List.getElem?_eq_some_iff.mp due.queued).1
  rw [turnAt_queued up due.first due.queued]
  have known : (s.begun place id).handleId? name = s.handleId? name := rfl
  simp only [perform, withHandle, known]
  cases s.handleId? name with
  | none => exact status_settle (statuses_begun place inside) _
  | some handle =>
    obtain ⟨⟨e', onto⟩, -⟩ := reaches_send (s := s.begun place id) up id handle parcel
    have runs : ((s.begun place id).send id handle parcel
        (.packet parcel.address)).1.statuses[id]? = some (.running false) := by
      rw [onto]
      exact statuses_begun place inside
    have same : Spares s (s.begun place id) := .intro rfl rfl rfl
    have progress := same.later id handle parcel fun data =>
      startWrite_congr (t := s.begun place id) up up id data parcel.address
    exact (status_settle runs _).trans (by rw [progress])

theorem Spares.sendsAlike (spares : Spares s t) (up : s.link = .up e) {e' : Endpoint}
    (up' : t.link = .up e') : s.SendsAlike t := by
  intro place place' id name parcel due due' answers
  have known : t.handleId? name = s.handleId? name := by
    rw [handleId?, handleId?, spares.handles]
  rw [due.comes up, due'.comes up', known]
  cases s.handleId? name with
  | none => rfl
  | some handle =>
    simp only [spares.later id handle parcel answers]

theorem Spares.turnAt_sendsAlike (spares : Spares s (s.turnAt place)) (fit : s.Fit) :
    s.SendsAlike (s.turnAt place) := by
  obtain ⟨e, up⟩ := fit.up
  obtain ⟨e', up'⟩ := (turnAt_fit fit place).1.up
  exact spares.sendsAlike up up'

/-- A later turn of the task of a send. -/
theorem turnAt_writing (first : s.ready[place]? = some (.resume id)) {data : Bytes}
    {goal address : Option Value} {wake : Wake}
    (woken : s.statuses[id]? = some (.woken (.writing ⟨data, goal, .packet address⟩) wake)) :
    s.turnAt place =
      let p := (s.begun place id).resumeWrite id ⟨data, goal, .packet address⟩ wake
      p.1.settle id p.2 := turnAt_woken first woken

/-- In a turn of its task a send goes on. -/
theorem sends_turnAt (h : Sends codec socket closed parcel made status) (up : s.link = .up e)
    (found : s.statuses[id]? = some status) (first : s.ready[place]? = some (.resume id)) :
    ∃ status, (s.turnAt place).statuses[id]? = some status ∧
      Sends codec socket closed parcel (made ++ s.dispatched (s.turnAt place)) status ∧
      Spares s (s.turnAt place) := by
  have rests (asleep : status.isAwake = false) :
      ∃ status, (s.turnAt place).statuses[id]? = some status ∧
        Sends codec socket closed parcel (made ++ s.dispatched (s.turnAt place)) status ∧
        Spares s (s.turnAt place) := by
    let rested := { s with ready := s.ready.eraseIdx place }
    have nothing : s.dispatched rested = [] := dispatched_same rfl
    rw [turnAt_asleep first found asleep, nothing, List.append_nil]
    exact ⟨status, found, h, .intro rfl rfl rfl⟩
  cases h with
  | unwritten failed => exact rests rfl
  | shut written isClosed => exact rests rfl
  | @called data written isOpen made status relays =>
    cases relays with
    | woken goal wake =>
      have reaches := reaches_resumeWrite (s := s.begun place id) up socket id data goal
        parcel.address wake
      obtain ⟨status, now, relays, spares⟩ :=
        reaches.settle (List.getElem?_eq_some_iff.mp found).1
      rw [turnAt_writing first found]
      exact ⟨status, now, .called written isOpen relays, spares⟩
    | _ => exact rests rfl

/-- Whoever is given a turn, a send stays one. -/
theorem sends_choose (h : Sends codec socket closed parcel made status) (fit : s.Fit)
    (found : s.statuses[id]? = some status) {choice : Choice} (calls : Calls s.layer [choice]) :
    ∃ status, (s.choose choice).statuses[id]? = some status ∧
      Sends codec socket closed parcel (made ++ s.dispatchedBy id choice) status ∧
      (s.given? choice = some (.resume id) → Spares s (s.choose choice)) := by
  by_cases own : s.given? choice = some (.resume id)
  · cases choice with
    | spawn name action => cases own
    | turn place =>
      obtain ⟨e, up⟩ := fit.up
      obtain ⟨status, now, sends, spares⟩ := sends_turnAt h up found own
      rw [dispatchedBy, if_pos own]
      exact ⟨status, now, sends, fun _ => spares⟩
  · obtain ⟨status, now, sends⟩ := choose_other
      (fun _ sends => sends.rests) (fun _ _ nudge sends => sends.nudged nudge) fit calls own found h
    rw [dispatchedBy, if_neg own, List.append_nil]
    exact ⟨status, now, sends, fun turn => absurd turn own⟩

theorem sends_schedule {choices : List Choice} (h : Sends codec socket closed parcel made status)
    (fit : s.Fit) (found : s.statuses[id]? = some status) (calls : Calls s.layer choices) :
    ∃ status, (s.schedule choices).statuses[id]? = some status ∧
      Sends codec socket closed parcel (made ++ s.dispatches id choices) status := by
  induction choices generalizing s made status with
  | nil => exact ⟨status, found, by rwa [dispatches, List.append_nil]⟩
  | cons choice rest ih =>
    obtain ⟨first, later⟩ := calls.head
    obtain ⟨status', now, sends, -⟩ := sends_choose h fit found first
    obtain ⟨fit', layer⟩ : (s.choose choice).Fit ∧ (s.choose choice).layer = s.layer :=
      schedule_fit fit first
    rw [dispatches, ← List.append_assoc]
    exact ih sends fit' now (layer ▸ later)

/-- In its first turn a task is made one of a send. -/
theorem sends_begin (up : s.link = .up e) (first : s.ready[place]? = some (.resume id))
    {name : Text} (queued : s.statuses[id]? = some (.queued (.send name (.ok parcel)) false))
    (known : s.handleId? name = some handle) :
    ∃ status, (s.turnAt place).statuses[id]? = some status ∧
      Sends s.codec e.isSocket (s.isHandleClosed handle) parcel
        (s.dispatchedBy id (.turn place)) status ∧
      Spares s (s.turnAt place) := by
  have reaches := reaches_send (s := s.begun place id) up id handle parcel
  have own : s.given? (.turn place) = some (.resume id) := first
  have begins := turnAt_send up first queued known
  have made : s.dispatchedBy id (.turn place) = s.dispatched (s.turnAt place) := if_pos own
  rw [made, begins]
  exact reaches.settle (List.getElem?_eq_some_iff.mp queued).1

/-- The send of a task from its first turn on. -/
theorem sends_run {after : List Choice} (fit : s.Fit) (up : s.link = .up e)
    (calls : Calls s.layer (.turn place :: after)) (first : s.ready[place]? = some (.resume id))
    {name : Text} (queued : s.statuses[id]? = some (.queued (.send name (.ok parcel)) false))
    (known : s.handleId? name = some handle) :
    ∃ status, (s.schedule (.turn place :: after)).statuses[id]? = some status ∧
      Sends s.codec e.isSocket (s.isHandleClosed handle) parcel
        (s.dispatches id (.turn place :: after)) status := by
  obtain ⟨status, now, sends, -⟩ := sends_begin up first queued known
  obtain ⟨fit', others⟩ := calls.tail fit
  exact sends_schedule sends fit' now others

/-- A later turn of the task of a send spares the handles, and goes on with the call. -/
theorem sends_spares {before : List Choice} (h : Sends codec socket closed parcel made status)
    (fit : s.Fit) (found : s.statuses[id]? = some status) (calls : Calls s.layer before)
    (told : (s.schedule before).ready[place]? = some (.resume id)) :
    let u := s.schedule before
    Spares u (u.turnAt place) ∧ u.SendsAlike (u.turnAt place) ∧
      ∀ (data : Bytes) (goal : Option Value) (wake : Wake),
        u.statuses[id]? = some (.woken (.writing ⟨data, goal, .packet parcel.address⟩) wake) →
        u.turnAt place =
          let p := relayed parcel.address data.length
            ((u.begun place id).resumeWrite id ⟨data, goal, .count⟩ wake)
          p.1.settle id p.2 := by
  intro u
  obtain ⟨status, now, sends⟩ := sends_schedule h fit found calls
  obtain ⟨fit', -⟩ := schedule_fit fit calls
  obtain ⟨e, up⟩ := fit'.up
  obtain ⟨-, -, -, spares⟩ := sends_turnAt sends up now told
  refine ⟨spares, spares.turnAt_sendsAlike fit', fun data goal wake woken => ?_⟩
  rw [turnAt_writing told woken, resumeWrite_packet]

end Turns

/-- A socket in the course of a run has the codec and the kind of endpoint that it was made with. -/
theorem schedule_made {settings : Settings} {limit : Int} {choices : List Choice}
    (calm : codec.IsCalm) (waiting : e.network.inbox.waiting = []) (calls : Calls .socket choices) :
    let s := (fresh .socket codec settings e limit).schedule choices
    s.Fit ∧ s.layer = .socket ∧ s.codec = codec ∧ s.isOverSocket = e.isSocket :=
  schedule_keep (P := fun s => s.layer = .socket ∧ s.codec = codec ∧ s.isOverSocket = e.isSocket)
    (fun _ _ _ change fit h => ⟨(change.layer fit).trans h.1, (change.built fit).codec.trans h.2.1,
      (change.isOverSocket fit).trans h.2.2⟩)
    (Fit.start calm waiting) calls ⟨rfl, rfl, rfl⟩

/-- The send of a parcel through a handle of a socket, in every run. It returns when its packet was
converted and written, its handle was open and all bytes were counted, and ends with a fault or
cancelled otherwise. Nothing else is handed over for it than these bytes, once. In its first turn
it is refused without the endpoint, which changes nothing else, or it calls the endpoint, and in
later turns it goes on with that call. In no turn does it touch a handle or a reference, and a send
that is due comes to the same after it as before it, when the endpoint gives it the same answers. -/
theorem sends_whole_or_fail {codec : Codec} {settings : Settings} {earlier : Except Fault Settings}
    {hosts : Hosts} {start : Session} {before after : List Choice} {name : Text}
    (calm : codec.IsCalm) (unused : IsFresh e)
    (built : (bare .socket codec earlier hosts).attach settings e = .ok start)
    (calls : Calls .socket (before ++ .turn place :: after))
    (turn : (start.schedule before).ready[place]? = some (.resume id))
    (queued : (start.schedule before).statuses[id]? =
      some (.queued (.send name (.ok parcel)) false))
    (known : (start.schedule before).handleId? name = some handle) :
    let s := start.schedule before
    let closed := s.isHandleClosed handle
    let made := s.dispatches id (.turn place :: after)
    (∃ status, (s.schedule (.turn place :: after)).statuses[id]? = some status ∧
      Sends codec e.isSocket closed parcel made status ∧
      (status = .finished (.value .nothing) ↔ ∃ data goal,
        Sender.data codec parcel.packet = .ok data ∧ closed = false ∧
          made = [⟨data, goal, data.length⟩]) ∧
      ∀ data fault, Sender.data codec parcel.packet = .ok data →
        status = .finished (.fault (.transport fault)) →
          (fault.cause? = none ↔ closed = true ∨ made ≠ [])) ∧
    (s.turnAt place = match Sender.data codec parcel.packet with
      | .error fault => { s with ready := s.ready.eraseIdx place }.finish id (.fault fault)
      | .ok data =>
        if closed then
          { s with ready := s.ready.eraseIdx place }.finish id (.fault (.transport .senderClosed))
        else
          let p := relayed parcel.address data.length
            ((s.begun place id).startWrite id data parcel.address .count)
          p.1.settle id p.2) ∧
    ∀ (first rest : List Choice) (later : Nat),
      .turn place :: after = first ++ .turn later :: rest →
        let u := s.schedule first
        u.ready[later]? = some (.resume id) → Spares u (u.turnAt later) ∧
          u.SendsAlike (u.turnAt later) ∧
          ∀ (data : Bytes) (goal : Option Value) (wake : Wake),
            u.statuses[id]? = some (.woken (.writing ⟨data, goal, .packet parcel.address⟩) wake) →
            u.turnAt later =
              let p := relayed parcel.address data.length
                ((u.begun later id).resumeWrite id ⟨data, goal, .count⟩ wake)
              p.1.settle id p.2 := by
  intro s closed made
  obtain ⟨limit, -, rfl⟩ := exists_fresh rfl built
  obtain ⟨first, second⟩ := calls_append.mp calls
  obtain ⟨fit, layer, same, kept⟩ := schedule_made calm unused.waiting first
  change s.Fit at fit
  change s.layer = .socket at layer
  change s.codec = codec at same
  obtain ⟨e', up⟩ := fit.up
  have isSocket : e'.isSocket = e.isSocket := (isOverSocket_up (s := s) up).symm.trans kept
  have calls : Calls s.layer (.turn place :: after) := layer ▸ second
  refine ⟨?_, ?_, ?_⟩
  · obtain ⟨status, now, sends⟩ := sends_run fit up calls turn queued known
    rw [isSocket, same] at sends
    refine ⟨status, now, sends, sends.returned_iff, fun data fault written => ?_⟩
    exact sends.cause?_eq_none_iff written
  · rw [← same]
    exact turnAt_send_eq up turn queued known
  · intro before rest later parts u told
    obtain ⟨status, now, sends, spares⟩ := sends_begin up turn queued known
    obtain ⟨fit', others⟩ := calls.tail fit
    cases before with
    | nil =>
      cases parts
      refine ⟨spares, spares.turnAt_sendsAlike fit, fun data goal wake woken => ?_⟩
      cases queued.symm.trans woken
    | cons choice before =>
      obtain ⟨rfl, rfl⟩ := List.cons.inj parts
      exact sends_spares (s := s.turnAt place) sends fit' now (calls_append.mp others).1 told

/-- Counts are too small by one. -/
def shortNetwork : Network := { Network.quiet [] with shortBy := 1 }

def shortSocket : Session := fresh .socket .osc .default (.inMemory shortNetwork) 65536

/-- An address without arguments, to be sent to another address. -/
def bareAddress : Parcel := ⟨.tuple [.text (Text.ofString "/a"), .list []], some (.int 7)⟩

/-- The address is sent by two tasks. -/
def shortSends : List Choice := [
  .spawn (Text.ofString "a") (.send socketName (.ok bareAddress)),
  .spawn (Text.ofString "b") (.send socketName (.ok bareAddress))]

/-- The first send fails, and the second comes to the same as if it came first. -/
theorem sends_whole_or_fail_shortSends :
    let s := shortSocket.schedule shortSends
    let data : Bytes := [47, 97, 0, 0, 44, 0, 0, 0]
    Calls .socket (shortSends ++ [.turn 0]) ∧ Sender.data .osc bareAddress.packet = .ok data ∧
      s.dispatches 0 [.turn 0] = [⟨data, .int 7, 7⟩] ∧
      (s.turnAt 0).statuses[0]? = some (.finished (.fault (.transport (.partlySent 7 8)))) ∧
      (TransportFault.partlySent 7 8).cause? = none ∧ Spares s (s.turnAt 0) ∧
      ((s.turnAt 0).turnAt 0).statuses[1]? = (s.turnAt 1).statuses[1]? := by
  intro s data
  have unused : IsFresh (.inMemory shortNetwork) := ⟨rfl, rfl, rfl, rfl⟩
  have calls : Calls .socket (shortSends ++ [.turn 0]) := by decide
  have built : (bare .socket .osc (.ok .default) []).attach .default (.inMemory shortNetwork) =
      .ok shortSocket := rfl
  have written : Sender.data .osc bareAddress.packet = .ok data := rfl
  have turn : s.ready[0]? = some (.resume 0) := rfl
  have queued : s.statuses[0]? = some (.queued (.send socketName (.ok bareAddress)) false) := rfl
  have known : s.handleId? socketName = some 0 := rfl
  have made : s.dispatches 0 [.turn 0] = [⟨data, .int 7, 7⟩] := rfl
  obtain ⟨⟨status, now, sends, -, blamed⟩, -, turns⟩ :=
    sends_whole_or_fail Codec.osc_isCalm unused built calls turn queued known
  obtain ⟨spares, alike, -⟩ := turns [] [] 0 rfl turn
  have status_eq : status = .finished (.fault (.transport (.partlySent 7 8))) := by
    change Sends .osc _ _ bareAddress (s.dispatches 0 [.turn 0]) status at sends
    rw [made] at sends
    cases sends with
    | called written' isOpen relays =>
      cases relays with
      | partly goal other => rfl
  have cause := (blamed data _ written status_eq).mpr (.inr (made ▸ List.cons_ne_nil _ _))
  have due : s.IsDue 1 1 socketName bareAddress := ⟨rfl, rfl⟩
  have due' : (s.turnAt 0).IsDue 0 1 socketName bareAddress := ⟨rfl, rfl⟩
  have second := alike 1 0 1 socketName bareAddress due due' fun data => rfl
  exact ⟨calls, written, made, status_eq ▸ now, cause, spares, second⟩

end Session

end Osc
