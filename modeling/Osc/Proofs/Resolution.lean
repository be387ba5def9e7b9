import Osc.Proofs.Sending

/-!
Addresses that are texts, at an endpoint over a socket of the network. A text is an address when it
can be cut into a host and a port. A call that is given another one ends at once with a fault of
that value, which is none of transport; a call that is given an address returns, is cancelled, or
ends with a fault of transport, whatever the resolver and the socket do.
-/

namespace Osc

/-- How a call may end that is given an address: it returns, it is cancelled, or transport fails. -/
inductive Outcome.IsOrderly : Outcome → Prop where
  | returned : IsOrderly (.value .nothing)
  | cancelled : IsOrderly .cancelled
  | failed (fault : TransportFault) : IsOrderly (.fault (.transport fault))

namespace Session

variable {s t : Session} {e : Endpoint} {id : TaskId} {place : Nat}

/-- A call of a socket that is given an address: it goes through an open handle, and what it sends
can be written. -/
inductive GivesAddress (s : Session) (address : Value) : Action → Prop where
  | connect (isOpen : s.isHandleClosed socketHandle = false) :
      GivesAddress s address (.connect address)
  | send {name : Text} {handle : HandleId} {packet : Value} {data : Bytes}
      (known : s.handleId? name = some handle) (isOpen : s.isHandleClosed handle = false)
      (written : Sender.data s.codec packet = .ok data) :
      GivesAddress s address (.send name (.ok ⟨packet, some address⟩))

theorem turnAt_connect (socket : s.layer = .socket) (up : s.link = .up e)
    (isOpen : s.isHandleClosed socketHandle = false)
    (first : s.ready[place]? = some (.resume id)) {address : Value}
    (queued : s.statuses[id]? = some (.queued (.connect address) false)) :
    s.turnAt place =
      ((s.begun place id).onto ((Endpoint.connect address).run.run e).2).finish id
        (.ofAnswer (fun _ => .nothing) (((Endpoint.connect address).run.run e).1.mapError
          (Fault.wrapOs (.connect address)))) := by
  let u := s.begun place id
  have up' : u.link = .up e := up
  have performed : u.perform id (.connect address) =
      answered (fun _ => .nothing) (u.onto ((Endpoint.connect address).run.run e).2,
        ((Endpoint.connect address).run.run e).1.mapError (Fault.wrapOs (.connect address))) := by
    have socket : u.layer = .socket := socket
    have isOpen : u.isHandleClosed socketHandle = false := isOpen
    simp only [perform, socket, if_true, onHandle, isOpen, Bool.false_eq_true, if_false,
      onEndpoint_up up']
  have runs : u.statuses[id]? = some (.running false) :=
    statuses_begun place (List.getElem?_eq_some_iff.mp queued).1
  rw [turnAt_queued up first queued, performed]
  exact settle_finished (s := u.onto _) runs _

/-- A call that is refused for its address does nothing else. -/
theorem turnAt_refuses (socket : s.layer = .socket) (up : s.link = .up e)
    (isSocket : e.isSocket = true) (first : s.ready[place]? = some (.resume id)) {address : Value}
    {action : Action} (queued : s.statuses[id]? = some (.queued action false))
    (gives : s.GivesAddress address action) {fault : Fault}
    (refuses : Address.Refuses address fault) :
    s.turnAt place = { s with ready := s.ready.eraseIdx place }.finish id (.fault fault) := by
  have ends (outcome : Outcome) : (s.begun place id).finish id outcome =
      { s with ready := s.ready.eraseIdx place }.finish id outcome :=
    finish_setStatus _ id _ outcome
  have same : (s.begun place id).onto e = s.begun place id := onto_self up
  have stays (wrap : OsError → TransportFault) : fault.wrapOs wrap = fault :=
    refuses.ofValue.wrapOs wrap
  cases gives with
  | connect isOpen =>
    rw [turnAt_connect socket up isOpen first queued, Endpoint.connect_refused isSocket refuses, same,
      ends]
    change Session.finish _ id (.fault (fault.wrapOs _)) = _
    rw [stays]
  | @send name handle packet data known isOpen written =>
    have asked : (s.begun place id).onEndpoint (Endpoint.target address) =
        (s.begun place id, .error fault) := by
      rw [onEndpoint_up (s := s.begun place id) up, Endpoint.target_refused isSocket refuses, same]
    have refused : relayed (some address) data.length
        ((s.begun place id).startWrite id data (some address) .count) =
        (s.begun place id, .finished (.fault fault)) := by
      rw [startWrite, asked]
      change (_, Progress.finished (.fault (fault.wrapOs _))) = _
      rw [stays]
      rfl
    rw [turnAt_send_eq up first queued known, written, isOpen]
    change (relayed (some address) data.length _).1.settle id (relayed _ _ _).2 = _
    rw [refused]
    exact (settle_finished (statuses_begun place (List.getElem?_eq_some_iff.mp queued).1) _).trans
      (ends _)

/-- Whoever is given turns later, a task that is over stays so. -/
theorem finished_schedule {choices : List Choice} (fit : s.Fit) (calls : Calls s.layer choices)
    {outcome : Outcome} (ended : s.statuses[id]? = some (.finished outcome)) :
    (s.schedule choices).statuses[id]? = some (.finished outcome) :=
  (schedule_keep (P := fun t => t.statuses[id]? = some (.finished outcome))
    (fun _ _ _ change fit ended => (change.passes fit).finished ended) fit calls ended).2

/-- A call to connect to an address ends orderly in its turn. -/
theorem turnAt_connects (socket : s.layer = .socket) (up : s.link = .up e)
    (isOpen : s.isHandleClosed socketHandle = false)
    (first : s.ready[place]? = some (.resume id)) {t : Text}
    (queued : s.statuses[id]? = some (.queued (.connect (.text t)) false)) {found : Text × Int}
    (split : Address.splitText t = .ok found) :
    ∃ outcome, (s.turnAt place).statuses[id]? = some (.finished outcome) ∧ outcome.IsOrderly := by
  have raises := (Endpoint.still_connect (.text t) e).2
  have inside : id < s.statuses.length := (List.getElem?_eq_some_iff.mp queued).1
  have runs (e' : Endpoint) : id < ((s.begun place id).onto e').statuses.length :=
    (List.getElem?_eq_some_iff.mp (statuses_begun place inside)).1
  rw [turnAt_connect socket up isOpen first queued]
  refine ⟨_, by rw [statuses_finish]; exact List.getElem?_set_self (runs _), ?_⟩
  cases answer : ((Endpoint.connect (.text t)).run.run e).1 with
  | ok done => exact .returned
  | error fault =>
    rcases raises fault answer with os | refuses
    · obtain ⟨error⟩ := os
      exact .failed _
    · cases split.symm.trans (Address.refuses_text.mp refuses)

private theorem isOrderly_sends {codec : Codec} {socket closed : Bool} {packet : Value} {t : Text}
    {found : Text × Int} (split : Address.splitText t = .ok found) {data : Bytes}
    (written : Sender.data codec packet = .ok data) {made : List Dispatch} {outcome : Outcome}
    (sends : Sends codec socket closed ⟨packet, some (.text t)⟩ made (.finished outcome)) :
    outcome.IsOrderly := by
  cases sends with
  | unwritten failed => cases written.symm.trans failed
  | shut written isClosed => exact .failed _
  | called written isOpen relays =>
    cases relays with
    | cancelled => exact .cancelled
    | failed error => exact .failed _
    | refused isSocket given refuses =>
      cases given
      cases split.symm.trans (Address.refuses_text.mp refuses)
    | sent goal => exact .returned
    | partly goal other => exact .failed _

/-- A call of a socket over the network that is given a text for an address, through an open handle
and with what can be written, in every run. When the text cannot be cut into a host and a port, the
call ends at once with the fault of the text's value, and does nothing else. Otherwise, whatever
the resolver and the socket answer, it ends orderly if it ends: it returns, it is cancelled, or its
fault is one of transport. A call to connect ends in its first turn. -/
theorem refused_or_orderly {codec : Codec} {settings : Settings} {earlier : Except Fault Settings}
    {hosts : Hosts} {start : Session} {before after : List Choice} {action : Action} {t : Text}
    (calm : codec.IsCalm) (unused : IsFresh e) (isSocket : e.isSocket = true)
    (built : (bare .socket codec earlier hosts).attach settings e = .ok start)
    (calls : Calls .socket (before ++ .turn place :: after))
    (turn : (start.schedule before).ready[place]? = some (.resume id))
    (queued : (start.schedule before).statuses[id]? = some (.queued action false))
    (gives : (start.schedule before).GivesAddress (.text t) action) :
    let s := start.schedule before
    let ended := (s.schedule (.turn place :: after)).statuses[id]?
    (∀ fault, Address.splitText t = .error fault →
      (∃ cause, fault = .value cause) ∧ ended = some (.finished (.fault fault)) ∧
        s.turnAt place = { s with ready := s.ready.eraseIdx place }.finish id (.fault fault)) ∧
    ∀ found, Address.splitText t = .ok found → ∃ status, ended = some status ∧
      (∀ outcome, status = .finished outcome → outcome.IsOrderly) ∧
      (action = .connect (.text t) → ∃ outcome, status = .finished outcome) := by
  intro s ended
  obtain ⟨limit, -, rfl⟩ := exists_fresh rfl built
  obtain ⟨first, second⟩ := calls_append.mp calls
  obtain ⟨fit, layer, same, kept⟩ := schedule_made calm unused.waiting first
  change s.Fit at fit
  change s.layer = .socket at layer
  obtain ⟨e', up⟩ := fit.up
  have isSocket' : e'.isSocket = true :=
    ((isOverSocket_up (s := s) up).symm.trans kept).trans isSocket
  have inside : id < s.statuses.length := (List.getElem?_eq_some_iff.mp queued).1
  have calls : Calls s.layer (.turn place :: after) := layer ▸ second
  obtain ⟨fit', others⟩ := calls.tail fit
  constructor
  · intro fault failed
    have refuses := Address.refuses_text.mpr failed
    have turned := turnAt_refuses layer up isSocket' turn queued gives refuses
    refine ⟨Address.value_of_splitText t fault failed, ?_, turned⟩
    refine finished_schedule fit' others ?_
    rw [turned, statuses_finish]
    exact List.getElem?_set_self inside
  · intro found split
    cases gives with
    | connect isOpen =>
      obtain ⟨outcome, now, orderly⟩ := turnAt_connects layer up isOpen turn queued split
      refine ⟨_, finished_schedule fit' others now, ?_, fun _ => ⟨outcome, rfl⟩⟩
      rintro outcome ⟨⟩
      exact orderly
    | send known isOpen written =>
      obtain ⟨status, now, sends⟩ := sends_run fit up calls turn queued known
      refine ⟨status, now, ?_, nofun⟩
      rintro outcome rfl
      exact isOrderly_sends split written sends

/-- The one host that has an address. -/
def localHosts : Hosts :=
  [(Text.ofString "127.0.0.1", .addresses [(2, Text.ofString "127.0.0.1")])]

def udpSocket : Session :=
  fresh .socket .osc .default (.ofSocket 2 (literal 9000) (.quiet localHosts)) 65536

def nonsense : Text := Text.ofString "nonsense"

def localText : Text := Text.ofString "127.0.0.1:9001"

/-- A packet for an address. -/
def addressed (address : Text) : Action :=
  .send socketName (.ok ⟨.tuple [.text (Text.ofString "/a"), .list []], some (.text address)⟩)

/-- A task connects to no address, and another sends to one. -/
def connectThenSend : List Choice := [
  .spawn (Text.ofString "c") (.connect (.text nonsense)),
  .spawn (Text.ofString "s") (addressed localText)]

theorem refused_or_orderly_connectThenSend :
    let s := udpSocket.schedule connectThenSend
    Calls .socket (connectThenSend ++ [.turn 0]) ∧ Calls .socket (connectThenSend ++ [.turn 1]) ∧
      Address.splitText nonsense = .error (.value (.notHostPort nonsense)) ∧
      (s.schedule [.turn 0]).statuses[0]? =
        some (.finished (.fault (.value (.notHostPort nonsense)))) ∧
      Address.splitText localText = .ok (Text.ofString "127.0.0.1", 9001) ∧
      ∃ status, (s.schedule [.turn 1]).statuses[1]? = some status ∧
        ∀ outcome, status = .finished outcome → outcome.IsOrderly := by
  intro s
  have unused : IsFresh (.ofSocket 2 (literal 9000) (.quiet localHosts)) := ⟨rfl, rfl, rfl, rfl⟩
  have built : (bare .socket .osc (.ok .default) []).attach .default
      (.ofSocket 2 (literal 9000) (.quiet localHosts)) = .ok udpSocket := rfl
  have first : Calls .socket (connectThenSend ++ [.turn 0]) := by decide
  have second : Calls .socket (connectThenSend ++ [.turn 1]) := by decide
  have refused : Address.splitText nonsense = .error (.value (.notHostPort nonsense)) := rfl
  have split : Address.splitText localText = .ok (Text.ofString "127.0.0.1", 9001) := rfl
  have connects : s.GivesAddress (.text nonsense) (.connect (.text nonsense)) := .connect rfl
  have sends : s.GivesAddress (.text localText) (addressed localText) :=
    .send (show s.handleId? socketName = some 0 from rfl) rfl
      (show Sender.data .osc _ = .ok [47, 97, 0, 0, 44, 0, 0, 0] from rfl)
  have turns : s.ready = [.resume 0, .resume 1] := rfl
  have connect : s.statuses[0]? = some (.queued (.connect (.text nonsense)) false) := rfl
  have send : s.statuses[1]? = some (.queued (addressed localText) false) := rfl
  obtain ⟨refuses, -⟩ := refused_or_orderly Codec.osc_isCalm unused rfl built first
    (show s.ready[0]? = _ from congrArg (·[0]?) turns) connect connects
  obtain ⟨-, goes⟩ := refused_or_orderly Codec.osc_isCalm unused rfl built second
    (show s.ready[1]? = _ from congrArg (·[1]?) turns) send sends
  obtain ⟨-, ended, -⟩ := refuses _ refused
  obtain ⟨status, now, orderly, -⟩ := goes _ split
  exact ⟨first, second, refused, ended, split, status, now, orderly⟩

/-- Neither a call to connect to what is no address nor a send to it ends with a fault of
transport, although the socket is open. -/
theorem nonsense_escapes :
    let calls : List Choice := [
      .spawn (Text.ofString "c") (.connect (.text nonsense)), .turn 0,
      .spawn (Text.ofString "s") (addressed nonsense), .turn 0]
    let s := udpSocket.schedule calls
    Calls .socket calls ∧ s.isOverSocket = true ∧ s.isHandleClosed socketHandle = false ∧
      s.tasks.map Task.outcome? = [some (.fault (.value (.notHostPort nonsense))),
        some (.fault (.value (.notHostPort nonsense)))] :=
  ⟨by decide, rfl, rfl, rfl⟩

end Session

end Osc
