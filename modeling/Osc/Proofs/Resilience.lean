import Osc.Proofs.Ending
import Osc.Proofs.Handles
import Osc.Proofs.Streams

/-!
Streams outlive what they receive. Whatever datagrams and failures arrive, the pulls of one
consumer get one item for each of them, in order; a warning is logged for just those that were
decoded without their end. A stream only ends when its endpoint is closed or its receiver is
stopped.
-/

namespace Osc

/-- The item of an arrival, at a given capacity. Only what fits is decoded, and what was cut
only when such datagrams are not rejected. -/
def Arrival.item (capacity : Value) (limit : Nat) (reject : Bool) : Arrival → Item
  | .failure error => .receiveFailed (.receive error)
  | .datagram data peer =>
    if limit < data.length ∧ reject = true then .cut capacity peer (data.take limit)
    else match Wire.decode (data.take limit) with
      | .ok packet => .received packet peer
      | .error fault => .decodeFailed fault peer (data.take limit)

/-- Whatever a datagram holds, reading it gives an item. -/
theorem Item.decode_osc (x : Datagram) :
    Item.decode .osc x = .ok (match Wire.decode x.data with
      | .ok packet => .received packet x.peer
      | .error fault => .decodeFailed fault x.peer x.data) := by
  have reads : Codec.osc.decode x.data = (Wire.decode x.data).mapError .decode := rfl
  rw [Item.decode, reads]
  cases Wire.decode x.data <;> rfl

/-- The warning for an arrival that is decoded without its end. -/
def Arrival.warning (limit : Nat) (reject : Bool) : Arrival → Option CutWarning
  | .failure _ => none
  | .datagram data peer =>
    if limit < data.length ∧ reject = false then some ⟨peer, limit⟩ else none

namespace Session

variable {d : Reading} {w : List CutWarning} {s : Session} {actions : List Action}

theorem history_asStream (s : Session) (actions : List Action) :
    (s.asStream d w).history actions =
      (s.history actions).map fun (action, outcome) => (action, d.outcome outcome) := by
  have ended (id : TaskId) : ((s.asStream d w).task? id).bind Task.outcome? =
      ((s.task? id).bind Task.outcome?).map d.outcome := by
    simp only [task?, asStream, List.getElem?_map]
    cases s.tasks[id]? with
    | none => rfl
    | some t =>
      obtain ⟨name, status, requests⟩ := t
      cases status <;> rfl
  rw [history, history, List.map_filterMap]
  apply List.filterMap_congr
  intro id _
  rw [ended]
  cases actions[id]? with
  | none => rfl
  | some action => cases (s.task? id).bind Task.outcome? <;> rfl

theorem outcome_eq_cancelled {outcome : Outcome} :
    d.outcome outcome = .cancelled ↔ outcome = .cancelled := by
  unfold Reading.outcome
  split
  · next x => cases Item.ofDatagram d.codec d.capacity d.reject x <;> simp [Outcome.ofAnswer]
  · simp
  · simp
  · rfl

private theorem outcome_eq_nothing {outcome : Outcome} :
    d.outcome outcome = .value .nothing ↔ outcome = .value .nothing := by
  unfold Reading.outcome
  split
  · next x => cases Item.ofDatagram d.codec d.capacity d.reject x <;> simp [Outcome.ofAnswer]
  · simp
  · simp
  · rfl

/-- The pulls of the stream end as those of the receiver do, with items. -/
theorem pulled_decoded (history : List (Action × Outcome)) :
    pulled (history.map fun (action, outcome) => (action, d.outcome outcome)) =
      (pulled history).map d.outcome := by
  have uncancelled (patience : Nat) {outcome : Outcome} (other : outcome ≠ .cancelled) :
      pulled [(.next patience, outcome)] = [outcome] := by
    cases outcome with
    | cancelled => exact absurd rfl other
    | _ => rfl
  induction history with
  | nil => rfl
  | cons entry rest ih =>
    obtain ⟨action, outcome⟩ := entry
    have first : pulled [(action, d.outcome outcome)] =
        (pulled [(action, outcome)]).map d.outcome := by
      cases action with
      | next patience =>
        by_cases cancelled : outcome = .cancelled
        · subst cancelled
          rfl
        · rw [uncancelled patience cancelled,
            uncancelled patience (mt outcome_eq_cancelled.mp cancelled)]
          rfl
      | _ => rfl
    rw [← List.singleton_append, pulled_append, List.map_append, List.map_append, pulled_append, ih,
      ← first]
    rfl

/-- The same arrives. -/
theorem arrived_decoded (history : List (Action × Outcome)) :
    arrived (history.map fun (action, outcome) => (action, d.outcome outcome)) =
      arrived history := by
  have otherwise (arrival : Arrival) {outcome : Outcome} (other : outcome ≠ .value .nothing) :
      arrived [(.feed arrival, outcome)] = [] := by
    cases outcome with
    | value result =>
      cases result with
      | nothing => exact absurd rfl other
      | _ => rfl
    | _ => rfl
  induction history with
  | nil => rfl
  | cons entry rest ih =>
    obtain ⟨action, outcome⟩ := entry
    have first : arrived [(action, d.outcome outcome)] = arrived [(action, outcome)] := by
      cases action with
      | feed arrival =>
        by_cases nothing : outcome = .value .nothing
        · subst nothing
          rfl
        · rw [otherwise arrival nothing, otherwise arrival (mt outcome_eq_nothing.mp nothing)]
      | _ => rfl
    rw [← List.singleton_append, arrived_append, List.map_append, arrived_append, ih, ← first]
    rfl

section Delivering

variable {capacity : Nat} {settings : Settings}

/-- A stream of packets with its settings. -/
def readingOf (settings : Settings) (capacity : Nat) : Reading where
  codec := .osc
  capacity := settings.maxDatagramSize
  limit := capacity
  reject := settings.rejectTruncated.truth

/-- What a pull of the stream gets for an arrival. -/
def itemOf (settings : Settings) (capacity : Nat) (arrival : Arrival) : Outcome :=
  .value (.item (arrival.item settings.maxDatagramSize capacity settings.rejectTruncated.truth))

private theorem outcome_delivery (arrival : Arrival) :
    (readingOf settings capacity).outcome (arrival.delivery capacity) =
      itemOf settings capacity arrival := by
  cases arrival with
  | failure error => rfl
  | datagram data peer =>
    let reject := settings.rejectTruncated.truth
    change Outcome.ofAnswer .item (Item.ofDatagram .osc settings.maxDatagramSize reject
      ⟨data.take capacity, peer, decide (capacity < data.length)⟩) = _
    by_cases rejected : capacity < data.length ∧ reject = true
    · have cut : (decide (capacity < data.length) && reject) = true := by simpa using rejected
      rw [Item.ofDatagram, itemOf, Arrival.item, if_pos cut, if_pos rejected]
      rfl
    · have whole : ¬ (decide (capacity < data.length) && reject) = true := by simpa using rejected
      rw [Item.ofDatagram, itemOf, Arrival.item, if_neg whole, if_neg rejected, Item.decode_osc]
      rfl

private theorem warnings_delivery (arrival : Arrival) :
    (readingOf settings capacity).warnings (arrival.delivery capacity) =
      (arrival.warning capacity settings.rejectTruncated.truth).toList := by
  cases arrival with
  | failure error => rfl
  | datagram data peer =>
    change (CutWarning.ofDatagram? capacity settings.rejectTruncated.truth
      ⟨data.take capacity, peer, decide (capacity < data.length)⟩).toList = _
    rw [CutWarning.ofDatagram?, Item.isDecodedCut, Arrival.warning]
    by_cases cut : capacity < data.length
    · cases settings.rejectTruncated.truth <;> simp [cut]
    · simp [cut]

end Delivering

section

variable {capacity memory : Nat} {settings : Settings} {hosts : Hosts} {start : Session}

theorem eq_fresh (whole : settings.maxDatagramSize.integer? = some (capacity : Int))
    (built : inMemoryOf memory .stream .osc (.ok settings) hosts = .ok start) :
    start = fresh .stream .osc settings (.inMemory (.quietIn memory hosts)) capacity := by
  have attached : (bare .stream .osc (.ok settings) hosts).attach settings
      (.inMemory (.quietIn memory hosts)) = .ok start := built
  obtain ⟨limit, limited, rfl⟩ := exists_fresh rfl attached
  rw [(Receiver.limitOf_eq_ok whole limited).1]

private theorem map_itemOf (arrivals : List Arrival) :
    arrivals.map (itemOf settings capacity) =
      (arrivals.map (Arrival.delivery capacity)).map (readingOf settings capacity).outcome := by
  rw [List.map_map]
  exact List.map_congr_left fun arrival _ => (outcome_delivery arrival).symm

/-- The items of what has arrived are what pulls have got, and then what they will get. -/
theorem items_account (h : Sound capacity actions s) :
    let history := (s.decoded (readingOf settings capacity) actions).history actions
    (arrived history).map (itemOf settings capacity) = pulled history ++
      (s.undelivered.toList ++ s.untaken.map (Arrival.delivery capacity)).map
        (readingOf settings capacity).outcome := by
  intro history
  have account : (arrived (s.history actions)).map (Arrival.delivery capacity) =
      pulled (s.history actions) ++ s.undelivered.toList ++
        s.untaken.map (Arrival.delivery capacity) := h.account
  have same : history = (s.history actions).map fun (action, outcome) =>
      (action, (readingOf settings capacity).outcome outcome) := history_asStream s actions
  rw [same, arrived_decoded, pulled_decoded, map_itemOf, account, List.append_assoc,
    List.map_append]

/-- What was logged are the warnings for what pulls have got. -/
theorem warnings_account (h : Sound capacity actions s) :
    let t := s.decoded (readingOf settings capacity) actions
    t.warnings = ((arrived (t.history actions)).take
      (pulled (t.history actions)).length).filterMap
        (Arrival.warning capacity settings.rejectTruncated.truth) := by
  intro t
  let got := pulled (s.history actions)
  have account : (arrived (s.history actions)).map (Arrival.delivery capacity) =
      got ++ (s.undelivered.toList ++ s.untaken.map (Arrival.delivery capacity)) :=
    h.account.trans (List.append_assoc ..)
  have first : got = ((arrived (s.history actions)).take got.length).map
      (Arrival.delivery capacity) := by
    rw [List.map_take, account, List.take_left]
  have same : t.history actions = (s.history actions).map fun (action, outcome) =>
      (action, (readingOf settings capacity).outcome outcome) := history_asStream s actions
  have logged : t.warnings = got.flatMap (readingOf settings capacity).warnings := rfl
  rw [logged, same, arrived_decoded, pulled_decoded, List.length_map,
    List.filterMap_eq_flatMap_toList]
  conv_lhs => rw [first, List.flatMap_map]
  apply List.flatMap_congr
  intro arrival _
  exact warnings_delivery arrival

theorem outcome?_task (d : Reading) (t : Task) :
    (d.task t).outcome? = t.outcome?.map d.outcome := by
  obtain ⟨name, status, requests⟩ := t
  cases status <;> rfl

private theorem mem_statuses {task : Task} {outcome : Outcome} (member : task ∈ s.tasks)
    (ended : task.outcome? = some outcome) : .finished outcome ∈ s.statuses := by
  have status : task.status = .finished outcome := by
    obtain ⟨name, status, requests⟩ := task
    cases status with
    | finished other => exact congrArg TaskStatus.finished (Option.some.inj ended)
    | _ => cases ended
  rw [← status]
  exact List.mem_map_of_mem member

/-- When no turn is left, nobody pulls or nothing that has arrived is left. -/
theorem items_rest (h : Sound capacity actions s) (lively : Lively [] s) :
    let t := s.decoded (readingOf settings capacity) actions
    let history := t.history actions
    t.ready = [] → (∀ task ∈ t.tasks, task.isFinished = true) ∨
      pulled history = (arrived history).map (itemOf settings capacity) := by
  intro t history quiet
  rcases lively.rest h quiet with finished | ⟨undelivered, untaken⟩
  · refine .inl fun task member => ?_
    obtain ⟨before, there, rfl⟩ := List.mem_map.mp member
    rw [Task.isFinished, outcome?_task, Option.isSome_map]
    exact finished before there
  · right
    rw [items_account h, undelivered, untaken]
    exact (List.append_nil _).symm

/-- Whatever arrives, the pulls of one consumer at a time get its items in order, one for each
arrival: a failure to receive as it is, a datagram that is too long as such when such are
rejected, and of any other datagram what its first bytes are read as. Just those that are read
without their end are warned of. Only pulls that were asked to stop are cancelled, and when no
turn is left, either nobody pulls or nothing that has arrived is left. Whatever else is done with
the stream, it does not end before its endpoint is closed or its receiver is stopped. -/
theorem pulled_prefix_items {choices : List Choice}
    (whole : settings.maxDatagramSize.integer? = some (capacity : Int))
    (built : inMemoryOf memory .stream .osc (.ok settings) hosts = .ok start) :
    let reject := settings.rejectTruncated.truth
    let item (arrival : Arrival) : Outcome :=
      .value (.item (arrival.item settings.maxDatagramSize capacity reject))
    let s := start.schedule choices
    let history := s.history (Session.actions choices)
    (start.OneConsumer choices →
      pulled history <+: (arrived history).map item ∧
        s.warnings = ((arrived history).take (pulled history).length).filterMap
          (Arrival.warning capacity reject) ∧
        (∀ task ∈ s.tasks, task.outcome? = some .cancelled → task.cancelRequests ≠ 0) ∧
        (s.ready = [] → (∀ task ∈ s.tasks, task.isFinished = true) ∨
          pulled history = (arrived history).map item)) ∧
    (Calls .stream choices → ∀ task ∈ s.tasks, task.outcome? = some (.value .stop) →
      s.isEndpointClosed = true ∨
        ∃ other ∈ s.tasks, other.outcome? = some (.value (.receiveCancelled true))) := by
  intro reject item s history
  have unused : IsFresh (.inMemory (.quietIn memory hosts)) := ⟨rfl, rfl, rfl, rfl⟩
  cases eq_fresh whole built
  constructor
  · intro single
    let receiver := quietIn memory .osc settings hosts capacity
    have sound : Sound capacity [] receiver := .start
    have fit : receiver.Fit := Fit.start Codec.osc_isCalm unused.waiting
    have read : receiver.ReadAs (readingOf settings capacity) :=
      ⟨rfl, rfl, rfl, fun r found => by cases found; exact ⟨rfl, rfl⟩⟩
    obtain ⟨single, same⟩ := decoded_schedule sound read fit single
    have sound := sound.schedule single
    have lively := Lively.start.schedule Sound.start single
    have same : s = (receiver.schedule choices).decoded (readingOf settings capacity)
        (Session.actions choices) := same
    simp only [history]
    rw [same]
    refine ⟨?_, warnings_account sound, ?_, items_rest sound lively⟩
    · exact ⟨_, (items_account sound).symm⟩
    · intro task member cancelled
      obtain ⟨before, there, rfl⟩ := List.mem_map.mp member
      rw [outcome?_task] at cancelled
      obtain ⟨outcome, ended, same⟩ := Option.map_eq_some_iff.mp cancelled
      cases outcome_eq_cancelled.mp same
      have asked : before.cancelRequests ≠ 0 := sound.deliberate.asked there ended
      exact asked
  · intro calls task member ended
    have founded : s.Founded := schedule_founded (by simp) Codec.osc_isCalm unused calls
    rcases founded.stop (mem_statuses member ended) with closed | stopped
    · exact .inl closed
    · obtain ⟨other, there, status⟩ := List.mem_map.mp stopped
      refine .inr ⟨other, there, ?_⟩
      rw [Task.outcome?, status]

end

/-- Datagrams are cut at eight bytes, and are read even then. -/
def eightBytes : Settings :=
  { Settings.default with maxDatagramSize := .int 8, rejectTruncated := .bool false }

/-- A failure, a datagram that is no packet, and one that is longer than eight bytes. -/
def mixedArrivals : List Choice := [
  .spawn (Text.ofString "a") (.next 0), .turn 0, .turn 0,
  .spawn (Text.ofString "d") (.feed (.failure (.numbered 111 "Connection refused"))), .turn 0,
  .turn 0, .turn 0, .turn 0,
  .spawn (Text.ofString "e") (.feed (.datagram [1, 2, 3] (.int 7))), .turn 0,
  .spawn (Text.ofString "b") (.next 0), .turn 0, .turn 0, .turn 0, .turn 0,
  .spawn (Text.ofString "f") (.feed (.datagram [47, 97, 0, 0, 44, 0, 0, 0, 9] (.int 7))), .turn 0,
  .spawn (Text.ofString "c") (.next 0), .turn 0, .turn 0, .turn 0, .turn 0]

/-- The receiver is stopped while a task pulls. -/
def stoppedPull : List Choice := [
  .spawn (Text.ofString "a") (.next 0), .turn 0, .turn 0,
  .spawn (Text.ofString "c") .cancelReceive, .turn 0, .turn 0, .turn 0, .turn 0]

def cutStream : Session := fresh .stream .osc eightBytes (.inMemory (.quiet [])) 8

theorem pulled_prefix_items_mixedArrivals :
    inMemory .stream .osc (.ok eightBytes) [] = .ok cutStream ∧
      cutStream.OneConsumer mixedArrivals ∧
      pulled ((cutStream.schedule mixedArrivals).history (Session.actions mixedArrivals)) =
        [.value (.item (.receiveFailed (.receive (.numbered 111 "Connection refused")))),
          .value (.item (.decodeFailed (.unknownStart [1, 2, 3]) (.int 7) [1, 2, 3])),
          .value (.item (.received (.message (Text.ofString "/a") []) (.int 7)))] ∧
      pulled ((cutStream.schedule mixedArrivals).history (Session.actions mixedArrivals)) <+:
        (arrived ((cutStream.schedule mixedArrivals).history (Session.actions mixedArrivals))).map
          (itemOf eightBytes 8) ∧
      (cutStream.schedule mixedArrivals).warnings = [⟨.int 7, 8⟩] ∧
      Calls .stream stoppedPull ∧
      (cutStream.schedule stoppedPull).tasks.map Task.outcome? =
        [some (.value .stop), some (.value (.receiveCancelled true))] ∧
      ((cutStream.schedule stoppedPull).isEndpointClosed = true ∨
        ∃ other ∈ (cutStream.schedule stoppedPull).tasks,
          other.outcome? = some (.value (.receiveCancelled true))) := by
  have built : inMemory .stream .osc (.ok eightBytes) [] = .ok cutStream := rfl
  have single : cutStream.OneConsumer mixedArrivals := by decide +kernel
  have calls : Calls .stream stoppedPull := by decide
  have outcomes : (cutStream.schedule stoppedPull).tasks.map Task.outcome? =
      [some (.value .stop), some (.value (.receiveCancelled true))] := rfl
  have whole : eightBytes.maxDatagramSize.integer? = some ((8 : Nat) : Int) := rfl
  have items := (pulled_prefix_items whole built).1 single
  refine ⟨built, single, rfl, items.1, rfl, calls, outcomes, ?_⟩
  obtain ⟨task, member, stopped⟩ : ∃ task ∈ (cutStream.schedule stoppedPull).tasks,
      task.outcome? = some (.value .stop) := by
    rw [← List.mem_map, outcomes]
    exact List.mem_cons_self
  exact (pulled_prefix_items whole built).2 calls task member stopped

end Session

end Osc
