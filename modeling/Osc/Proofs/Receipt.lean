import Osc.Proofs.Conversion
import Osc.Proofs.Resilience

/-!
What is sent is received. Plain values become a message, the message becomes bytes when each
value allows it, and a stream that these bytes arrive at gives the message back. Whatever else
arrives and whoever pulls, the pull whose turn it is gets it; only a datagram that is longer
than the capacity is reported with its first bytes instead, if such are rejected.
-/

namespace Osc

/-- The item for the bytes of a packet is the packet, if they fit. -/
theorem Arrival.item_of_decode {p : Packet} {data : Bytes} {limit : Nat} {reject : Bool}
    (read : Wire.decode data = .ok p) (size peer : Value)
    (cut : limit < data.length → reject = true) :
    (Arrival.datagram data peer).item size limit reject =
      if data.length ≤ limit then .received p peer else .cut size peer (data.take limit) := by
  rw [item]
  by_cases fits : data.length ≤ limit
  · have whole : ¬ (limit < data.length ∧ reject = true) := fun long => absurd fits (by omega)
    rw [if_neg whole, if_pos fits, List.take_of_length_le fits, read]
  · rw [if_pos ⟨by omega, cut (by omega)⟩, if_neg fits]

namespace Session

section Pulling

variable {capacity memory : Nat} {settings : Settings} {hosts : Hosts} {choices : List Choice}

/-- A stream is the receiver with its datagrams as items. -/
theorem schedule_stream
    (single : (fresh .stream .osc settings (.inMemory (.quietIn memory hosts))
      capacity).OneConsumer choices) :
    let receiver := quietIn memory .osc settings hosts capacity
    receiver.OneConsumer choices ∧
      (fresh .stream .osc settings (.inMemory (.quietIn memory hosts)) capacity).schedule choices =
        (receiver.schedule choices).decoded (readingOf settings capacity)
          (Session.actions choices) := by
  intro receiver
  have unused : IsFresh (.inMemory (.quietIn memory hosts)) := ⟨rfl, rfl, rfl, rfl⟩
  have read : receiver.ReadAs (readingOf settings capacity) :=
    ⟨rfl, rfl, rfl, fun r found => by cases found; exact ⟨rfl, rfl⟩⟩
  exact decoded_schedule Sound.start read (Fit.start Codec.osc_isCalm unused.waiting) single

/-- The pulls of one consumer get the items of the first arrivals, and when no turn is left,
either nobody pulls or they have got all. -/
theorem pulled_stream
    (single : (fresh .stream .osc settings (.inMemory (.quietIn memory hosts))
      capacity).OneConsumer choices) :
    let s := (fresh .stream .osc settings (.inMemory (.quietIn memory hosts)) capacity).schedule
      choices
    let history := s.history (Session.actions choices)
    pulled history <+: (arrived history).map (itemOf settings capacity) ∧
      (s.ready = [] → (∀ task ∈ s.tasks, task.isFinished = true) ∨
        pulled history = (arrived history).map (itemOf settings capacity)) := by
  intro s history
  obtain ⟨single, same⟩ := schedule_stream single
  have sound := Sound.start.schedule single
  simp only [history, s, same]
  have lively := Lively.start.schedule Sound.start single
  exact ⟨⟨_, (items_account sound).symm⟩, items_rest sound lively⟩

end Pulling

section Exchange

variable (memory : Nat) (settings : Settings) (hosts : Hosts) (capacity : Nat)
  (feeder puller : Text) (data : Bytes) (peer : Value)

/-- A datagram arrives, and then a task pulls. -/
def feedThenPull : List Choice := [
  .spawn feeder (.feed (.datagram data peer)), .turn 0,
  .spawn puller (.next 0), .turn 0, .turn 0, .turn 0, .turn 0]

theorem oneConsumer_feedThenPull :
    (fresh .stream .osc settings (.inMemory (.quietIn memory hosts)) capacity).OneConsumer
      (feedThenPull feeder puller data peer) := by
  refine ⟨⟨rfl, fun pull => nomatch pull⟩, trivial, ⟨rfl, fun _ task member => ?_⟩,
    trivial, trivial, trivial, trivial, trivial⟩
  cases List.mem_singleton.mp member
  rfl

/-- The receiver after the arrival, with the task inside its pull. -/
def pulling (arrivals : List Arrival) (pull : TaskStatus) : Session :=
  { quietIn memory .osc settings hosts capacity with
    link := .up { Endpoint.inMemory (.quietIn memory hosts) with
      network := { Network.quietIn memory hosts with inbox := ⟨arrivals, []⟩ } }
    receiver := some ⟨settings.maxDatagramSize, capacity, .receiving 0, true⟩
    tasks := [⟨feeder, .finished (.value .nothing), 0⟩, ⟨puller, pull, 0⟩]
    finished := [0] }

/-- The operation that the pull has started is about to look into the inbox. -/
def started : Session :=
  { pulling memory settings hosts capacity feeder puller [.datagram data peer]
      (.blocked (.pulling 0 ⟨.datagram, 0⟩)) with
    receives := [⟨0, .queued false, [1]⟩]
    ready := [.receive 0] }

/-- The operation has taken the datagram, and the pull is about to be told. -/
def brought : Session :=
  let buffer := Buffer.empty ((capacity : Int) + 1).toNat
  { pulling memory settings hosts capacity feeder puller []
      (.blocked (.pulling 0 ⟨.datagram, 0⟩)) with
    buffers := [buffer.fill data]
    handed := [0]
    receives := [⟨0, .finished (.arrived (buffer.room data) peer), []⟩]
    ready := [.signal 1] }

private theorem schedule_started :
    (quietIn memory .osc settings hosts capacity).schedule
        ((feedThenPull feeder puller data peer).take 4) =
      started memory settings hosts capacity feeder puller data peer := rfl

private theorem started_turn :
    (started memory settings hosts capacity feeder puller data peer).turnAt 0 =
      brought memory settings hosts capacity feeder puller data peer := rfl

private theorem schedule_feedThenPull :
    (quietIn memory .osc settings hosts capacity).schedule (feedThenPull feeder puller data peer) =
      (brought memory settings hosts capacity feeder puller data peer).schedule
        [.turn 0, .turn 0] := by
  have parts : feedThenPull feeder puller data peer =
      (feedThenPull feeder puller data peer).take 4 ++ ([.turn 0] ++ [.turn 0, .turn 0]) := rfl
  rw [parts, schedule_append, schedule_append, schedule_started, ← started_turn]
  rfl

/-- One datagram has arrived, and one pull has got something. -/
theorem history_feedThenPull :
    let start := fresh .stream .osc settings (.inMemory (.quietIn memory hosts)) capacity
    let choices := feedThenPull feeder puller data peer
    let history := (start.schedule choices).history (Session.actions choices)
    arrived history = [.datagram data peer] ∧ (pulled history).length = 1 := by
  have single := oneConsumer_feedThenPull memory settings hosts capacity feeder puller data peer
  dsimp only
  rw [(schedule_stream single).2, schedule_feedThenPull, decoded, history_asStream, arrived_decoded,
    pulled_decoded, List.length_map]
  exact ⟨rfl, rfl⟩

end Exchange

section Receiving

variable {capacity memory : Nat} {settings : Settings} {hosts : Hosts} {start : Session}

/-- An address with plain values becomes a message. It is written exactly when the address and
all the values can be sent. Where its bytes then arrive at a stream, whatever else arrives and is
done, the pull whose turn it is gets the message, or, when there are more bytes than the capacity
and such datagrams are rejected, a report with the first of them; and a task that goes on pulling
does get it. -/
theorem plain_values_received (given : Given) (address : Text)
    (whole : settings.maxDatagramSize.integer? = some (capacity : Int))
    (built : inMemoryOf memory .stream .osc (.ok settings) hosts = .ok start) :
    let message := given.message address
    (Value.tuple [.text address, given.toValue]).toPacket = .ok message.toValue ∧
    ((∃ data, Codec.osc.encode message.toValue = .ok data) ↔
      address.head? = some Wire.slash ∧ address.FitsField ∧ given.Sendable) ∧
    ∀ data peer, Codec.osc.encode message.toValue = .ok data →
      (capacity < data.length → settings.rejectTruncated.truth = true) →
      let got : Outcome := .value (.item (
        if data.length ≤ capacity then .received message peer
        else .cut settings.maxDatagramSize peer (data.take capacity)))
      let history (choices : List Choice) :=
        (start.schedule choices).history (Session.actions choices)
      (∀ choices, start.OneConsumer choices → ∀ k : Nat,
        (arrived (history choices))[k]? = some (.datagram data peer) →
          (∀ outcome, (pulled (history choices))[k]? = some outcome → outcome = got) ∧
          ((start.schedule choices).ready = [] →
            (∃ task ∈ (start.schedule choices).tasks, task.isFinished = false) →
              (pulled (history choices))[k]? = some got)) ∧
      ∃ choices, start.OneConsumer choices ∧
        arrived (history choices) = [.datagram data peer] ∧ pulled (history choices) = [got] := by
  intro message
  have writable :
      (∃ data, Codec.osc.encode message.toValue = .ok data) ↔ message.Representable := by
    have gives := Wire.encode_gives message
    exact ⟨fun ⟨data, written⟩ => (gives.of_ok data written).1, gives.exists_ok⟩
  refine ⟨given.toPacket_pair address, writable.trans (given.representable_message address), ?_⟩
  intro data peer written cut got history
  cases eq_fresh whole built
  have item : itemOf settings capacity (.datagram data peer) = got := by
    rw [itemOf, Arrival.item_of_decode (Given.decode_encode written) _ _ cut]
  constructor
  · intro choices single k arrival
    obtain ⟨start, rest⟩ := pulled_stream single
    have there : ((arrived (history choices)).map (itemOf settings capacity))[k]? = some got := by
      rw [List.getElem?_map, arrival, Option.map_some, item]
    constructor
    · intro outcome ended
      obtain ⟨later, all⟩ := start
      have inside := (List.getElem?_eq_some_iff.mp ended).1
      rw [← all, List.getElem?_append_left inside] at there
      exact Option.some.inj (ended.symm.trans there)
    · rintro quiet ⟨task, member, unfinished⟩
      rcases rest quiet with finished | all
      · rw [finished task member] at unfinished
        cases unfinished
      · exact all ▸ there
  · let choices := feedThenPull [] [] data peer
    have single := oneConsumer_feedThenPull memory settings hosts capacity [] [] data peer
    obtain ⟨arrival, once⟩ := history_feedThenPull memory settings hosts capacity [] [] data peer
    refine ⟨choices, single, arrival, ?_⟩
    have start := (pulled_stream single).1
    rw [arrival, List.map_singleton, item] at start
    exact start.eq_of_length once

/-- Datagrams are cut at eight bytes, and those that were are rejected. -/
def eightBytesOnly : Settings :=
  { Settings.default with maxDatagramSize := .int 8, rejectTruncated := .bool true }

theorem plain_values_received_cut :
    let given := Given.tuple [.bool true, .int (2 ^ 40), .list [.none]]
    let data : Bytes := [47, 97, 0, 0, 44, 84, 104, 91, 78, 93, 0, 0, 0, 0, 1, 0, 0, 0, 0, 0]
    let stream := fresh .stream .osc eightBytesOnly (.inMemory (.quiet [])) 8
    inMemory .stream .osc (.ok eightBytesOnly) [] = .ok stream ∧
      (Value.tuple [.text (Text.ofString "/a"), given.toValue]).toPacket =
        .ok (given.message (Text.ofString "/a")).toValue ∧
      Codec.osc.encode (given.message (Text.ofString "/a")).toValue = .ok data ∧
      ∃ choices, stream.OneConsumer choices ∧
        pulled ((stream.schedule choices).history (Session.actions choices)) =
          [.value (.item (.cut (.int 8) (.int 7) [47, 97, 0, 0, 44, 84, 104, 91]))] := by
  intro given data stream
  have whole : eightBytesOnly.maxDatagramSize.integer? = some ((8 : Nat) : Int) := rfl
  have built : inMemory .stream .osc (.ok eightBytesOnly) [] = .ok stream := rfl
  have written : Codec.osc.encode (given.message (Text.ofString "/a")).toValue = .ok data := by cbv
  obtain ⟨converted, -, received⟩ :=
    plain_values_received given (Text.ofString "/a") whole built
  obtain ⟨-, choices, single, -, got⟩ := received data (.int 7) written fun _ => rfl
  exact ⟨built, converted, written, choices, single, got⟩

end Receiving

end Session

end Osc
