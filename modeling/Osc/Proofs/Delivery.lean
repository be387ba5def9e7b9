import Osc.Proofs.Rest

/-!
Deliveries: whatever the order of arrivals, pulls and cancellations, nothing is lost, comes
twice or out of order. What has arrived is what pulls have got, then what was received and
not taken, then what is still in the inbox; so what pulls have got is a prefix. Of the rest
nothing is left when the session is at rest and there is still somebody who pulls.
-/

namespace Osc.Session

variable {capacity : Nat} {actions : List Action} {s : Session}

/-- A schedule keeps the session sound, with the actions that it starts. -/
theorem Sound.schedule {choices : List Choice} (h : Sound capacity actions s)
    (single : s.OneConsumer choices) :
    Sound capacity (actions ++ Session.actions choices) (s.schedule choices) := by
  induction choices generalizing s actions with
  | nil =>
    rw [Session.actions, List.filterMap_nil, List.append_nil]
    exact h
  | cons choice rest ih =>
    obtain ⟨permitted, later⟩ := single
    cases choice with
    | spawn name action =>
      have next := ih (h.spawn name permitted) later
      rw [List.append_assoc] at next
      exact next
    | turn place => exact ih (h.turnAt place) later

/-- Nobody is forgotten along a schedule. -/
theorem Lively.schedule {choices : List Choice} (h : Lively [] s) (sound : Sound capacity actions s)
    (single : s.OneConsumer choices) : Lively [] (s.schedule choices) := by
  induction choices generalizing s actions with
  | nil => exact h
  | cons choice rest ih =>
    obtain ⟨permitted, later⟩ := single
    cases choice with
    | spawn name action => exact ih (h.spawn name action) (sound.spawn name permitted) later
    | turn place => exact ih (h.turnAt sound place) (sound.turnAt place) later

/-- A receiver over an endpoint in memory before anything happens. -/
def quietIn (memory : Nat) (codec : Codec) (settings : Settings) (hosts : Hosts) (limit : Int) :
    Session :=
  { bare .receiver codec (.ok settings) hosts with
    settings := settings
    link := .up (.inMemory (.quietIn memory hosts))
    buffers := [Buffer.empty (limit + 1).toNat]
    receiver := some ⟨settings.maxDatagramSize, limit, .idle (some 0), false⟩ }

private theorem inMemory_receiver (codec : Codec) (settings : Settings) (hosts : Hosts)
    (memory : Nat) :
    inMemoryOf memory .receiver codec (.ok settings) hosts =
      (Receiver.limitOf memory settings.maxDatagramSize).map
        (quietIn memory codec settings hosts) := by
  change (Receiver.limitOf memory settings.maxDatagramSize).bind _ = _
  cases Receiver.limitOf memory settings.maxDatagramSize <;> rfl

section

variable {codec : Codec} {settings : Settings} {hosts : Hosts} {memory : Nat}

private theorem eq_quiet (whole : settings.maxDatagramSize.integer? = some (capacity : Int))
    (built : inMemoryOf memory .receiver codec (.ok settings) hosts = .ok s) :
    s = quietIn memory codec settings hosts capacity := by
  rw [inMemory_receiver, Receiver.limitOf, whole] at built
  cases room : allocation memory (capacity + 1) with
  | error fault =>
    simp only [room] at built
    cases built
  | ok size =>
    simp only [room] at built
    cases built
    rfl

theorem Sound.start : Sound capacity [] (quietIn memory codec settings hosts capacity) := by
  refine ⟨⟨⟨.inMemory (.quietIn memory hosts),
    ⟨settings.maxDatagramSize, capacity, .idle (some 0), false⟩, ?_⟩, .start,
    by simp [Recorded, quietIn, bare], by simp [Deliberate, statuses, quietIn, bare]⟩, .start⟩
  exact {
    layer := rfl
    link := rfl
    opened := rfl
    receiver := rfl
    limit := rfl
    phase := .idle (some 0) rfl rfl (by simp [quietIn])
    sizes := by simp [quietIn, Buffer.empty]
    finished := by simp [quietIn, bare] }

theorem Lively.start : Lively [] (quietIn memory codec settings hosts capacity) :=
  ⟨by simp [statuses, quietIn, bare], operates_idle rfl⟩

/-- Pulls of one consumer at a time get the arrivals in order, each once and as it was, whoever
is cancelled and whatever the order of turns: what the pulls that were not cancelled end with
is a prefix of the arrivals. None is cancelled that was not asked to stop. And when no turn is
left, either nobody pulls or nothing that has arrived is left. -/
theorem pulled_prefix_arrived {start : Session} {choices : List Choice}
    (whole : settings.maxDatagramSize.integer? = some (capacity : Int))
    (built : inMemoryOf memory .receiver codec (.ok settings) hosts = .ok start)
    (single : start.OneConsumer choices) :
    let s := start.schedule choices
    let history := s.history (Session.actions choices)
    pulled history <+: (arrived history).map (Arrival.delivery capacity) ∧
      (∀ task ∈ s.tasks, task.outcome? = some .cancelled → task.cancelRequests ≠ 0) ∧
      (s.ready = [] → (∀ task ∈ s.tasks, task.isFinished = true) ∨
        pulled history = (arrived history).map (Arrival.delivery capacity)) := by
  intro s history
  cases eq_quiet whole built
  have sound : Sound capacity (Session.actions choices) s := Sound.start.schedule single
  have lively : Lively [] s := Lively.start.schedule Sound.start single
  have account : (arrived history).map (Arrival.delivery capacity) =
      pulled history ++ s.undelivered.toList ++ s.untaken.map (Arrival.delivery capacity) :=
    sound.account
  refine ⟨?_, fun task member => sound.deliberate.asked member, ?_⟩
  · rw [account, List.append_assoc]
    exact List.prefix_append _ _
  · intro quiet
    refine (lively.rest sound quiet).imp_right ?_
    rintro ⟨undelivered, untaken⟩
    rw [account, undelivered, untaken]
    simp

end

/-- A pull is cancelled after a datagram was received for it and before it is told of that;
then there is another pull. -/
def lateCancel : List Choice := [
  .spawn (Text.ofString "a") (.next 0), .turn 0, .turn 0,
  .spawn (Text.ofString "d") (.feed (.datagram [1, 2, 3, 4, 5] (.int 7))), .turn 0, .turn 0,
  .spawn (Text.ofString "c") (.cancel (Text.ofString "a")), .turn 0, .turn 0, .turn 0,
  .spawn (Text.ofString "b") (.next 0), .turn 0]

def fourBytes : Settings := { Settings.default with maxDatagramSize := .int 4 }

/-- The second pull gets the datagram, cut at the capacity. -/
theorem pulled_prefix_arrived_lateCancel :
    inMemory .receiver .osc (.ok fourBytes) [] = .ok (quietIn ampleMemory .osc fourBytes [] 4) ∧
      (quietIn ampleMemory .osc fourBytes [] 4).OneConsumer lateCancel ∧
        pulled (((quietIn ampleMemory .osc fourBytes [] 4).schedule lateCancel).history
            (Session.actions lateCancel)) =
          [.value (.datagram (some ⟨[1, 2, 3, 4], .int 7, true⟩))] ∧
        pulled (((quietIn ampleMemory .osc fourBytes [] 4).schedule lateCancel).history
            (Session.actions lateCancel)) <+:
          (arrived (((quietIn ampleMemory .osc fourBytes [] 4).schedule lateCancel).history
            (Session.actions lateCancel))).map (Arrival.delivery 4) := by
  have built : inMemory .receiver .osc (.ok fourBytes) [] =
      .ok (quietIn ampleMemory .osc fourBytes [] 4) := rfl
  have single : (quietIn ampleMemory .osc fourBytes [] 4).OneConsumer lateCancel := by
    decide +kernel
  have got : pulled (((quietIn ampleMemory .osc fourBytes [] 4).schedule lateCancel).history
      (Session.actions lateCancel)) =
        [.value (.datagram (some ⟨[1, 2, 3, 4], .int 7, true⟩))] := rfl
  exact ⟨built, single, got, (pulled_prefix_arrived rfl built single).1⟩

end Osc.Session
