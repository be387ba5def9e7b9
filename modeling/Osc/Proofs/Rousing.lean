import Osc.Proofs.Passages

/-!
The turns of operations. An operation that is queued or was woken has its turn, after which it is
over or waits for an arrival. So one that was asked to stop is over after its turn, and nothing has
to arrive for that.
-/

namespace Osc

/-- Whether an operation has something to do in its turn. -/
def Receive.isAwake (r : Receive) : Bool :=
  match r.status with
  | .queued _ | .woken _ => true
  | _ => false

/-- An operation that was asked to stop and is not over will notice it in its turn. -/
theorem Receive.isAwake_of_isAsked {r : Receive} (asked : r.status.isAsked = true)
    (going : r.isFinished = false) : r.isAwake = true := by
  obtain ⟨buffer, status, watchers⟩ := r
  cases status with
  | queued cancelled => rfl
  | woken wake => rfl
  | waiting => cases asked
  | finished outcome => cases going

namespace Session

variable {given hand : Option Turn} {s t u : Session} {turn : Turn} {receive : ReceiveId}

/-- Every operation that has something to do has its turn, in the queue or in hand. -/
def Roused (hand : Option Turn) (s : Session) : Prop :=
  ∀ (i : ReceiveId) (r : Receive), s.receives[i]? = some r → r.isAwake = true →
    hand = some (.receive i) ∨ .receive i ∈ s.ready

/-- No turn of an operation is lost, and one that is woken has its turn. -/
structure Rouses (s t : Session) : Prop where
  ready : ∀ i, .receive i ∈ s.ready → .receive i ∈ t.ready
  awake : ∀ i r, t.receives[i]? = some r → r.isAwake = true →
    (∃ old, s.receives[i]? = some old ∧ old.isAwake = true) ∨ .receive i ∈ t.ready

namespace Rouses

theorem ofReceives (receives : t.receives = s.receives) (ready : s.ready ⊆ t.ready) :
    Rouses s t where
  ready _ member := ready member
  awake _ r there awake := .inl ⟨r, receives ▸ there, awake⟩

theorem refl (s : Session) : Rouses s s := ofReceives rfl (List.Subset.refl _)

theorem trans (first : Rouses s t) (second : Rouses t u) : Rouses s u where
  ready i := second.ready i ∘ first.ready i
  awake i r there awake := by
    rcases second.awake i r there awake with ⟨old, there, awake⟩ | member
    · exact (first.awake i old there awake).imp_right (second.ready i)
    · exact .inr member

/-- An operation goes on; if it is woken, it has its turn. -/
theorem ofModify {f : Receive → Receive} (receives : t.receives = s.receives.modify receive f)
    (ready : s.ready ⊆ t.ready)
    (kept : ∀ old, s.receives[receive]? = some old → (f old).isAwake = true →
      old.isAwake = true ∨ .receive receive ∈ t.ready) : Rouses s t where
  ready i member := ready member
  awake i r there awake := by
    by_cases same : receive = i
    · subst same
      rw [receives, List.getElem?_modify_eq] at there
      obtain ⟨old, here, rfl⟩ := Option.map_eq_some_iff.mp there
      exact (kept old here awake).imp_left fun awake => ⟨old, here, awake⟩
    · rw [receives, List.getElem?_modify_ne _ _ same] at there
      exact .inl ⟨r, there, awake⟩

/-- Those who watch an operation are nothing to it. -/
theorem ofWatchers {f : Receive → Receive} (receives : t.receives = s.receives.modify receive f)
    (ready : s.ready ⊆ t.ready) (status : ∀ old, (f old).status = old.status) : Rouses s t :=
  ofModify receives ready fun old _ awake => .inl (by rwa [Receive.isAwake, status] at awake)

theorem watch (s : Session) (receive : ReceiveId) (task : TaskId) :
    Rouses s (s.watch receive task) := by
  rcases s.watch_cases receive task with ⟨same, -⟩ | ⟨same, -⟩
  · rw [same]
    exact ofReceives rfl (List.subset_append_left ..)
  · rw [same]
    exact ofWatchers rfl (List.Subset.refl _) fun _ => rfl

/-- A task that will not be told any more takes no turn from an operation. -/
theorem unsignal (s : Session) (task : TaskId) : Rouses s (s.unsignal task) where
  ready i member := List.mem_filter.mpr ⟨member, by simp⟩
  awake i r there awake := .inl ⟨r, there, awake⟩

theorem cancelReceive (fit : s.Fit) (receive : ReceiveId) :
    Rouses s (s.cancelReceive receive) := by
  obtain ⟨e, up⟩ := fit.up
  -- An operation that waited is queued; any other that is not over has its turn.
  have marks {status : ReceiveStatus} {old : Receive} (there : s.receives[receive]? = some old)
      (awake : old.isAwake = true) : Rouses s (s.setReceive receive status) := by
    refine ofModify rfl (List.Subset.refl _) fun old' there' _ => ?_
    cases there.symm.trans there'
    exact .inl awake
  rcases s.cancelReceive_cases receive with ⟨same, -⟩ | ⟨old, there, how⟩
  · rw [same]
    exact refl s
  · rcases how with ⟨cancelled, queued, same⟩ | ⟨-, same⟩ | ⟨wake, woken, same⟩
    · rw [same]
      exact marks there (by rw [Receive.isAwake, queued])
    · rw [same, setInbox_onto up]
      exact ofModify rfl (List.subset_append_left ..) fun _ _ _ =>
        .inr (List.mem_append_right _ (List.mem_singleton_self _))
    · rw [same]
      exact marks there (by rw [Receive.isAwake, woken])

theorem stop (fit : s.Fit) (receive : ReceiveId) :
    Rouses s ((s.cancelReceive receive).setReceiver fun r => { r with state := .idle none }) :=
  (cancelReceive fit receive).trans (ofReceives rfl (List.Subset.refl _))

end Rouses

/-- What a change does to operations, apart from the turn that it takes. -/
theorem Change.rouses (change : Change given s t) (fit : s.Fit) :
    Rouses s t ∨ ∃ turn u, Takes given s turn u ∧ Rouses u t := by
  obtain ⟨e, up⟩ := fit.up
  have still {u v : Session} (receives : v.receives = u.receives) (ready : v.ready = u.ready) :
      Rouses u v := .ofReceives receives (ready ▸ List.Subset.refl _)
  have more {u v : Session} {turns : List Turn} (receives : v.receives = u.receives)
      (ready : v.ready = u.ready ++ turns) : Rouses u v :=
    .ofReceives receives (ready ▸ List.subset_append_left ..)
  cases change with
  | inert same => exact .inl (still same.receives same.ready)
  | spawn name call => exact .inl (more rfl rfl)
  | spend took stale => exact .inr ⟨_, _, took, .refl _⟩
  | tell took blocked => exact .inr ⟨_, _, took, more rfl rfl⟩
  | drop took queued => exact .inr ⟨_, _, took, still rfl rfl⟩
  | start took queued => exact .inr ⟨_, _, took, still rfl rfl⟩
  | goOn took woken other => exact .inr ⟨_, _, took, still rfl rfl⟩
  | leave took woken => exact .inr ⟨_, _, took, still rfl rfl⟩
  | gain took woken there brought => exact .inr ⟨_, _, took, still rfl rfl⟩
  | lose took woken there brought => exact .inr ⟨_, _, took, still rfl rfl⟩
  | collect runs free receiver current there brought => exact .inl (still rfl rfl)
  | receive runs free receiver idle provided =>
    refine .inl ⟨fun i member => List.mem_append_left _ member, fun i r there awake => ?_⟩
    rcases getElem?_concat_eq_some.mp there with old | ⟨rfl, -⟩
    · exact .inl ⟨r, old, awake⟩
    · exact .inr (List.mem_append_right _ (List.mem_singleton_self _))
  | @join id r receive pull runs free receiver current =>
    let waits := s.setReceiver fun r => { r with waiting := true }
    have joins : Rouses s waits := still rfl rfl
    exact .inl ((joins.trans (.watch waits receive id)).trans (still rfl rfl))
  | stop closed handle receiver current => exact .inl (.stop fit _)
  | halt runs other receiver current => exact .inl ((Rouses.stop fit _).trans (still rfl rfl))
  | close runs plain there isOpen receiver current =>
    exact .inl (((Rouses.stop fit _).trans (.watch _ _ _)).trans (still rfl rfl))
  | release there isOpen counted settled =>
    rcases releaseHandle_cases up isOpen counted with ⟨-, same⟩ | ⟨-, same⟩
    · rw [same]
      exact .inl (more rfl rfl)
    · rw [same]
      exact .inl (still rfl rfl)
  | clone there isOpen counted name => exact .inl (still rfl rfl)
  | overdrawn there isOpen counted => exact (fit.not_overdrawn there isOpen counted).elim
  | block runs fits =>
    rw [awaitWritable_up up]
    exact .inl (still rfl rfl)
  | writable up watched => exact .inl (more rfl rfl)
  | shut other =>
    rw [closeEndpoint_up up]
    exact .inl (more rfl rfl)
  | waken up first =>
    refine .inl (.ofModify rfl (List.subset_append_left ..) fun _ _ _ => .inr ?_)
    exact List.mem_append_right _ (List.mem_singleton_self _)
  | @wait id found there looks =>
    have here : (s.setReceive id .waiting).link = .up e := up
    rw [setInbox_onto here]
    exact .inl (.ofModify rfl (List.Subset.refl _) fun _ _ awake => by cases awake)
  | conclude there turn asked =>
    exact .inl (.ofModify rfl (List.subset_append_left ..) fun _ _ awake => by cases awake)
  | ask id => exact .inl (still rfl rfl)
  | markQueued queued asked => exact .inl (still rfl rfl)
  | markRunning runs asked => exact .inl (still rfl rfl)
  | markWoken woken asked => exact .inl (still rfl rfl)
  | @unpull id receive pull blocked asked =>
    let woken := (s.unwatch receive id).setStatus id (.woken (.pulling receive pull) .cancelled)
    have unwatched : Rouses s woken := .ofWatchers rfl (List.Subset.refl _) fun _ => rfl
    exact .inl ((unwatched.trans (.unsignal woken id)).trans (more rfl rfl))
  | @unwrite id w e up blocked asked =>
    let woken := { s with link := .up (e.stopAwaiting id) }.setStatus id
      (.woken (.writing w) .cancelled)
    have unlatched : Rouses s woken := still rfl rfl
    exact .inl ((unlatched.trans (.unsignal woken id)).trans (more rfl rfl))
  | urge blocked asked =>
    exact .inl ((Rouses.cancelReceive fit _).trans (still rfl rfl))
  | finish runs calm stops => exact .inl (still rfl rfl)

/-- The turn that is taken is the one in hand. -/
theorem Takes.roused (took : Takes given s turn t) (same : given = none ∨ given = hand)
    (h : s.Roused hand) : t.Roused hand := by
  intro i r there awake
  have before : s.receives[i]? = some r := by
    cases took
    exact there
  have given : given = some turn := by
    cases took
    rfl
  rcases h i r before awake with turn | member
  · exact .inl turn
  · rcases took.ready member with mine | left
    · rcases same with nothing | same
      · cases given.symm.trans nothing
      · exact .inl (by rw [mine, ← given, same])
    · exact .inr left

theorem Rouses.roused (rouses : Rouses s t) (h : s.Roused hand) : t.Roused hand := by
  intro i r there awake
  rcases rouses.awake i r there awake with ⟨old, here, awake⟩ | member
  · exact (h i old here awake).imp_right (rouses.ready i)
  · exact .inr member

theorem Change.roused (change : Change given s t) (fit : s.Fit)
    (same : given = none ∨ given = hand) (h : s.Roused hand) : t.Roused hand := by
  rcases change.rouses fit with rouses | ⟨turn, u, took, rouses⟩
  · exact rouses.roused h
  · exact rouses.roused (took.roused same h)

private theorem finishReceive_rests {outcome : ReceiveOutcome} {r : Receive}
    (there : (s.finishReceive receive outcome).receives[receive]? = some r) :
    r.isAwake = false := by
  change (s.receives.modify receive _)[receive]? = some r at there
  rw [List.getElem?_modify_eq] at there
  obtain ⟨old, -, rfl⟩ := Option.map_eq_some_iff.mp there
  rfl

private theorem takeOrWait_rests (up : ∃ e, s.link = .up e) {buffer : BufferId} {r : Receive}
    (there : (s.takeOrWait receive buffer).receives[receive]? = some r) : r.isAwake = false := by
  obtain ⟨e, up⟩ := up
  rw [takeOrWait] at there
  rcases takeArrival_cases up buffer with nothing | ⟨t, outcome, taken, -, -⟩
  · have here : (s.setReceive receive .waiting).link = .up e := up
    rw [nothing] at there
    change ((s.setReceive receive .waiting).setInbox _).receives[receive]? = some r at there
    rw [setInbox_onto here] at there
    change (s.receives.modify receive _)[receive]? = some r at there
    rw [List.getElem?_modify_eq] at there
    obtain ⟨old, -, rfl⟩ := Option.map_eq_some_iff.mp there
    rfl
  · rw [taken] at there
    exact finishReceive_rests there

/-- After its turn an operation is over or waits for an arrival. -/
theorem turnReceive_rests (up : ∃ e, s.link = .up e) {r : Receive}
    (there : (s.turnReceive receive).receives[receive]? = some r) : r.isAwake = false := by
  rw [turnReceive, receive?] at there
  cases found : s.receives[receive]? with
  | none =>
    rw [found] at there
    cases found.symm.trans there
  | some old =>
    obtain ⟨buffer, status, watchers⟩ := old
    rw [found] at there
    cases status with
    | queued cancelled =>
      cases cancelled with
      | false =>
        refine takeOrWait_rests (s := s.hand buffer) ?_ there
        unfold hand
        split <;> exact up
      | true => exact finishReceive_rests there
    | waiting =>
      cases found.symm.trans there
      rfl
    | woken wake =>
      cases wake with
      | due => exact takeOrWait_rests up there
      | dueCancelled => exact finishReceive_rests there
      | cancelled => exact finishReceive_rests there
    | finished outcome =>
      cases found.symm.trans there
      rfl

theorem turnAt_receive {place : Nat} (first : s.ready[place]? = some (.receive receive))
    (up : ∃ e, s.link = .up e) {r : Receive}
    (there : (s.turnAt place).receives[receive]? = some r) : r.isAwake = false := by
  rw [turnAt, first] at there
  exact turnReceive_rests (s := { s with ready := s.ready.eraseIdx place }) up there

namespace Roused

/-- Between turns nothing is in hand. -/
theorem choose (h : s.Roused none) (fit : s.Fit) {choice : Choice}
    (calls : Calls s.layer [choice]) : (s.choose choice).Roused none := by
  have before : s.Roused (s.given? choice) := fun i r there awake =>
    .inr ((h i r there awake).resolve_left (by simp))
  have held : (s.choose choice).Roused (s.given? choice) :=
    ((choose_course fit calls).keep fit (fun _ _ _ same change fit h => change.roused fit same h)
      before).2
  intro i r there awake
  rcases held i r there awake with turn | member
  · cases choice with
    | spawn name action => cases turn
    | turn place => cases awake.symm.trans (turnAt_receive turn fit.up there)
  · exact .inr member

theorem schedule {choices : List Choice} (h : s.Roused none) (fit : s.Fit)
    (calls : Calls s.layer choices) : (s.schedule choices).Roused none := by
  induction choices generalizing s with
  | nil => exact h
  | cons choice rest ih =>
    obtain ⟨first, later⟩ := calls.head
    obtain ⟨fit', layer⟩ := schedule_fit fit first
    exact ih (h.choose fit first) fit' (layer ▸ later)

theorem start {layer : Layer} {codec : Codec} {settings : Settings} {e : Endpoint} {limit : Int} :
    (fresh layer codec settings e limit).Roused none :=
  fun i r there => by cases there

end Roused

/-- An operation that was asked to stop has its turn until it is over. -/
theorem Roused.stops (h : s.Roused none) {r : Receive} (there : s.receives[receive]? = some r)
    (asked : r.status.isAsked = true) (going : r.isFinished = false) :
    .receive receive ∈ s.ready :=
  (h receive r there (Receive.isAwake_of_isAsked asked going)).resolve_left (by simp)

end Session

end Osc
