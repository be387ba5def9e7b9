import Osc.Proofs.Passages

/-!
One task pulls at a time, in whatever order turns are given, since a receiver that a task waits on
admits no other; and the receiver is at the one operation that needs an arrival. So when a receiver
is idle, all its operations are over or were asked to stop.
-/

namespace Osc

theorem Receive.isFinished_of_hasBrought {r : Receive} (brought : r.hasBrought = true) :
    r.isFinished = true := (Bool.and_eq_true_iff.mp brought).1

namespace Session

variable {given : Option Turn} {s t : Session} {id : TaskId}

/-- A task is inside a pull, for what an operation brings. -/
def Pulls (s : Session) (id : TaskId) (receive : ReceiveId) : Prop :=
  ∃ status, s.statuses[id]? = some status ∧ status.pulled? = some receive

/-- One task pulls at a time, and one operation needs an arrival at a time: the one that the
receiver is at. -/
structure Single (s : Session) : Prop where
  alone : ∀ i j a b, s.Pulls i a → s.Pulls j b → i = j
  inside : ∀ i a, s.Pulls i a → s.receiver.any Receiver.waiting = true
  joined : ∀ i a r, s.Pulls i a → s.receiver = some r →
    r.state = .receiving a ∨ ∃ spare, r.state = .idle spare
  current : ∀ (i : ReceiveId) (r : Receiver) (found : Receive), s.receiver = some r →
    s.receives[i]? = some found → found.isSettled = false → r.state = .receiving i

/-- Whoever pulls did so before, or has just joined an operation. -/
theorem Passes.pulls (passes : Passes given s t) {i : TaskId} {a : ReceiveId}
    (pulls : t.Pulls i a) : s.Pulls i a ∨ s.Admits ∧ ∃ r, t.receiver = some r ∧
      r.waiting = true ∧ r.state = .receiving a := by
  obtain ⟨new, now, pulled⟩ := pulls
  rcases passes.status i new now with ⟨-, action, rfl⟩ | ⟨old, before, passage⟩
  · cases pulled
  · cases passage with
    | same => exact .inl ⟨new, before, pulled⟩
    | dooms action cancelled => cases pulled
    | wakes wait unclosing => exact .inl ⟨_, before, pulled⟩
    | marks wait wake => exact .inl ⟨_, before, pulled⟩
    | urges receive cancelled outcome => cases pulled
    | tells signal told wait => exact .inl ⟨_, before, pulled⟩
    | resumes turn awake => cases pulled
    | ends turn awake outcome => cases pulled
    | goes cancelled new unpulled unclosing => cases unpulled.symm.trans pulled
    | joins pull free receiver waits current =>
      cases pulled
      exact .inr ⟨free, _, receiver, waits, current⟩
    | closes receive outcome idle => cases pulled

theorem Onward.unsettled {before after : List Receive} (onward : Onward before after)
    (length : after.length = before.length) {i : ReceiveId} {new : Receive}
    (there : after[i]? = some new) (unsettled : new.isSettled = false) :
    ∃ old, before[i]? = some old ∧ old.isSettled = false := by
  obtain ⟨inside, -⟩ := List.getElem?_eq_some_iff.mp there
  have here := List.getElem?_eq_getElem (length ▸ inside)
  obtain ⟨new', there', goes⟩ := onward i _ here
  cases there.symm.trans there'
  refine ⟨_, here, Bool.eq_false_iff.mpr fun settled => ?_⟩
  cases unsettled.symm.trans (goes.settled settled)

namespace Single

/-- Nobody is inside a pull when one may join. -/
theorem free (h : s.Single) (admits : s.Admits) (i : TaskId) (a : ReceiveId) : ¬ s.Pulls i a := by
  intro pulls
  have waits := h.inside i a pulls
  rw [admits.nobody] at waits
  cases waits

/-- Tasks and operations go on, and the receiver stays. -/
theorem steady (h : s.Single) (passes : Passes given s t)
    (onward : Onward s.receives t.receives) (receiver : t.receiver = s.receiver)
    (length : t.receives.length = s.receives.length) : t.Single := by
  have before {i : TaskId} {a : ReceiveId} (pulls : t.Pulls i a) : s.Pulls i a := by
    rcases passes.pulls pulls with old | ⟨admits, r, found, waits, -⟩
    · exact old
    · have nobody := admits.nobody
      rw [← receiver, found, Option.any_some, waits] at nobody
      cases nobody
  constructor
  case alone => exact fun i j a b first second => h.alone i j a b (before first) (before second)
  case inside => exact fun i a pulls => receiver ▸ h.inside i a (before pulls)
  case joined => exact fun i a r pulls found => h.joined i a r (before pulls) (receiver ▸ found)
  case current =>
    intro i r new found there unsettled
    obtain ⟨old, here, unsettled⟩ := onward.unsettled length there unsettled
    exact h.current i r old (receiver ▸ found) here unsettled

/-- Nobody pulls. -/
theorem nobody (none : ∀ i a, ¬ s.Pulls i a)
    (current : ∀ (i : ReceiveId) (r : Receiver) (found : Receive), s.receiver = some r →
      s.receives[i]? = some found → found.isSettled = false → r.state = .receiving i) :
    s.Single where
  alone := fun i _ a _ pulls _ => absurd pulls (none i a)
  inside := fun i a pulls => absurd pulls (none i a)
  joined := fun i a _ pulls _ => absurd pulls (none i a)
  current := current

/-- Nobody pulls any more when the one who did has left. -/
theorem left (h : s.Single) (passes : Passes given s t) {receive : ReceiveId}
    (pulls : s.Pulls id receive)
    (out : ∀ status, t.statuses[id]? = some status → status.pulled? = none) (i : TaskId)
    (a : ReceiveId) : ¬ t.Pulls i a := by
  intro now
  rcases passes.pulls now with old | ⟨admits, -⟩
  · cases h.alone i id a receive old pulls
    obtain ⟨status, found, pulled⟩ := now
    cases (out status found).symm.trans pulled
  · exact h.free admits id receive pulls

/-- The receiver becomes idle, and every operation is settled. -/
theorem rest (h : s.Single) (passes : Passes given s t) (idle : t.IsIdle)
    (waiting : t.receiver.any Receiver.waiting = s.receiver.any Receiver.waiting)
    (settled : ∀ (i : ReceiveId) (found : Receive), t.receives[i]? = some found →
      found.isSettled = true) : t.Single := by
  have before {i : TaskId} {a : ReceiveId} (pulls : t.Pulls i a) : s.Pulls i a := by
    rcases passes.pulls pulls with old | ⟨-, r, found, -, current⟩
    · exact old
    · obtain ⟨spare, state⟩ := idle r found
      cases current.symm.trans state
  constructor
  case alone => exact fun i j a b first second => h.alone i j a b (before first) (before second)
  case inside => exact fun i a pulls => waiting.trans (h.inside i a (before pulls))
  case joined => exact fun i a r _ found => .inr (idle r found)
  case current =>
    intro i r found receiver there unsettled
    rw [settled i found there] at unsettled
    cases unsettled

/-- When the receiver is idle no operation needs an arrival. -/
theorem settled (h : s.Single) (fit : s.Fit) (idle : s.IsIdle) {found : Receive}
    (member : found ∈ s.receives) : found.isSettled = true := by
  obtain ⟨i, there⟩ := List.mem_iff_getElem?.mp member
  obtain ⟨r, receiver⟩ := fit.receiver
  obtain ⟨spare, state⟩ := idle r receiver
  by_contra unsettled
  have current := h.current i r found receiver there (Bool.eq_false_iff.mpr unsettled)
  cases current.symm.trans state

end Single

namespace Single

/-- Once the operation of the receiver is over no operation needs an arrival. -/
theorem ended (h : s.Single) {r : Receiver} (receiver : s.receiver = some r) {receive : ReceiveId}
    (state : r.state = .receiving receive ∨ ∃ spare, r.state = .idle spare) {found : Receive}
    (there : s.receives[receive]? = some found) (finished : found.isFinished = true)
    {i : ReceiveId} {other : Receive} (here : s.receives[i]? = some other) :
    other.isSettled = true := by
  by_contra unsettled
  have current := h.current i r other receiver here (Bool.eq_false_iff.mpr unsettled)
  rcases state with state | ⟨spare, state⟩
  · cases current.symm.trans state
    cases there.symm.trans here
    apply unsettled
    rw [Receive.isSettled, finished]
    rfl
  · cases current.symm.trans state

/-- The same when the operation of the receiver is asked to stop. -/
theorem stopped (h : s.Single) {r : Receiver} (receiver : s.receiver = some r)
    {receive : ReceiveId} (current : r.state = .receiving receive) {i : ReceiveId}
    {new : Receive} (there : (s.cancelReceive receive).receives[i]? = some new) :
    new.isSettled = true := by
  by_contra unsettled
  obtain ⟨old, here, before⟩ := (s.onward_cancelReceive receive).unsettled
    (s.length_cancelReceive receive) there (Bool.eq_false_iff.mpr unsettled)
  cases current.symm.trans (h.current i r old receiver here before)
  exact unsettled (s.settled_cancelReceive receive there)

end Single

/-- A task that goes on in its turn is not inside a pull. -/
theorem unpulled_set {old new : TaskStatus} (found : s.statuses[id]? = some old)
    (statuses : t.statuses = s.statuses.set id new) (unpulled : new.pulled? = none)
    (status : TaskStatus) (now : t.statuses[id]? = some status) : status.pulled? = none := by
  rw [statuses] at now
  rcases (getElem?_set_eq_some found).mp now with ⟨-, rfl⟩ | ⟨other, -⟩
  · exact unpulled
  · exact absurd rfl other

theorem Takes.statuses_relieve {v : Session} (took : Takes given s (.resume id) v) :
    (v.relieve id).statuses = s.statuses.set id (.running false) := by
  rw [← took.statuses]
  exact statuses_setStatus v id _

theorem Change.single (change : Change given s t) (fit : s.Fit) (h : s.Single) : t.Single := by
  have passes := change.passes fit
  have onward := change.onward fit
  obtain ⟨e, up⟩ := fit.up
  cases change with
  | inert same => exact h.steady passes onward same.receiver (by rw [same.receives])
  | spend took stale => cases took; exact h.steady passes onward rfl rfl
  | tell took blocked => cases took; exact h.steady passes onward rfl rfl
  | drop took queued => cases took; exact h.steady passes onward rfl rfl
  | start took queued => cases took; exact h.steady passes onward rfl rfl
  | goOn took woken other => cases took; exact h.steady passes onward rfl rfl
  | leave took woken =>
    have none := h.left passes ⟨_, woken, rfl⟩ (unpulled_set woken took.statuses_relieve rfl)
    cases took
    refine .nobody none fun i r found receiver there unsettled => ?_
    obtain ⟨before, was, rfl⟩ := Option.map_eq_some_iff.mp receiver
    exact h.current i before found was there unsettled
  | @gain v id receive pull found took woken there brought =>
    have none := h.left passes ⟨_, woken, rfl⟩ (unpulled_set woken took.statuses_relieve rfl)
    obtain ⟨r, receiver⟩ := fit.receiver
    have joined := h.joined id receive r ⟨_, woken, rfl⟩ receiver
    cases took
    refine .nobody none fun i r' other now here unsettled => ?_
    have settled := h.ended receiver joined there (Receive.isFinished_of_hasBrought brought) here
    rw [settled] at unsettled
    cases unsettled
  | @lose v id receive pull found took woken there brought =>
    have left : ((v.relieve id).finish id (s.pullCancelled id pull)).statuses =
        s.statuses.set id (.finished (s.pullCancelled id pull)) := by
      rw [statuses_finish, took.statuses_relieve, List.set_set]
    have none := h.left passes ⟨_, woken, rfl⟩ (unpulled_set woken left rfl)
    cases took
    refine .nobody none fun i r found receiver there unsettled => ?_
    obtain ⟨before, was, rfl⟩ := Option.map_eq_some_iff.mp receiver
    exact h.current i before found was there unsettled
  | @collect id r receive found runs free receiver current there brought =>
    refine .nobody (h.free free) fun i r' other now here unsettled => ?_
    have settled := h.ended receiver (.inl current) there
      (Receive.isFinished_of_hasBrought brought) here
    rw [settled] at unsettled
    cases unsettled
  | @receive id r runs free receiver spare idle buffer buffers provided =>
    refine .nobody (h.free free) fun i r' found now there unsettled => ?_
    rcases getElem?_concat_eq_some.mp there with old | ⟨rfl, rfl⟩
    · cases idle.symm.trans (h.current i r found receiver old unsettled)
    · obtain ⟨before, -, rfl⟩ := Option.map_eq_some_iff.mp now
      rfl
  | @join id r receive pull runs free receiver current =>
    let said := s.setReceiver fun r => { r with waiting := true }
    have told : said.receiver = some { r with waiting := true } := by
      simp only [said, setReceiver, receiver, Option.map_some]
    have watched := (aside_watch said receive id).receiver.trans told
    let joined := (said.watch receive id).setStatus id (.blocked (.pulling receive pull))
    have statuses : joined.statuses = s.statuses.set id (.blocked (.pulling receive pull)) := by
      rw [statuses_setStatus, statuses_eq (aside_watch said receive id).tasks]
      rfl
    have only {i : TaskId} {a : ReceiveId}
        (pulls : joined.Pulls i a) : i = id ∧ a = receive := by
      obtain ⟨status, now, pulled⟩ := pulls
      rw [statuses] at now
      rcases (getElem?_set_eq_some runs).mp now with ⟨rfl, rfl⟩ | ⟨-, old⟩
      · exact ⟨rfl, (Option.some.inj pulled).symm⟩
      · exact absurd ⟨status, old, pulled⟩ (h.free free i a)
    constructor
    case alone => exact fun i j a b first second => (only first).1.trans (only second).1.symm
    case inside =>
      intro i a pulls
      exact (congrArg (·.any Receiver.waiting) watched).trans rfl
    case joined =>
      intro i a r' pulls found
      cases watched.symm.trans found
      obtain ⟨-, rfl⟩ := only pulls
      exact .inl current
    case current =>
      intro i r' new found there unsettled
      obtain ⟨old, here, unsettled⟩ :=
        onward.unsettled (said.length_watch receive id) there unsettled
      cases watched.symm.trans found
      exact h.current i r old receiver here unsettled
  | @stop r receive closed handle receiver current =>
    exact h.rest passes (isIdle_setState _ none) (s.any_cancelReceive receive) fun i new there =>
      h.stopped receiver current there
  | @halt id r receive runs other receiver current =>
    exact h.rest passes (isIdle_setState _ none) (s.any_cancelReceive receive) fun i new there =>
      h.stopped receiver current there
  | @close id r receive outcome runs plain there isOpen receiver current =>
    let stopped := (s.cancelReceive receive).setReceiver fun r => { r with state := .idle none }
    have watched := (aside_watch stopped receive id).receiver
    have waiting := (congrArg (·.any Receiver.waiting) watched).trans (s.any_cancelReceive receive)
    refine h.rest passes ((isIdle_setState (s.cancelReceive receive) none).keep watched) waiting
      fun i new there => ?_
    by_contra unsettled
    obtain ⟨old, here, before⟩ := (stopped.onward_watch receive id).unsettled
      (stopped.length_watch receive id) there (Bool.eq_false_iff.mpr unsettled)
    rw [h.stopped receiver current here] at before
    cases before
  | @release handle there isOpen counted settled =>
    obtain ⟨receiver, receives, -⟩ := aside_releaseHandle fit isOpen counted
    exact h.steady passes onward receiver (congrArg List.length receives)
  | overdrawn there isOpen counted => exact (fit.not_overdrawn there isOpen counted).elim
  | block runs fits =>
    rw [awaitWritable_up up] at passes onward ⊢
    exact h.steady passes onward rfl rfl
  | shut other =>
    rw [closeEndpoint_up up] at passes onward ⊢
    exact h.steady passes onward rfl rfl
  | @wait id found there looks =>
    have here : (s.setReceive id .waiting).link = .up e := up
    rw [setInbox_onto here] at passes onward ⊢
    exact h.steady passes onward rfl (List.length_modify ..)
  | waken up first => exact h.steady passes onward rfl (List.length_modify ..)
  | conclude there turn asked => exact h.steady passes onward rfl (List.length_modify ..)
  | unpull blocked asked => exact h.steady passes onward rfl (List.length_modify ..)
  | urge blocked asked =>
    exact h.steady passes onward (aside_cancelReceive s _).receiver (s.length_cancelReceive _)
  | _ => exact h.steady passes onward rfl rfl

theorem Single.start {layer : Layer} {codec : Codec} {settings : Settings} {e : Endpoint}
    {limit : Int} : (fresh layer codec settings e limit).Single :=
  .nobody (fun i a ⟨status, found, _⟩ => by cases found) fun i r found _ there => by cases there

end Session

end Osc
