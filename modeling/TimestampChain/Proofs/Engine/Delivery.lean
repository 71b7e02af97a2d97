import TimestampChain.Proofs.Engine.Progress
import TimestampChain.Proofs.Engine.WakeUp

/-!
# What an engine delivers

Over whatever earlier runs have left behind, an engine that has been started and whose backend works
makes a block of every payload that is submitted, in order, on top of the block accepted last. A block
that is to be built must not be stored already. An orderly run never stores one, but before the chain
is set up a block can be accepted that the engine builds again.
-/

namespace TimestampChain

open TimestampChain.Action

/-! ## Genuine records -/

/-- Every record is that of a block with the identifier under which it is kept. -/
def Table.Genuine (t : Table Bytes) : Prop :=
  ∀ id bytes, t.get? (Key.block id) = some bytes → ∃ block : Block, block.id = id ∧ block.bytes = bytes

theorem Table.Genuine.accepting {t : Table Bytes} (genuine : t.Genuine) (block : Block) :
    (t.accepting block).Genuine := by
  intro id bytes record
  rw [Table.record_accepting] at record
  split at record
  · next same => exact ⟨block, same.symm, Option.some.inj record⟩
  · exact genuine id bytes record

theorem Table.Genuine.founding {t : Table Bytes} (genuine : t.Genuine) (block : Block) :
    (t.founding block).Genuine := by
  intro id bytes record
  refine genuine.accepting block id bytes ?_
  rw [Table.record_founding] at record
  rw [Table.record_accepting]
  exact record

namespace Controller

variable {c d : Controller} {tip other : Block}

theorem genuine_of_outcome {call : Call} (quiet : c.store.staged = .empty) (genuine : c.table.Genuine)
    (outcome : c.Outcome call d) : d.table.Genuine := by
  rcases outcome.table_cases quiet with same | ⟨block, -, table⟩ | ⟨_, genesis, -, -, table⟩
  · rw [same]
    exact genuine
  · rw [table]
    exact genuine.accepting block
  · rw [table]
    exact genuine.founding genesis

theorem Reachable.genuine (reachable : c.Reachable) : c.table.Genuine := by
  obtain ⟨b, channel, clock, events, empty, rfl⟩ := reachable
  have start : (ofBackend b channel clock).table.Genuine := by
    intro id bytes record
    have table : (ofBackend b channel clock).table = .empty := empty
    rw [table] at record
    cases record
  have step : ∀ (c : Controller) (event : Event), c.Tidy ∧ c.table.Genuine →
      (c.afterEvent event).Tidy ∧ (c.afterEvent event).table.Genuine := by
    rintro c event ⟨tidy, genuine⟩
    refine ⟨tidy.afterEvent event, ?_⟩
    cases event with
    | call call => exact genuine_of_outcome tidy.quiet genuine (afterCall_outcome call tidy.quiet)
    | restart channel clock => exact genuine
    | surround channel clock faults => exact genuine
  exact (follow_invariant step events ⟨tidy_ofBackend b channel clock, start⟩).2

/-- The block is the one accepted last, and its record is there. -/
def HasTip (c : Controller) (tip : Block) : Prop :=
  c.table.get? Key.lastAccepted = some tip.id.toBytes ∧
    c.table.get? (Key.block tip.id) = some tip.bytes

instance (c : Controller) (tip : Block) : Decidable (c.HasTip tip) :=
  inferInstanceAs (Decidable (_ ∧ _))

theorem HasTip.same (first : c.HasTip tip) (second : c.HasTip other) :
    tip.asAccepted = other.asAccepted := by
  have id : tip.id = other.id := by
    have equal := first.1.symm.trans second.1
    exact Bytes32.ext (Option.some.inj equal)
  have record := second.2
  rw [← id, first.2] at record
  exact Block.ext_of_bytes (Option.some.inj record) rfl

def Chained (c : Controller) (tip : Block) : Prop :=
  ∃ blocks, HoldsChain c.table blocks ∧ blocks.getLast? = some tip

theorem chained_of_sound (sound : c.table.Sound) (has : c.HasTip tip) (status : tip.status = .accepted) :
    c.Chained tip := by
  have holds := sound.holdsChain (marker_of_record sound has.1)
  obtain ⟨last, final, pointer⟩ := holds.pointer
  have member := List.mem_of_getLast? final
  have same : last.asAccepted = tip.asAccepted := HasTip.same ⟨pointer, holds.records last member⟩ has
  have bytes : last.asAccepted.bytes = tip.asAccepted.bytes := congrArg Block.bytes same
  have equal : last = tip :=
    Block.ext_of_bytes bytes ((holds.accepted last member).trans status.symm)
  rw [equal] at final
  exact ⟨_, holds, final⟩

end Controller

namespace Engine

open Controller

variable {c d : Controller} {tip : Block} {payloads : List Payload} {blocks : List Block}
  {orderly : Prop}

/-! ## Starting -/

structure Poised (orderly : Prop) (c : Controller) : Prop where
  tidy : c.Tidy
  genuine : c.table.Genuine
  pointed : c.Pointed
  works : c.Works
  live : c.Live
  unverified : c.verified = .empty
  idle : c.mempool.queue = []
  sound : orderly → c.table.Sound

theorem Poised.after_setState (poised : Poised orderly c) (state : EngineState) :
    Poised orderly (c.afterCall (.setState state)) := by
  obtain ⟨tidy, genuine, pointed, works, live, unverified, idle, sound⟩ := poised
  exact ⟨tidy.idle (Spares.idle ⟨⟨0, rfl⟩, rfl⟩), genuine, pointed, works, live, unverified, idle,
    sound⟩

theorem works_of_bootstrap (works : c.Works) (quiet : c.store.staged = .empty) (data : Bytes) :
    ((bootstrap data).run c).2.Works := by
  rcases bootstrap_cases data quiet with ⟨n, preferred, done⟩ |
    ⟨-, genesis, recorded, d, -, -, ⟨k, -, rfl⟩, n, preferred, done⟩ <;> rw [done]
  · exact works.later rfl (Nat.le_add_right _ _)
  · exact works.later rfl (Nat.le_trans (Nat.le_add_right _ _) (Nat.le_add_right _ _))

theorem unverified_of_bootstrap (unverified : c.verified = .empty) (quiet : c.store.staged = .empty)
    (data : Bytes) : ((bootstrap data).run c).2.verified = .empty := by
  rcases bootstrap_cases data quiet with ⟨n, preferred, done⟩ |
    ⟨-, genesis, recorded, d, -, -, ⟨k, -, rfl⟩, n, preferred, done⟩ <;> rw [done]
  · exact unverified
  · show c.verified.erase genesis.id.toBytes = .empty
    rw [unverified]
    rfl

theorem Poised.after_bootstrap (poised : Poised orderly c) (data : Bytes) :
    Poised orderly ((bootstrap data).run c).2 := by
  have quiet := poised.tidy.quiet
  have outcome := afterCall_outcome (.bootstrap data) quiet
  have tidy := poised.tidy.outcome outcome
  have genuine := genuine_of_outcome quiet poised.genuine outcome
  have pointed := pointed_of_outcome quiet poised.pointed outcome
  have inOrder : c.InOrder (.call (.bootstrap data)) := trivial
  have sound := fun ordered => sound_of_outcome poised.tidy (poised.sound ordered) inOrder outcome
  rw [afterCall_eq (x := bootstrap data) rfl] at tidy genuine pointed sound
  have same := bootstrap_sameWork data c
  refine ⟨tidy, genuine, pointed, works_of_bootstrap poised.works quiet data,
    same.live_iff.mpr poised.live, unverified_of_bootstrap poised.unverified quiet data, ?_, sound⟩
  rw [same.mempool]
  exact poised.idle

theorem Poised.after_start (poised : Poised orderly c) (data : Bytes) :
    Poised orderly (after c (.start data)) := by
  have behind := (poised.after_setState .bootstrapping).after_bootstrap data
  show Poised orderly ((start data).run c).2
  rcases start_steps data c with ⟨e, d, here, whole⟩ | ⟨d, here, whole⟩ <;> rw [here] at behind <;>
    rw [whole]
  · exact behind
  · exact behind.after_setState .normalOp

theorem Poised.after_attempts (poised : Poised orderly c) (attempts : List Bytes) :
    Poised orderly (follow c (attempts.map .start)) := by
  induction attempts generalizing c with
  | nil => exact poised
  | cons data rest ih => exact ih (poised.after_start data)

/-- An engine that has been started stands on the block accepted last. -/
theorem Poised.standing {data : Bytes} (poised : Poised orderly c)
    (started : (start data).run c = (.ok (), d)) :
    ∃ tip, Standing d tip ∧ (orderly → d.Chained tip) := by
  have behind := poised.after_start data
  have same : after c (.start data) = d := congrArg Prod.snd started
  rw [same] at behind
  have named : d.tip = .ok d.preferred := by
    rcases start_steps data c with ⟨e, t, -, whole⟩ | ⟨t, done, whole⟩
    · cases whole.symm.trans started
    · cases whole.symm.trans started
      have named := tip_of_bootstrap done
      exact named
  have opened := open_of_tip named
  have pointer := (tip_eq_ok_iff opened behind.tidy.quiet).mp named
  obtain ⟨bytes, record⟩ := Option.isSome_iff_exists.mp (behind.pointed _ pointer)
  obtain ⟨block, id, rfl⟩ := behind.genuine _ _ record
  have has : d.HasTip block.asAccepted := by
    rw [← id] at pointer record
    exact ⟨pointer, record⟩
  refine ⟨block.asAccepted, ?_, fun ordered => chained_of_sound (behind.sound ordered) has rfl⟩
  exact ⟨behind.tidy, opened, behind.works, rfl, has.2, has.1, id.symm⟩

/-! ## Draining -/

/-- Above the block accepted last there is room for blocks with the payloads that wait, and these clash
with no other block. -/
def Clear (c : Controller) : Prop :=
  ∀ tip, c.HasTip tip → tip.height.toNat + c.mempool.queue.length < UInt64.size ∧
    c.table.NoClash (tip.plan c.clock c.mempool.queue)

/-- No block that carries the payloads that wait above the block accepted last is stored already. -/
def Fresh (c : Controller) : Prop :=
  ∀ tip, c.HasTip tip → c.table.Unstored (tip.plan c.clock c.mempool.queue)

theorem clear_of_hasTip (has : c.HasTip tip)
    (room : tip.height.toNat + c.mempool.queue.length < UInt64.size)
    (unclashing : c.table.NoClash (tip.plan c.clock c.mempool.queue)) : Clear c := by
  intro other has'
  have same : tip.asAccepted = other.asAccepted := has.same has'
  have height : tip.asAccepted.height = other.asAccepted.height := congrArg Block.height same
  have plan := Block.plan_asAccepted other c.clock c.mempool.queue
  rw [← same, Block.plan_asAccepted] at plan
  rw [← plan]
  exact ⟨height ▸ room, unclashing⟩

/-- The blocks carry the payloads above the tip, and nothing is left to do. -/
structure Delivers (tip : Block) (submitted : List Payload) (blocks : List Block) (d : Controller) :
    Prop where
  payloads : blocks.map Block.payload = submitted
  linked : (tip :: blocks).IsChain fun parent child => child.Follows parent
  accepted : ∀ block ∈ blocks, block.status = .accepted
  stored : ∀ block ∈ blocks, d.table.get? (Key.block block.id) = some block.bytes
  emptied : d.mempool.queue = []
  unverified : d.verified = .empty
  silent : d.channel.waiting = 0
  preferred : d.preferred = (blocks.getLastD tip).id
  last : (lastAccepted.run d).1 = .ok (blocks.getLastD tip).id

/-- An engine that stands on a block, with payloads that wait and a signal for them. -/
structure Serving (orderly : Prop) (c : Controller) (tip : Block) (payloads : List Payload) : Prop where
  standing : Standing c tip
  live : c.Live
  awake : c.Awake
  unverified : c.verified = .empty
  queue : c.mempool.queue = payloads
  chained : orderly → c.Chained tip

theorem Standing.hasTip (standing : Standing c tip) : c.HasTip tip :=
  ⟨standing.pointer, standing.record⟩

theorem Standing.run_lastAccepted (standing : Standing c tip) :
    (lastAccepted.run c).1 = .ok tip.id :=
  run_lastAccepted_of_pointer standing.tidy.quiet standing.opened standing.works standing.pointer

theorem Serving.lacks (serving : Serving orderly c tip payloads) (clear : Clear c)
    (new : orderly ∨ Fresh c) :
    tip.height.toNat + payloads.length < UInt64.size ∧
      c.table.Lacks (tip.plan c.clock payloads) := by
  obtain ⟨room, unclashing⟩ := clear tip serving.standing.hasTip
  have unstored : c.table.Unstored (tip.plan c.clock c.mempool.queue) := by
    rcases new with ordered | fresh
    · obtain ⟨chain, holds, final⟩ := serving.chained ordered
      exact holds.unstored final room
    · exact fresh tip serving.standing.hasTip
  have lacks := unclashing.lacks room unstored
  rw [serving.queue] at room lacks
  exact ⟨room, lacks⟩

/-- Every payload that waits is put behind the tip, and the engine waits for the next ones there. -/
theorem Serving.drain_of_lacks (serving : Serving orderly c tip payloads)
    (room : tip.height.toNat + payloads.length < UInt64.size)
    (lacks : c.table.Lacks (tip.plan c.clock payloads)) :
    ∃ d, drain.run c = (.ok ((tip.plan c.clock payloads).map Block.asAccepted), d) ∧
      d.channel.waiting = 0 ∧ Settles c tip (tip.plan c.clock payloads) d ∧
      Serving orderly d (((tip.plan c.clock payloads).map Block.asAccepted).getLastD tip) [] := by
  have drained : ∃ d, drain.run c = (.ok ((tip.plan c.clock payloads).map Block.asAccepted), d) ∧
      d.mempool.queue = [] ∧ d.channel.waiting = 0 ∧
      Settles c tip (tip.plan c.clock payloads) d := by
    rw [← serving.queue] at room lacks ⊢
    by_cases silent : c.channel.waiting = 0
    · have empty : c.mempool.queue = [] := by
        by_contra waits
        have waiting := serving.awake waits
        omega
      rw [empty]
      exact ⟨c, drain_of_silent silent, empty, silent, serving.standing, rfl, rfl, rfl, id⟩
    · exact serving.standing.drain (by omega) room lacks
  obtain ⟨d, run, empty, silent, settles⟩ := drained
  have live : d.Live := by
    have live := live_drain serving.live
    rw [run] at live
    exact live
  refine ⟨d, run, silent, settles, settles.standing, live, fun waits => absurd empty waits,
    settles.unverified serving.unverified, empty, fun ordered => ?_⟩
  obtain ⟨chain, holds, final⟩ := serving.chained ordered
  have longer := holdsChain_acceptingAll holds final room lacks
  rw [← settles.table] at longer
  exact ⟨_, longer, getLast?_append_of_some final⟩

theorem Serving.delivers (serving : Serving orderly c tip payloads) (clear : Clear c)
    (new : orderly ∨ Fresh c) :
    ∃ blocks d, drain.run c = (.ok blocks, d) ∧ Delivers tip payloads blocks d ∧
      Serving orderly d (blocks.getLastD tip) [] := by
  obtain ⟨room, lacks⟩ := serving.lacks clear new
  obtain ⟨d, run, silent, settles, serving'⟩ := serving.drain_of_lacks room lacks
  refine ⟨_, d, run, ?_, serving'⟩
  refine ⟨?_, Block.isChain_plan room, ?_, ?_, serving'.queue, serving'.unverified, silent,
    settles.standing.preferred, settles.standing.run_lastAccepted⟩
  · rw [List.map_map]
    exact Block.payloads_plan tip c.clock payloads
  · intro block member
    obtain ⟨planned, -, rfl⟩ := List.mem_map.mp member
    rfl
  · intro block member
    obtain ⟨planned, there, rfl⟩ := List.mem_map.mp member
    have record : (c.table.acceptingAll (tip.plan c.clock payloads)).get? (Key.block planned.id) =
        some planned.bytes := Table.record_acceptingAll lacks.1 there
    rw [settles.table]
    exact record

/-! ## Work -/

def Event.IsWork : Event → Prop
  | .submit _ | .drain | .notify => True
  | .start _ | .shutdown | .surround .. => False

def Event.pend (payloads : List Payload) : Event → List Payload
  | .submit data =>
    if short : data.length ≤ Payload.size then payloads ++ [Bytes32.pad data short] else payloads
  | .drain => []
  | _ => payloads

def pending (events : List Event) : List Payload := events.foldl Event.pend []

/-- Whenever the engine is drained along the events, the controller has the property. -/
def AtDrains (P : Controller → Prop) : Controller → List Event → Prop
  | _, [] => True
  | c, event :: events => (event = .drain → P c) ∧ AtDrains P (after c event) events

theorem atDrains_concat {P : Controller → Prop} {events : List Event} :
    AtDrains P c (events ++ [.drain]) ↔ AtDrains P c events ∧ P (follow c events) := by
  induction events generalizing c with
  | nil => exact ⟨fun h => ⟨trivial, h.1 rfl⟩, fun h => ⟨fun _ => h.2, trivial⟩⟩
  | cons event events ih =>
      exact ⟨fun h => ⟨⟨h.1, (ih.mp h.2).1⟩, (ih.mp h.2).2⟩, fun h => ⟨h.1.1, ih.mpr ⟨h.1.2, h.2⟩⟩⟩

theorem Serving.submitted (serving : Serving orderly c tip payloads) (payload : Payload) :
    Serving orderly (c.proposing payload) tip (payloads ++ [payload]) := by
  obtain ⟨live, waiting⟩ := serving.live.notify (c.mempool.push payload)
  refine ⟨serving.standing.spared ⟨⟨0, rfl⟩, rfl⟩ rfl, live, fun _ => waiting, serving.unverified, ?_,
    serving.chained⟩
  rw [← serving.queue]
  rfl

theorem Serving.after_event (serving : Serving orderly c tip payloads) {event : Event}
    (work : event.IsWork) (clear : event = .drain → Clear c)
    (new : orderly ∨ (event = .drain → Fresh c)) :
    ∃ tip, Serving orderly (after c event) tip (event.pend payloads) := by
  cases event with
  | start data => exact work.elim
  | shutdown => exact work.elim
  | surround clock faults => exact work.elim
  | notify =>
      obtain ⟨live, waiting⟩ := serving.live.notify c.mempool
      exact ⟨tip, serving.standing.spared ⟨⟨0, rfl⟩, rfl⟩ rfl, live, fun _ => waiting,
        serving.unverified, serving.queue, serving.chained⟩
  | submit data =>
      refine ⟨tip, ?_⟩
      show Serving orderly ((propose data).run c).2 tip _
      by_cases short : data.length ≤ Payload.size
      · rw [propose_of_payload (dif_pos short), Event.pend, dif_pos short]
        exact serving.submitted _
      · rw [propose_of_long (dif_neg short), Event.pend, dif_neg short]
        exact serving
  | drain =>
      have new : orderly ∨ Fresh c := new.imp id fun fresh => fresh rfl
      obtain ⟨blocks, d, run, -, serving'⟩ := serving.delivers (clear rfl) new
      refine ⟨blocks.getLastD tip, ?_⟩
      show Serving orderly (drain.run c).2 _ _
      rw [run]
      exact serving'

theorem Serving.after_events (serving : Serving orderly c tip payloads) {events : List Event}
    (work : ∀ event ∈ events, event.IsWork) (clear : AtDrains Clear c events)
    (new : orderly ∨ AtDrains Fresh c events) :
    ∃ tip, Serving orderly (follow c events) tip (events.foldl Event.pend payloads) := by
  induction events generalizing c tip payloads with
  | nil => exact ⟨tip, serving⟩
  | cons event events ih =>
      obtain ⟨tip', serving'⟩ := serving.after_event (work event List.mem_cons_self) clear.1
        (new.imp id And.left)
      exact ih serving' (fun later member => work later (List.mem_cons_of_mem _ member)) clear.2
        (new.imp id And.right)

/-- An engine is started over what earlier runs have left behind, and its backend works. Every drain then
makes a block of each payload that has been submitted since the one before, unless a block that is built
has the identifier of a different block, there is no height left, or the earlier runs were not orderly
and have stored the very block that is to be built. What is too long is refused. -/
theorem drain_delivers {earlier c₁ : Controller} {b : Backend} {clock : Clock} {depth : Nat}
    {attempts : List Bytes} {data : Bytes} {events : List Event} (left : earlier.Reachable)
    (table : b.table = earlier.table) (slot : 0 < depth)
    (works : (ofBackend b (.ofDepth depth) clock).Works)
    (started : (start data).run
      (follow (.ofBackend b (.ofDepth depth) clock) (attempts.map .start)) = (.ok (), c₁))
    (work : ∀ event ∈ events, event.IsWork) (clear : AtDrains Clear c₁ (events ++ [.drain]))
    (new : earlier.Reached ∨ AtDrains Fresh c₁ (events ++ [.drain])) :
    (∃ tip blocks d, (follow c₁ events).HasTip tip ∧
        drain.run (follow c₁ events) = (.ok blocks, d) ∧ Delivers tip (pending events) blocks d) ∧
      ∀ bytes : Bytes,
        (bytes.length ≤ Payload.size → ((submit bytes).run (follow c₁ events)).1 = .ok ()) ∧
        (Payload.size < bytes.length → (submit bytes).run (follow c₁ events) =
          (.error (.badPayload bytes.length Payload.size), follow c₁ events)) := by
  obtain ⟨tidy, pointed⟩ := left.tidy_and_pointed
  have poised : Poised earlier.Reached (.ofBackend b (.ofDepth depth) clock) := by
    refine ⟨tidy_ofBackend _ _ _, ?_, ?_, works, ⟨rfl, slot⟩, rfl, rfl, fun ordered => ?_⟩
    · show b.table.Genuine
      rw [table]
      exact left.genuine
    · intro id
      show b.table.get? _ = _ → (b.table.get? _).isSome
      rw [table]
      exact pointed id
    · show b.table.Sound
      rw [table]
      exact ordered.settled.sound
  have ready := poised.after_attempts attempts
  obtain ⟨tip₁, standing, chained⟩ := ready.standing started
  have behind : Poised earlier.Reached c₁ := by
    have behind := ready.after_start data
    have same : after _ (.start data) = c₁ := congrArg Prod.snd started
    rw [same] at behind
    exact behind
  have serving : Serving earlier.Reached c₁ tip₁ [] :=
    ⟨standing, behind.live, fun waits => absurd behind.idle waits, behind.unverified, behind.idle,
      chained⟩
  obtain ⟨clear, clear'⟩ := atDrains_concat.mp clear
  have new' : earlier.Reached ∨ AtDrains Fresh c₁ events ∧ Fresh (follow c₁ events) :=
    new.imp id atDrains_concat.mp
  obtain ⟨tip, serving⟩ := serving.after_events work clear (new'.imp id And.left)
  obtain ⟨blocks, d, run, delivers, -⟩ := serving.delivers clear' (new'.imp id And.right)
  refine ⟨⟨tip, blocks, d, serving.standing.hasTip, run, delivers⟩, fun bytes => ⟨?_, ?_⟩⟩
  · intro short
    exact congrArg Prod.fst (propose_of_payload (dif_pos short) _)
  · intro long
    exact propose_of_long (dif_neg (by omega)) _

end Engine

end TimestampChain

/-! ## A block that is built again -/

namespace TimestampChain.Sample

def root : Block := Block.create BlockId.none 0 (Bytes32.pad [] (Nat.zero_le 32)) 0

def retried : Controller :=
  Engine.after (Engine.follow engine ([List.replicate 40 7].map .start)) (.start [])

/-- Two payloads that are drained, and two more with one between them that is too long. -/
def requests : List Engine.Event := [
  .submit [2], .notify, .submit [3], .drain,
  .submit [4], .submit (List.replicate 40 7), .submit [5]]

def drained : Block :=
  (root.plan (.still 1000) [Bytes32.pad [2] (by decide), Bytes32.pad [3] (by decide)]).getLastD root

theorem started_retried :
    ((Engine.start []).run (Engine.follow engine ([List.replicate 40 7].map .start))).1 = .ok () := by
  decide +kernel

theorem clear_before_drained :
    (Engine.follow retried (requests.take 3)).HasTip root ∧
      root.height.toNat + (Engine.follow retried (requests.take 3)).mempool.queue.length < UInt64.size ∧
      (Engine.follow retried (requests.take 3)).table.NoClash
        (root.plan (Engine.follow retried (requests.take 3)).clock
          (Engine.follow retried (requests.take 3)).mempool.queue) := by
  decide +kernel

theorem clear_behind_drained :
    (Engine.follow retried requests).HasTip drained ∧
      drained.height.toNat + (Engine.follow retried requests).mempool.queue.length < UInt64.size ∧
      (Engine.follow retried requests).table.NoClash
        (drained.plan (Engine.follow retried requests).clock
          (Engine.follow retried requests).mempool.queue) := by
  decide +kernel

/-- An earlier run, in which a block is accepted and the chain is not set up. -/
def early : Controller := unset.follow [.call (.accept unwritten)]

def resumed : Controller := .ofBackend (.ofTable early.table) (.ofDepth 1) (.still 1000)

def again : Controller := Engine.follow (Engine.after resumed (.start [])) [.submit [2]]

theorem again_facts :
    ((Engine.start []).run resumed).1 = .ok () ∧ again.HasTip root ∧
      root.height.toNat + again.mempool.queue.length < UInt64.size ∧
      again.table.NoClash (root.plan again.clock again.mempool.queue) ∧
      (Controller.lastAccepted.run (Engine.drain.run again).2).1 ≠
        .ok (Engine.drain.run again).2.preferred := by
  decide +kernel

end TimestampChain.Sample

namespace TimestampChain.Engine

open TimestampChain.Action Controller

/-- The second drain delivers the payloads submitted behind the first one, on top of its blocks. -/
theorem retried_delivers :
    Sample.engine.Works ∧
      ∃ tip blocks d, (follow Sample.retried Sample.requests).HasTip tip ∧ tip.height = 2 ∧
        drain.run (follow Sample.retried Sample.requests) = (.ok blocks, d) ∧
        Delivers tip [Bytes32.pad [4] (by decide), Bytes32.pad [5] (by decide)] blocks d := by
  obtain ⟨has, room, unclashing⟩ := Sample.clear_before_drained
  obtain ⟨has', room', unclashing'⟩ := Sample.clear_behind_drained
  have works : Sample.engine.Works := fun _ _ _ => rfl
  have reachable : Sample.engine.Reachable := ⟨_, _, _, [], rfl, rfl⟩
  have work : ∀ event ∈ Sample.requests, event.IsWork := by simp [Sample.requests, Event.IsWork]
  have clear : AtDrains Clear Sample.retried (Sample.requests ++ [.drain]) :=
    atDrains_concat.mpr
      ⟨⟨nofun, nofun, nofun, fun _ => clear_of_hasTip has room unclashing, nofun, nofun, nofun,
        trivial⟩, clear_of_hasTip has' room' unclashing'⟩
  obtain ⟨⟨tip, blocks, d, tipped, run, delivers⟩, -⟩ :=
    drain_delivers (b := .ofTable .empty) reachable rfl Nat.one_pos works
      (run_eq Sample.started_retried) work clear (Or.inl Sample.reached_engine)
  have same : Sample.drained.asAccepted.height = tip.asAccepted.height :=
    congrArg Block.height (has'.same tipped)
  have height : Sample.drained.height = 2 := by decide +kernel
  exact ⟨works, tip, blocks, d, tipped, same.symm.trans height, run, delivers⟩

/-- What is built is stored already, so it is preferred and the block accepted last is another one. -/
theorem resumed_not_delivered :
    Sample.early.Reachable ∧ Sample.resumed.table = Sample.early.table ∧ Sample.resumed.Works ∧
      ((start []).run Sample.resumed).1 = .ok () ∧
      AtDrains Clear (after Sample.resumed (.start [])) ([.submit [2]] ++ [.drain]) ∧
      Sample.again = follow (after Sample.resumed (.start [])) [.submit [2]] ∧
      ¬ ∃ tip blocks d, Sample.again.HasTip tip ∧ drain.run Sample.again = (.ok blocks, d) ∧
        Delivers tip (pending [.submit [2]]) blocks d := by
  obtain ⟨started, has, room, unclashing, apart⟩ := Sample.again_facts
  have clear : Clear Sample.again := clear_of_hasTip has room unclashing
  refine ⟨⟨_, _, _, [.call (.accept Sample.unwritten)], rfl, rfl⟩, rfl, fun _ _ _ => rfl, started,
    ⟨fun other => (by cases other), fun _ => clear, trivial⟩, rfl, ?_⟩
  rintro ⟨tip, blocks, d, -, run, delivers⟩
  have last := delivers.last
  rw [← delivers.preferred] at last
  rw [run] at apart
  exact apart last

end TimestampChain.Engine
