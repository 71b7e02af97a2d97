import TimestampChain.Proofs.Chain.Founding
import TimestampChain.Proofs.Engine.Plans
import TimestampChain.Proofs.Engine.Turns

/-!
# An engine that stands on a block

While the preferred block is the one accepted last and no request fails, every turn puts one more block
behind it. A round does so with every payload that waits, and so does a drain that finds a signal, which
leaves no signal behind.
-/

namespace TimestampChain

namespace Controller

open TimestampChain.Action

variable {c d : Controller} {block : Block} {id : BlockId}

def Works (c : Controller) : Prop :=
  ∀ number request, c.store.backend.requests ≤ number → c.store.backend.faults number request = none

theorem Works.unfailing {α : Type} {x : Step α} (works : c.Works) : Unfailing x c :=
  fun number request from_here _ => works number request from_here

theorem Works.fault?_eq_none (works : c.Works) (requests : List Request) : c.fault? requests = none :=
  FaultPolicy.first?_of_none fun number request from_here => works number request from_here

theorem Works.not_fails {n : Nat} {e : ControllerError} (works : c.Works) : ¬ Counted.Fails c n e := by
  rintro ⟨text, ⟨k, -, request, fault⟩, -⟩
  rw [works _ request (Nat.le_add_right _ k)] at fault
  cases fault

theorem Works.later (works : c.Works) (policy : d.store.backend.faults = c.store.backend.faults)
    (later : c.store.backend.requests ≤ d.store.backend.requests) : d.Works := by
  intro number request from_here
  rw [policy]
  exact works number request (Nat.le_trans later from_here)

theorem find_of_stored (tidy : c.Tidy) (opened : c.store.closed = false)
    (status : block.status = .accepted)
    (record : c.table.get? (Key.block block.id) = some block.bytes) : c.find block.id = .ok block := by
  have same : block.asAccepted = block := Block.ext_of_bytes rfl status.symm
  rw [find_of_record tidy opened record, same]

/-- A new block above one that is found is to be kept. -/
theorem verification_of_found {parent : Block} (quiet : c.store.staged = .empty)
    (opened : c.store.closed = false) (status : block.status = .processing)
    (absent : c.table.get? (Key.block block.id) = none) (found : c.findParent block.parent = .ok parent)
    (follows : block.Follows parent) : c.verification block = .ok true := by
  have unstored := unstored_of_absent quiet opened absent
  rw [verification, status]
  refine bind_eq_ok_iff.mpr ⟨false, mapError_eq_ok_iff.mpr unstored, ?_⟩
  refine bind_eq_ok_iff.mpr ⟨parent, found, ?_⟩
  exact bind_eq_ok_iff.mpr ⟨(), checkChild_eq_ok_iff.mpr follows, rfl⟩

theorem verification_of_extends (tidy : c.Tidy) (opened : c.store.closed = false)
    (status : block.status = .processing) (absent : c.table.get? (Key.block block.id) = none)
    (linked : c.Extends block) : c.verification block = .ok true := by
  obtain ⟨parent, found, child, -⟩ := extension_eq_ok_iff.mp (linked.extension tidy opened)
  exact verification_of_found tidy.quiet opened status absent found (checkChild_eq_ok_iff.mp child)

theorem admission_of_extends (tidy : c.Tidy) (opened : c.store.closed = false)
    (linked : c.Extends block) : c.admission block = .ok () := by
  have marked := marked_of_open tidy.quiet opened
  cases marker : (c.table.get? Key.initialized).isSome with
  | false => exact admission_of_unmarked (marker ▸ marked) block
  | true =>
      rw [marker] at marked
      rw [admission, marked]
      exact linked.extension tidy opened

/-- While nothing fails, a new block that extends the chain is accepted. -/
theorem accept_of_extends (tidy : c.Tidy) (opened : c.store.closed = false) (works : c.Works)
    (status : block.status = .processing) (absent : c.table.get? (Key.block block.id) = none)
    (linked : c.Extends block) :
    ∃ n, (accept block).run c =
        (.ok block.asAccepted, ((c.counting n).written (.ofAccepted block)).adopting block.id) ∧
      (((c.counting n).written (.ofAccepted block)).adopting block.id).Tidy := by
  have unstored := unstored_of_absent tidy.quiet opened absent
  have admitted := admission_of_extends tidy opened linked
  rcases accept_of_fresh status tidy.quiet unstored admitted with ⟨d, wrote, done⟩ |
    ⟨n, e, fails, failed⟩
  · have adopted := tidy.adopting wrote fun id other => by
      rw [table_of_accepted wrote, Table.record_accepting, if_neg other]
    obtain ⟨n, -, rfl⟩ := wrote
    exact ⟨n + 1, done, adopted⟩
  · exact absurd fails works.not_fails

theorem run_lastAccepted_of_pointer (quiet : c.store.staged = .empty) (opened : c.store.closed = false)
    (works : c.Works) (pointer : c.table.get? Key.lastAccepted = some id.toBytes) :
    (lastAccepted.run c).1 = .ok id := by
  have named := (tip_eq_ok_iff opened quiet).mpr pointer
  obtain ⟨n, done⟩ := run_of_unfailing (named ▸ lastAccepted_answers c) works.unfailing
  rw [done]

def settling (c : Controller) (block : Block) : Controller :=
  ((c.remembering block).written (.ofAccepted block)).adopting block.id

theorem table_settling (c : Controller) (block : Block) :
    (c.settling block).table = c.table.accepting block := rfl

theorem verified_settling (unverified : c.verified = .empty) (block : Block) :
    (c.settling block).verified = .empty := by
  show (c.verified.insert block.id.toBytes block).erase block.id.toBytes = .empty
  rw [unverified]
  apply Table.ext
  intro key
  rw [Table.get?_erase, Table.get?_insert]
  by_cases same : key = block.id.toBytes <;> simp [same]

end Controller

namespace Engine

open TimestampChain.Action Controller

variable {c d n : Controller} {block last : Block} {payload : Payload} {payloads : List Payload}

/-! ## One turn -/

/-- The store is open, no request fails from now on, and the preferred block is the one accepted last,
whose record is there. -/
structure Standing (c : Controller) (last : Block) : Prop where
  tidy : c.Tidy
  opened : c.store.closed = false
  works : c.Works
  accepted : last.status = .accepted
  record : c.table.get? (Key.block last.id) = some last.bytes
  pointer : c.table.get? Key.lastAccepted = some last.id.toBytes
  preferred : c.preferred = last.id

theorem Standing.spared (standing : Standing c last) (spared : c.Spares d)
    (preferred : d.preferred = c.preferred) : Standing d last := by
  have table := spared.idle.table_eq
  obtain ⟨n, store⟩ := spared.store
  refine ⟨standing.tidy.idle spared.idle, ?_, standing.works.later ?_ ?_, standing.accepted, ?_, ?_,
    preferred.trans standing.preferred⟩
  · rw [store]
    exact standing.opened
  · rw [store]
    rfl
  · rw [store]
    exact Nat.le_add_right _ n
  · rw [table]
    exact standing.record
  · rw [table]
    exact standing.pointer

theorem Standing.withChannel (standing : Standing c last) (channel : Channel) :
    Standing { c with channel := channel } last :=
  standing.spared ⟨⟨0, rfl⟩, rfl⟩ rfl

/-- The next block is built on the last one. -/
theorem Standing.composition (standing : Standing c last) (below : last.height ≠ maxHeight)
    (payload : Payload) : c.composition payload = .ok (last.successor payload c.clock.now) := by
  refine composition_eq_ok_iff.mpr ⟨last, mapError_eq_ok_iff.mpr ?_, below, rfl⟩
  rw [standing.preferred]
  exact find_of_stored standing.tidy standing.opened standing.accepted standing.record

/-- While nothing fails, a new block that extends the chain is settled. -/
theorem settle_of_extends (tidy : c.Tidy) (opened : c.store.closed = false) (works : c.Works)
    (status : block.status = .processing) (absent : c.table.get? (Key.block block.id) = none)
    (linked : c.Extends block) :
    ∃ n, (settle block).run c = (.ok block.asAccepted, (c.counting n).settling block) ∧
      ((c.counting n).settling block).Tidy := by
  have judged := verification_of_extends tidy opened status absent linked
  obtain ⟨k, checked⟩ := run_of_unfailing (verify_of_new judged) works.unfailing
  have behind := tidy.remembering judged k
  -- What is verified and preferred does not count for the extension.
  have tidy' : (((c.counting k).remembering block).preferring block.id).Tidy :=
    behind.idle (Spares.idle ⟨⟨0, rfl⟩, rfl⟩)
  have works' : (((c.counting k).remembering block).preferring block.id).Works :=
    works.later rfl (Nat.le_add_right _ _)
  have steps : (settle block).run c =
      (accept block).run (((c.counting k).remembering block).preferring block.id) :=
    run_bind_ok checked
  obtain ⟨j, done, adopted⟩ := accept_of_extends tidy' opened works' status absent linked
  refine ⟨k + j, ?_, ?_⟩ <;> rw [← counting_counting]
  · exact steps.trans done
  · exact adopted

structure Settles (c : Controller) (last : Block) (blocks : List Block) (d : Controller) : Prop where
  standing : Standing d ((blocks.map Block.asAccepted).getLastD last)
  table : d.table = c.table.acceptingAll blocks
  depth : d.channel.depth = c.channel.depth
  clock : d.clock = c.clock.forward blocks.length
  unverified : c.verified = .empty → d.verified = .empty

theorem Settles.cons {m : Controller} {blocks : List Block} (first : Settles c last [block] m)
    (rest : Settles m block.asAccepted blocks d) : Settles c last (block :: blocks) d := by
  constructor
  · rw [List.map_cons, List.getLastD_cons]
    exact rest.standing
  · rw [rest.table, first.table]
    rfl
  · exact rest.depth.trans first.depth
  · rw [rest.clock, first.clock]
    exact Clock.forward_tick c.clock blocks.length
  · exact fun unverified => rest.unverified (first.unverified unverified)

/-- While nothing fails, a turn stores the oldest payload in a new block behind the last one. -/
theorem Standing.turn (standing : Standing c last) {rest : List Payload}
    (queue : c.mempool.queue = payload :: rest) (below : last.height ≠ maxHeight)
    (absent : c.table.get? (Key.block (last.successor payload c.clock.now).id) = none) :
    ∃ n d, build.run c = (.ok (last.successor payload c.clock.now), n) ∧
      (settle (last.successor payload c.clock.now)).run n =
        (.ok (last.successor payload c.clock.now).asAccepted, d) ∧
      d.mempool.queue = rest ∧ Settles c last [last.successor payload c.clock.now] d := by
  have popped : c.mempool.pop? = some (payload, ⟨rest⟩) := Mempool.pop?_eq_some_iff.mpr queue
  have composed := standing.composition below payload
  obtain ⟨k, built⟩ := run_of_unfailing (build_of_composed popped composed) standing.works.unfailing
  have tidy : ((c.counting k).building ⟨rest⟩).Tidy :=
    standing.tidy.idle (Spares.idle ⟨⟨k, rfl⟩, rfl⟩)
  have works : ((c.counting k).building ⟨rest⟩).Works :=
    standing.works.later rfl (Nat.le_add_right _ _)
  have follows := Block.follows_successor below payload c.clock.now
  have linked : ((c.counting k).building ⟨rest⟩).Extends (last.successor payload c.clock.now) :=
    ⟨last, standing.pointer, standing.record, follows⟩
  obtain ⟨j, done, tidy'⟩ := settle_of_extends tidy standing.opened works rfl absent linked
  refine ⟨_, _, built, done, rfl, ?_, rfl, ?_, rfl, fun unverified => verified_settling unverified _⟩
  · refine ⟨tidy', standing.opened, works.later rfl (Nat.le_add_right _ _), rfl, ?_, ?_, rfl⟩
    · rw [table_settling, Table.record_accepting]
      exact if_pos rfl
    · rw [table_settling, Table.pointer_accepting]
      rfl
  · show ((c.counting k).building ⟨rest⟩).channel.depth = c.channel.depth
    unfold building
    dsimp only
    split
    · rfl
    · exact Channel.depth_notify c.channel

/-! ## A round -/

/-- While nothing fails, a round stores every payload that waits. -/
theorem Standing.buildAll (standing : Standing c last) (queue : c.mempool.queue = payloads)
    (room : last.height.toNat + payloads.length < UInt64.size)
    (lacks : c.table.Lacks (last.plan c.clock payloads)) {fuel : Nat}
    (enough : payloads.length < fuel) (settled : List Block) :
    ∃ d, (buildAll fuel settled).run c =
        (.ok (settled ++ (last.plan c.clock payloads).map Block.asAccepted), d) ∧
      d.mempool.queue = [] ∧ Settles c last (last.plan c.clock payloads) d := by
  induction payloads generalizing c last fuel settled with
  | nil =>
      refine ⟨c, ?_, queue, standing, rfl, rfl, rfl, id⟩
      rw [buildAll_of_empty queue]
      exact congrArg (fun blocks => (Except.ok blocks, c)) (List.append_nil settled).symm
  | cons payload rest ih =>
      obtain ⟨fuel, rfl⟩ : ∃ k, fuel = k + 1 := ⟨fuel - 1, by omega⟩
      rw [List.length_cons] at room enough
      have below : last.height ≠ maxHeight := height_ne_maxHeight (by omega)
      obtain ⟨absent, lacks'⟩ := Table.lacks_of_cons lacks
      obtain ⟨n, d, built, done, queue', turn⟩ := standing.turn queue below absent
      have height : (last.successor payload c.clock.now).asAccepted.height.toNat =
          last.height.toNat + 1 := toNat_height_succ below
      have table : d.table = c.table.accepting (last.successor payload c.clock.now) := turn.table
      have clock : d.clock = c.clock.tick := turn.clock
      have standing' : Standing d (last.successor payload c.clock.now).asAccepted := turn.standing
      -- The induction plans the rest above the block as it is stored, at the times behind the turn.
      rw [← table, ← Block.plan_asAccepted, ← clock] at lacks'
      obtain ⟨e, run, empty, rest'⟩ :=
        ih standing' queue' (by omega) lacks' (by omega : rest.length < fuel)
          (settled ++ [(last.successor payload c.clock.now).asAccepted])
      rw [Block.plan_asAccepted, clock] at run rest'
      refine ⟨e, ?_, empty, turn.cons rest'⟩
      rw [buildAll_of_turn built done, run, List.append_assoc]
      rfl

/-! ## A drain -/

/-- Once the queue is empty, signals lead to no more blocks and are taken. -/
theorem drainSignals_of_empty (empty : c.mempool.queue = []) (fuel : Nat) (settled : List Block) :
    ∃ channel, (drainSignals fuel settled).run c = (.ok settled, { c with channel := channel }) ∧
      channel.waiting = c.channel.waiting - fuel ∧ channel.depth = c.channel.depth := by
  induction fuel generalizing c with
  | zero => exact ⟨c.channel, rfl, rfl, rfl⟩
  | succ fuel ih =>
      have left := c.channel.waiting_receive
      have depth := c.channel.depth_receive
      have signal := c.channel.receive_fst_eq_signal_iff
      rw [drainSignals, run_bind_ok (run_receive c)]
      cases heard : c.channel.receive.1 with
      | nothing =>
          rw [heard] at signal
          exact ⟨c.channel.receive.2, rfl, by simp at signal; omega, depth⟩
      | disconnected =>
          rw [heard] at signal
          exact ⟨c.channel.receive.2, rfl, by simp at signal; omega, depth⟩
      | signal =>
          have looked : ({ c with channel := c.channel.receive.2 } : Controller).mempool.queue = [] :=
            empty
          obtain ⟨channel, run, waiting, same⟩ := ih looked
          refine ⟨channel, ?_, ?_, same.trans depth⟩
          · dsimp only
            rw [run_bind_ok (run_state _), run_bind_ok (buildAll_of_empty looked _ _)]
            exact run
          · dsimp only at waiting
            omega

/-- A signal that waits starts a round. -/
theorem drainSignals_of_signal (waiting : 0 < c.channel.waiting) (fuel : Nat) (settled : List Block) :
    (drainSignals (fuel + 1) settled).run c =
      (buildAll (c.mempool.size + 1) settled >>= drainSignals fuel).run
        { c with channel := c.channel.receive.2 } := by
  rw [drainSignals, run_bind_ok (run_receive c), c.channel.receive_fst_eq_signal_iff.mpr waiting]
  rfl

theorem run_drain_of_signal (waiting : 0 < c.channel.waiting) :
    drain.run c = (buildAll (c.mempool.size + 1) [] >>= drainSignals (c.channel.depth + 1)).run
      { c with channel := c.channel.receive.2 } :=
  drainSignals_of_signal waiting _ []

/-- While nothing fails, a drain that finds a signal stores every payload that waits, and takes every
signal. -/
theorem Standing.drain (standing : Standing c last) (waiting : 0 < c.channel.waiting)
    (room : last.height.toNat + c.mempool.queue.length < UInt64.size)
    (lacks : c.table.Lacks (last.plan c.clock c.mempool.queue)) :
    ∃ d, drain.run c = (.ok ((last.plan c.clock c.mempool.queue).map Block.asAccepted), d) ∧
      d.mempool.queue = [] ∧ d.channel.waiting = 0 ∧
      Settles c last (last.plan c.clock c.mempool.queue) d := by
  obtain ⟨d, run, empty, settles⟩ := (standing.withChannel c.channel.receive.2).buildAll
    rfl room lacks (Nat.lt_succ_self c.mempool.size) []
  obtain ⟨channel, rest, silent, same⟩ := drainSignals_of_empty empty (c.channel.depth + 1)
    ([] ++ (last.plan c.clock c.mempool.queue).map Block.asAccepted)
  have depth := settles.depth.trans c.channel.depth_receive
  have few := d.channel.waiting_le
  refine ⟨{ d with channel := channel }, ?_, empty, ?_, settles.standing.withChannel channel,
    settles.table, same.trans depth, settles.clock, settles.unverified⟩
  · rw [run_drain_of_signal waiting]
    exact (run_bind_ok run).trans rest
  · show channel.waiting = 0
    omega

end Engine

end TimestampChain
