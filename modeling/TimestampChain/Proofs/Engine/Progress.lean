import TimestampChain.Proofs.Engine.Conservation
import TimestampChain.Proofs.Engine.Standing

/-!
# Progress of an engine

A drain accepts a block for every payload that waits as long as the preferred block is the one accepted
last and no request fails. A block that cannot be written stays the preferred one. From then on every
block is built on it and refused, although no request fails any more.
-/

namespace TimestampChain

/-- A block that is put behind a chain follows its last block. -/
theorem HoldsChain.follows_of_concat {t : Table Bytes} {blocks : List Block} {block last : Block}
    (h : HoldsChain t (blocks ++ [block])) (final : blocks.getLast? = some last) :
    block.Follows last := by
  have nonempty := List.length_pos_of_mem (List.mem_of_getLast? final)
  rw [List.getLast?_eq_getElem?] at final
  refine h.linked (blocks.length - 1) last block ?_ ?_
  · rw [List.getElem?_append_left (by omega)]
    exact final
  · have position : blocks.length - 1 + 1 = blocks.length := by omega
    rw [position, List.getElem?_concat_length]

namespace Controller

def Aligned (c : Controller) : Prop := c.table.get? Key.lastAccepted = some c.preferred.toBytes

instance (c : Controller) : Decidable c.Aligned := inferInstanceAs (Decidable (_ = _))

end Controller

namespace Engine

open TimestampChain.Action Controller

variable {c d : Controller} {block last : Block}

/-! ## The last block of the chain -/

/-- The store is open, no request fails from now on, and the last block of the chain is preferred. -/
structure Ready (c : Controller) (last : Block) : Prop where
  reached : c.Reached
  opened : c.store.closed = false
  works : c.Works
  final : c.table.storedChain.getLast? = some last
  preferred : c.preferred = last.id

theorem Ready.holds (ready : Ready c last) : HoldsChain c.table c.table.storedChain := by
  have final := ready.final
  rcases ready.reached.settled.sound with empty | ⟨blocks, holds⟩
  · rw [empty] at final
    cases final
  · rw [holds.storedChain_eq]
    exact holds

theorem Ready.member (ready : Ready c last) : last ∈ c.table.storedChain :=
  List.mem_of_getLast? ready.final

theorem Ready.record (ready : Ready c last) :
    c.table.get? (Key.block last.id) = some last.bytes :=
  ready.holds.records last ready.member

theorem Ready.pointer (ready : Ready c last) :
    c.table.get? Key.lastAccepted = some last.id.toBytes := by
  obtain ⟨tail, final, pointer⟩ := ready.holds.pointer
  rw [ready.final] at final
  cases final
  exact pointer

theorem Ready.aligned (ready : Ready c last) : c.Aligned := by
  rw [Aligned, ready.preferred]
  exact ready.pointer

theorem Ready.tip (ready : Ready c last) : c.tip = .ok last.id :=
  (tip_eq_ok_iff ready.opened ready.reached.settled.tidy.quiet).mpr ready.pointer

theorem Ready.found (ready : Ready c last) : c.find last.id = .ok last :=
  find_of_stored ready.reached.settled.tidy ready.opened (ready.holds.accepted last ready.member)
    ready.record

theorem Ready.standing (ready : Ready c last) : Standing c last where
  tidy := ready.reached.settled.tidy
  opened := ready.opened
  works := ready.works
  accepted := ready.holds.accepted last ready.member
  record := ready.record
  pointer := ready.pointer
  preferred := ready.preferred

theorem Ready.drain (ready : Ready c last) (waiting : 0 < c.channel.waiting)
    (room : last.height.toNat + c.mempool.queue.length < UInt64.size)
    (lacks : c.table.Lacks (last.plan c.clock c.mempool.queue)) :
    ∃ d final, drain.run c = (.ok ((last.plan c.clock c.mempool.queue).map Block.asAccepted), d) ∧
      Ready d final ∧ d.mempool.queue = [] ∧
      d.table.storedChain =
        c.table.storedChain ++ (last.plan c.clock c.mempool.queue).map Block.asAccepted := by
  obtain ⟨d, run, empty, -, settles⟩ := ready.standing.drain waiting room lacks
  have longer := holdsChain_acceptingAll ready.holds ready.final room lacks
  rw [← settles.table] at longer
  have reached := ready.reached.leads ((leads_drain ready.reached.based).of_run run)
  have standing := settles.standing
  refine ⟨d, _, run, ⟨reached, standing.opened, standing.works, ?_, standing.preferred⟩, empty,
    longer.storedChain_eq⟩
  rw [longer.storedChain_eq]
  exact getLast?_append_of_some ready.final

/-! ## A block that is preferred and not accepted -/

/-- A new block on a preferred one that is not the last one is not settled, whether requests fail
or not. -/
theorem settle_of_unaligned {parent : Block} (reached : c.Reached)
    (found : c.find c.preferred = .ok parent) (named : block.parent = parent.id)
    (status : block.status = .processing) (absent : c.table.get? (Key.block block.id) = none)
    (unaligned : ¬ c.Aligned) :
    ∃ e d, (settle block).run c = (.error e, d) ∧ d.table = c.table ∧ ¬ d.Aligned := by
  have tidy := reached.settled.tidy
  have marker := reached.based.marker_of_find found
  have holds := reached.settled.sound.holdsChain marker
  obtain ⟨last, final, pointer⟩ := holds.pointer
  rcases outcome : (settle block).run c with ⟨e | decided, d⟩
  · obtain ⟨k, verified, preferred, chosen, rfl⟩ := settle_of_error tidy.quiet outcome
    refine ⟨e, _, rfl, rfl, ?_⟩
    rcases chosen with rfl | rfl
    · exact unaligned
    · -- The block accepted last has a record, and the new one has none.
      intro aligned
      have aligned : c.table.get? Key.lastAccepted = some block.id.toBytes := aligned
      rw [pointer] at aligned
      have same : last.id = block.id := Bytes32.ext (Option.some.inj aligned)
      have record := holds.records last (List.mem_of_getLast? final)
      rw [same, absent] at record
      cases record
  · exfalso
    obtain ⟨-, -, ⟨known, -⟩ | ⟨-, longer⟩⟩ := settle_of_ok reached marker status outcome
    · rw [absent] at known
      cases known
    · apply unaligned
      have parent_id := id_of_find tidy found
      have follows := longer.follows_of_concat final
      have same : last.id = c.preferred := by
        rw [← parent_id, ← named]
        exact follows.1.symm
      rw [Aligned, ← same]
      exact pointer

theorem drain_of_unaligned (reached : c.Reached) (waiting : 0 < c.channel.waiting)
    (queue : c.mempool.queue ≠ []) (unaligned : ¬ c.Aligned)
    (lacks : ∀ parent, c.find c.preferred = .ok parent →
      c.table.Lacks (parent.plan c.clock c.mempool.queue)) :
    ∃ e d, drain.run c = (.error e, d) ∧ d.table = c.table ∧ ¬ d.Aligned := by
  have looked : ({ c with channel := c.channel.receive.2 } : Controller).Reached :=
    reached.leads (leads_receive c)
  -- A payload waits, so a block is built or there is an error: the first turn cannot end the round.
  have breaks : ∃ e d, Breaks { c with channel := c.channel.receive.2 } e d ∧
      d.table = c.table ∧ ¬ d.Aligned := by
    rcases built : build.run { c with channel := c.channel.receive.2 } with ⟨e | block, n⟩
    · have other : e ≠ .noPendingWork := by
        rintro rfl
        exact queue (build_of_noPendingWork built).1
      have breaks := Breaks.unbuilt built other
      obtain ⟨k, rfl⟩ := build_of_error built
      exact ⟨e, _, breaks, rfl, unaligned⟩
    · have behind := looked.leads ((leads_build _).of_run built)
      obtain ⟨parent, rest, k, found, -, composed, waits, same⟩ := build_of_ok built
      have found : c.find c.preferred = .ok parent := mapError_eq_ok_iff.mp found
      have waits : c.mempool.queue = block.payload :: rest.queue := waits
      have composed : block = parent.successor block.payload c.clock.now := composed
      have absent := (lacks parent found).2 block (by
        rw [waits, Block.plan, ← composed]
        exact List.mem_cons_self)
      have named : block.parent = parent.id := by
        rw [composed]
        rfl
      have status : block.status = .processing := by
        rw [composed]
        rfl
      subst same
      obtain ⟨e, d, failed, table, unaligned⟩ :=
        settle_of_unaligned behind found named status absent unaligned
      exact ⟨e, d, .unsettled built failed, table, unaligned⟩
  obtain ⟨e, d, breaks, table, unaligned⟩ := breaks
  refine ⟨e, d, ?_, table, unaligned⟩
  rw [run_drain_of_signal waiting]
  exact run_bind_error (buildAll_of_breaks breaks _ _)

/-! ## Progress -/

theorem tip_of_bootstrap {data : Bytes} (done : (bootstrap data).run c = (.ok (), d)) :
    d.tip = .ok d.preferred := by
  rcases run_bind_cases (initGenesis data) (fun _ => lastAccepted >>= setPreference) c with
    ⟨e, t, -, whole⟩ | ⟨_, t, -, whole⟩
  · rw [bootstrap, whole] at done
    cases done
  · rw [bootstrap, whole] at done
    obtain ⟨k, e, stopped⟩ | ⟨k, answered⟩ := (lastAccepted_answers t).cases
    · rw [run_bind_error stopped] at done
      cases done
    · cases tip : t.tip with
      | error e =>
          rw [tip] at answered
          rw [run_bind_error answered] at done
          cases done
      | ok last =>
          rw [tip] at answered
          rw [run_bind_ok answered] at done
          cases done
          exact tip

/-- An engine that has been started prefers the block accepted last. -/
theorem aligned_of_started {data : Bytes} (reached : c.Reached)
    (started : (start data).run c = (.ok (), d)) : d.Aligned := by
  have behind := (leads_start data c).of_run started
  have quiet := (reached.leads behind).settled.tidy.quiet
  rcases start_steps data c with ⟨e, t, -, whole⟩ | ⟨t, done, whole⟩
  · rw [whole] at started
    cases started
  · rw [whole] at started
    cases started
    have tip := tip_of_bootstrap done
    exact (tip_eq_ok_iff (open_of_tip tip) quiet).mp tip

/-- Above the preferred block, if it is known, there is room for blocks with the payloads, and these
are new. -/
def HasRoom (c : Controller) (payloads : List Payload) : Prop :=
  ∀ parent, c.find c.preferred = .ok parent →
    parent.height.toNat + payloads.length < UInt64.size ∧
      c.table.Lacks (parent.plan c.clock payloads)

theorem ready_of_aligned (reached : c.Reached) (opened : c.store.closed = false) (works : c.Works)
    (aligned : c.Aligned) : ∃ last, Ready c last := by
  have sound := reached.settled.sound
  obtain ⟨last, final, pointer⟩ := (sound.holdsChain (marker_of_record sound aligned)).pointer
  have preferred : c.preferred = last.id := by
    rw [Aligned, pointer] at aligned
    exact (Bytes32.ext (Option.some.inj aligned)).symm
  exact ⟨last, reached, opened, works, final, preferred⟩

/-- An engine that has been started prefers the block accepted last. While it does, it stores whatever
is submitted once no request fails any more. Once it does not, it stores nothing, although no request
fails any more. So it goes on with every further payload. -/
theorem settles_iff_aligned {c₀ c₁ c : Controller} {genesisData data : Bytes} {events : List Event}
    (reached : c₀.Reached) (started : (start genesisData).run c₀ = (.ok (), c₁))
    (behind : c = follow c₁ events) (opened : c.store.closed = false) (works : c.Works)
    (receiving : c.channel.receiving = true) (slot : 0 < c.channel.depth)
    (short : data.length ≤ Payload.size)
    (room : HasRoom c (c.mempool.queue ++ [Bytes32.pad data short])) :
    c₁.Aligned ∧
      (c.Aligned → ∃ blocks final d, (submit data >>= fun _ => drain).run c = (.ok blocks, d) ∧
        blocks.getLast? = some final ∧ final.status = .accepted ∧
        final.payload = Bytes32.pad data short ∧ d.tip = .ok final.id ∧ d.Aligned ∧
        d.table.storedChain = c.table.storedChain ++ blocks ∧ d.mempool.queue = []) ∧
      (¬ c.Aligned → ∃ e d, (submit data >>= fun _ => drain).run c = (.error e, d) ∧
        d.table = c.table ∧ ¬ d.Aligned) := by
  have reached₁ : c₁.Reached := reached.leads ((leads_start genesisData c₀).of_run started)
  have reached' : c.Reached := by
    rw [behind]
    exact reached₁.leads (leads_follow reached₁ events)
  have fits : Payload.ofData data = .ok (Bytes32.pad data short) := dif_pos short
  have submitted := propose_of_payload fits c
  have waiting : 0 < (c.proposing (Bytes32.pad data short)).channel.waiting :=
    Channel.waiting_notify_pos receiving slot
  have reached'' : (c.proposing (Bytes32.pad data short)).Reached := by
    have leads : c.Leads ((propose data).run c).2 := leads_of_call (.propose data) rfl trivial
    exact reached'.leads (leads.of_run submitted)
  have run : (submit data >>= fun _ => drain).run c =
      drain.run (c.proposing (Bytes32.pad data short)) := run_bind_ok submitted
  refine ⟨aligned_of_started reached started, fun aligned => ?_, fun unaligned => ?_⟩
  · obtain ⟨last, ready⟩ := ready_of_aligned reached'' opened works aligned
    have found : c.find c.preferred = .ok last := by
      have found := ready.found
      rw [← ready.preferred] at found
      exact found
    obtain ⟨enough, lacks⟩ := room last found
    obtain ⟨d, final, done, ready', empty, chain⟩ := ready.drain waiting enough lacks
    -- What is submitted waits behind the rest, so the block on top of the plan carries it.
    obtain ⟨blocks, top, planned, carries⟩ :=
      last.plan_concat c.clock c.mempool.queue (Bytes32.pad data short)
    have planned : last.plan (c.proposing (Bytes32.pad data short)).clock
        (c.proposing (Bytes32.pad data short)).mempool.queue = blocks ++ [top] := planned
    rw [planned, List.map_append] at done chain
    have final_eq := ready'.final
    rw [chain, ← List.append_assoc, List.map_singleton, List.getLast?_concat] at final_eq
    cases final_eq
    exact ⟨_, top.asAccepted, d, run.trans done, List.getLast?_concat, rfl, carries, ready'.tip,
      ready'.aligned, chain, empty⟩
  · have lacks := fun parent found => (room parent found).2
    obtain ⟨e, d, failed, table, unaligned'⟩ :=
      drain_of_unaligned reached'' waiting (by simp [proposing, Mempool.push]) unaligned lacks
    exact ⟨e, d, run.trans failed, table, unaligned'⟩

end Engine

end TimestampChain

/-! ## A write that fails once -/

namespace TimestampChain.Sample

/-- The write of the first block after the start fails, and no other request does. -/
def recovering : List Engine.Event := [
  .submit [2],
  .surround (.still 1000) (.byRequest (fun _ => none) (some "injected write failure") none),
  .drain, .surround (.still 1000) .never]

def started : Controller := Engine.after engine (.start [])

def recovered : Controller := Engine.follow started recovering

def unwritten : Block :=
  (Block.create BlockId.none 0 (Bytes32.pad [] (by simp)) 0).successor (payload 2) 1000

theorem start_engine : (Engine.start []).run engine = (.ok (), started) :=
  Action.run_eq (by decide +kernel)

theorem recovered_facts :
    recovered.store.closed = false ∧ recovered.channel.receiving = true ∧
      recovered.channel.depth = 1 ∧ recovered.mempool.queue = [] ∧ ¬ recovered.Aligned ∧
      recovered.find recovered.preferred = .ok unwritten ∧
      recovered.table.storedChain.map Block.height = [0] ∧
      recovered.table.Lacks (unwritten.plan recovered.clock [payload 3]) := by
  decide +kernel

end TimestampChain.Sample

namespace TimestampChain.Engine

open TimestampChain.Action Controller

theorem works_recovered : Sample.recovered.Works := fun _ _ _ => rfl

theorem recovered_stays_unaligned :
    Sample.started.Aligned ∧
      ∃ e d, (submit [3] >>= fun _ => drain).run Sample.recovered = (.error e, d) ∧
        d.table = Sample.recovered.table ∧ ¬ d.Aligned := by
  obtain ⟨opened, receiving, depth, queue, unaligned, found, -, lacks⟩ := Sample.recovered_facts
  have short : [(3 : UInt8)].length ≤ Payload.size := by decide
  have enough : Sample.unwritten.height.toNat + 1 < UInt64.size := by decide +kernel
  have room : HasRoom Sample.recovered
      (Sample.recovered.mempool.queue ++ [Bytes32.pad [3] short]) := by
    intro parent known
    rw [found] at known
    cases known
    rw [queue]
    exact ⟨enough, lacks⟩
  obtain ⟨aligned, -, stuck⟩ := settles_iff_aligned Sample.reached_engine Sample.start_engine
    (rfl : Sample.recovered = follow Sample.started Sample.recovering) opened works_recovered
    receiving (by omega) short room
  exact ⟨aligned, stuck unaligned⟩

/-- Although the engine has been started and no request fails any more, what is submitted is
refused. -/
theorem recovered_refuses :
    Sample.engine.Reached ∧ (start []).run Sample.engine = (.ok (), Sample.started) ∧
      Sample.recovered = follow Sample.started Sample.recovering ∧
      Sample.recovered.store.closed = false ∧ Sample.recovered.Works ∧
      Sample.recovered.channel.receiving = true ∧ Sample.recovered.channel.depth = 1 ∧
      Sample.recovered.table.storedChain.map Block.height = [0] ∧
      ¬ ∃ blocks d, (submit [3] >>= fun _ => drain).run Sample.recovered = (.ok blocks, d) := by
  obtain ⟨opened, receiving, depth, -, -, -, heights, -⟩ := Sample.recovered_facts
  have refused : ((submit [3] >>= fun _ => drain).run Sample.recovered).1.isOk = false := by
    decide +kernel
  refine ⟨Sample.reached_engine, Sample.start_engine, rfl, opened, works_recovered, receiving, depth,
    heights, ?_⟩
  rintro ⟨blocks, d, done⟩
  rw [done] at refused
  cases refused

end TimestampChain.Engine
