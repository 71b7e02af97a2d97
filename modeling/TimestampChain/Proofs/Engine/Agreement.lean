import TimestampChain.Proofs.Chain.Decisions
import TimestampChain.Proofs.Engine.Standing

/-!
# What is built is verified and accepted

Building, verifying and accepting each look at whether one block may follow another. They agree over any
table and at every height, since they go by the same parent and heights never wrap. Above a block of the
greatest height nothing is built, and the payload stays in front.
-/

namespace TimestampChain

theorem ne_maxHeight_iff {height : UInt64} :
    height ≠ maxHeight ↔ height.toNat < UInt64.size - 1 := by
  have bound := height.toNat_lt_size
  have top : maxHeight.toNat = UInt64.size - 1 := rfl
  rw [Ne, ← UInt64.toNat_inj, top]
  omega

namespace Controller

open TimestampChain.Action

variable {c d : Controller} {parent block : Block} {payload : Payload} {rest : Mempool} {id : BlockId}

/-! ## Building on a parent that is found -/

theorem run_getBlock_of_ok (found : ((getBlock id).run c).1 = .ok block) :
    c.find id = .ok block ∧ ∃ n, (getBlock id).run c = (.ok block, c.counting n) := by
  obtain ⟨n, e, failed⟩ | ⟨n, answered⟩ := (getBlock_answers id c).cases
  · rw [failed] at found
    cases found
  · rw [answered] at found
    exact ⟨found, n, answered.trans (congrArg (Prod.mk · _) found)⟩

/-- What a look-up comes to has nothing to do with the payloads that wait. -/
theorem run_getBlock_waiting (id : BlockId) (c : Controller) (pool : Mempool) :
    (getBlock id).run { c with mempool := pool } =
      (((getBlock id).run c).1, { ((getBlock id).run c).2 with mempool := pool }) := by
  have same : ({ c with mempool := pool } : Controller).verified? id = c.verified? id := rfl
  rw [getBlock, run_bind_ok (run_state _), run_bind_ok (run_state _), same]
  cases c.verified? id <;> rfl

theorem run_compose_of_found {n : Nat}
    (found : (resolveParent c.preferred).run c = (.ok parent, c.counting n)) (payload : Payload) :
    (compose payload).run c =
      if parent.height = maxHeight then (.error .heightOverflow, c.counting n)
      else (.ok (parent.successor payload c.clock.now), { c.counting n with clock := c.clock.tick }) := by
  rw [compose, run_bind_ok (run_state c), run_bind_ok found]
  by_cases highest : parent.height = maxHeight
  · rw [if_pos highest, if_pos highest]
    rfl
  · have read : readClock.run (c.counting n) =
        (.ok c.clock.now, { c.counting n with clock := c.clock.tick }) := rfl
    rw [if_neg highest, if_neg highest, run_bind_ok read, ← Block.successor]
    exact run_bind_ok (congrArg (Prod.mk · _) (checkChild_successor highest payload c.clock.now))

/-- What building comes to when the preferred block is found. -/
theorem run_build_of_found (popped : c.mempool.pop? = some (payload, rest))
    (found : ((getBlock c.preferred).run c).1 = .ok parent) :
    ∃ n, build.run c =
      if parent.height = maxHeight then (.error .heightOverflow, c.counting n)
      else (.ok (parent.successor payload c.clock.now), (c.counting n).building rest) := by
  obtain ⟨-, n, answered⟩ := run_getBlock_of_ok found
  -- The payload has been taken out by the time the parent is looked up.
  have parented : (resolveParent c.preferred).run { c with mempool := rest } =
      (.ok parent, { c.counting n with mempool := rest }) := by
    rw [resolveParent, run_mapError, run_getBlock_waiting, answered]
    rfl
  have composed := run_compose_of_found (c := { c with mempool := rest }) parented payload
  refine ⟨n, ?_⟩
  by_cases highest : parent.height = maxHeight
  · rw [if_pos highest] at composed ⊢
    exact run_build_of_uncomposed popped composed
  · rw [if_neg highest] at composed ⊢
    exact run_build_of_composed popped composed

/-! ## What was built -/

theorem tidy_building (tidy : c.Tidy) (n : Nat) (rest : Mempool) :
    ((c.counting n).building rest).Tidy :=
  tidy.idle (Spares.idle ⟨⟨n, rfl⟩, rfl⟩)

/-- Among the verified blocks nothing changes but what is under the new block's identifier. -/
theorem findParent_remembering (other : id ≠ block.id) :
    (d.remembering block).findParent id = d.findParent id := by
  have apart : id.toBytes ≠ block.id.toBytes := fun same => other (Bytes32.ext same)
  have unverified : (d.remembering block).verified? id = d.verified? id :=
    (Table.get?_insert ..).trans (if_neg apart)
  rw [findParent, find, unverified]
  rfl

/-- A block above one that is found is verified, and kept unless it is stored. -/
theorem run_verify_of_found (tidy : d.Tidy) (opened : d.store.closed = false)
    (status : block.status = .processing) (found : d.findParent block.parent = .ok parent)
    (child : checkChild parent block = .ok ()) (works : Unfailing (verify block) d) :
    ∃ n, (verify block).run d = (.ok (),
      if (d.table.get? (Key.block block.id)).isSome then d.counting n
      else (d.counting n).remembering block) := by
  cases record : d.table.get? (Key.block block.id) with
  | none =>
      have judged := verification_of_found tidy.quiet opened status record found
        (checkChild_eq_ok_iff.mp child)
      exact run_of_unfailing (verify_of_new judged) works
  | some bytes =>
      have stored : d.store.holds block.id = .ok true := by
        rw [holds_of_open tidy.quiet opened, record]
        rfl
      have judged : d.verification block = .ok false := by
        rw [verification, status, stored]
        rfl
      exact run_of_unfailing (verify_of_known judged) works

/-- A new block above the one accepted last is accepted, once the chain has been set up. -/
theorem run_accept_of_found (tidy : d.Tidy) (opened : d.store.closed = false)
    (marker : (d.table.get? Key.initialized).isSome)
    (pointer : d.table.get? Key.lastAccepted = some parent.id.toBytes)
    (absent : d.table.get? (Key.block block.id) = none)
    (status : block.status = .processing) (found : d.findParent block.parent = .ok parent)
    (child : checkChild parent block = .ok ()) (works : Unfailing (accept block) d) :
    ∃ n, (accept block).run d = (.ok block.asAccepted, n) ∧ d.Extended block n := by
  have quiet := tidy.quiet
  have tip := (tip_eq_ok_iff opened quiet).mpr pointer
  have admitted : d.admission block = .ok () := by
    rw [admission_of_marker quiet opened marker]
    exact extension_eq_ok_iff.mpr ⟨parent, found, child, tip⟩
  have unstored := unstored_of_absent quiet opened absent
  obtain ⟨n, wrote, done⟩ | ⟨n, e, fails, failed⟩ := accept_of_fresh status quiet unstored admitted
  · exact ⟨_, done, extended_of_wrote opened quiet wrote⟩
  · exact absurd fails (works.not_fails failed)

/-! ## The agreement -/

/-- The block that was built follows its parent, and from here on it is verified and accepted. -/
structure Built (c : Controller) (parent : Block) (payload : Payload) (rest : List Payload)
    (block : Block) (d : Controller) : Prop where
  made : block = Block.create c.preferred (parent.height + 1) payload c.clock.now
  status : block.status = .processing
  height : block.height.toNat = parent.height.toNat + 1
  child : checkChild parent block = .ok ()
  /-- Nothing is written. Requests have been counted. -/
  store : ∃ n, d.store = c.store.counting n
  queue : d.mempool.queue = rest
  verified : d.verified = c.verified
  preferred : d.preferred = c.preferred
  verifies : c.store.closed = false → Unfailing (verify block) d →
    ∃ n, (verify block).run d = (.ok (),
      if (d.table.get? (Key.block block.id)).isSome then d.counting n
      else (d.counting n).remembering block)
  accepts : c.store.closed = false → (c.table.get? [2]).isSome →
    c.table.get? [1] = some c.preferred.toBytes → c.table.get? (0 :: block.id.toBytes) = none →
    Unfailing (accept block) d →
    ∃ e, (accept block).run d = (.ok block.asAccepted, e) ∧ d.Extended block e
  /-- Verifying it first makes no difference, unless the block has the same digest as its parent. -/
  settles : c.store.closed = false → (c.table.get? [2]).isSome →
    c.table.get? [1] = some c.preferred.toBytes → c.table.get? (0 :: block.id.toBytes) = none →
    block.id ≠ block.parent → ∀ v, (verify block).run d = (.ok (), v) → Unfailing (accept block) v →
    ∃ e, (accept block).run v = (.ok block.asAccepted, e) ∧ v.Extended block e

structure BuildsOn (c : Controller) (parent : Block) (payload : Payload) (rest : List Payload) :
    Prop where
  ok_iff : (∃ block, (build.run c).1 = .ok block) ↔ parent.height.toNat < UInt64.size - 1
  built : ∀ block d, build.run c = (.ok block, d) → c.Built parent payload rest block d
  /-- Nothing but requests has happened, so the payload is in front again. -/
  refused : ¬ parent.height.toNat < UInt64.size - 1 →
    ∃ n, build.run c = (.error (.invalidBlock "parent height overflow"), c.counting n)

theorem built_of_found (tidy : c.Tidy) (found : c.find c.preferred = .ok parent)
    (below : parent.height ≠ maxHeight) (n : Nat) :
    c.Built parent payload rest.queue (parent.successor payload c.clock.now)
      ((c.counting n).building rest) := by
  have tidy' := tidy_building tidy n rest
  have named := id_of_find tidy found
  have child := checkChild_successor below payload c.clock.now
  have follows := checkChild_eq_ok_iff.mp child
  have parented : ((c.counting n).building rest).findParent parent.id = .ok parent :=
    named ▸ mapError_eq_ok_iff.mpr found
  refine ⟨?_, rfl, follows.2, child, ⟨n, rfl⟩, rfl, rfl, rfl, ?_, ?_, ?_⟩
  · rw [Block.successor, named]
  · exact fun opened works => run_verify_of_found tidy' opened rfl parented child works
  · intro opened marker pointer absent works
    rw [← named] at pointer
    exact run_accept_of_found tidy' opened marker pointer absent rfl parented child works
  · intro opened marker pointer absent other v verified works
    rw [← named] at pointer
    have judged := verification_of_found tidy'.quiet opened rfl absent parented follows
    obtain ⟨m, e, failed⟩ | ⟨m, done⟩ := (verify_of_new judged).cases
    · cases failed.symm.trans verified
    · cases done.symm.trans verified
      -- The block is kept under its own identifier, so its parent is found as before.
      refine run_accept_of_found (tidy'.remembering judged m) opened marker pointer absent rfl ?_
        child works
      exact (findParent_remembering other.symm).trans parented

theorem buildsOn_of_found (tidy : c.Tidy) (popped : c.mempool.pop? = some (payload, rest))
    (found : ((getBlock c.preferred).run c).1 = .ok parent) : c.BuildsOn parent payload rest.queue := by
  have known := (run_getBlock_of_ok found).1
  obtain ⟨n, run⟩ := run_build_of_found popped found
  by_cases highest : parent.height = maxHeight
  · have top : ¬ parent.height.toNat < UInt64.size - 1 := fun less => ne_maxHeight_iff.mpr less highest
    rw [if_pos highest] at run
    refine ⟨iff_of_false ?_ top, ?_, fun _ => ⟨n, run⟩⟩
    · rintro ⟨block, made⟩
      rw [run] at made
      cases made
    · intro block d made
      cases run.symm.trans made
  · have below := ne_maxHeight_iff.mp highest
    rw [if_neg highest] at run
    refine ⟨iff_of_true ⟨_, congrArg Prod.fst run⟩ below, ?_, fun top => absurd below top⟩
    intro block d made
    cases run.symm.trans made
    exact built_of_found tidy known highest n

/-- Over any table and behind any events, building on a preferred block that can be looked up yields a
child of it that is verified and accepted, at every height that has a next one. A child is one that
names its parent and is one higher, as a number. -/
theorem build_agrees {b : Backend} {channel : Channel} {clock : Clock} {events : List Event}
    {rest : List Payload} (reached : c = (ofBackend b channel clock).follow events)
    (queue : c.mempool.queue = payload :: rest)
    (found : ((getBlock c.preferred).run c).1 = .ok parent) :
    c.BuildsOn parent payload rest ∧
      ∀ parent child : Block, checkChild parent child = .ok () ↔
        child.parent = parent.id ∧ child.height.toNat = parent.height.toNat + 1 := by
  have tidy : c.Tidy := reached ▸ tidy_follow b channel clock events
  have popped : c.mempool.pop? = some (payload, ⟨rest⟩) := Mempool.pop?_eq_some_iff.mpr queue
  exact ⟨buildsOn_of_found tidy popped found, fun _ _ => checkChild_eq_ok_iff⟩

end Controller

end TimestampChain

namespace TimestampChain.Sample

def ridge : Block := Block.create genesis.id (maxHeight - 1) (payload 5) 7

/-- A table in which the ridge is the block accepted last, though nothing else is there. -/
def planted : Backend :=
  .ofTable (((Table.empty.insert (Key.block ridge.id) ridge.bytes).insert Key.lastAccepted
    ridge.id.toBytes).insert Key.initialized [1])

def climb : List Event := [
  .call (.bootstrap [1]), .call (.propose [2]), .call (.propose [3]),
  .surround (.ofDepth 1) (.still 30) .never]

def summit : Block := ridge.successor (payload 2) 30

def settled : List Event := climb ++ [.call .build, .call (.verify summit), .call (.accept summit)]

def climber (events : List Event) : Controller :=
  (Controller.ofBackend planted (.ofDepth 1) (.still 30)).follow events

theorem climber_eq (events : List Event) :
    climber events = (Controller.ofBackend planted (.ofDepth 1) (.still 30)).follow events := rfl

theorem climber_facts :
    (climber climb).mempool.queue = [payload 2, payload 3] ∧
      ((Controller.getBlock (climber climb).preferred).run (climber climb)).1 = .ok ridge.asAccepted ∧
      (climber settled).mempool.queue = [payload 3] ∧
      ((Controller.getBlock (climber settled).preferred).run (climber settled)).1 =
        .ok summit.asAccepted := by
  decide +kernel

end TimestampChain.Sample

namespace TimestampChain.Controller

open TimestampChain.Action

/-- The last block there can be is built and accepted, and no other one is built on it. -/
theorem summit_is_last :
    (∃ d e, build.run (Sample.climber Sample.climb) = (.ok Sample.summit, d) ∧
      (accept Sample.summit).run d = (.ok Sample.summit.asAccepted, e) ∧ e.tip = .ok Sample.summit.id) ∧
    (build.run (Sample.climber Sample.settled)).1 =
      .error (.invalidBlock "parent height overflow") := by
  obtain ⟨queue, found, queue', found'⟩ := Sample.climber_facts
  constructor
  · obtain ⟨builds, -⟩ := build_agrees (Sample.climber_eq _) queue found
    obtain ⟨block, made⟩ := builds.ok_iff.mpr (by decide +kernel)
    have run := run_eq made
    have built := builds.built _ _ run
    have same : block = Sample.summit := by
      rw [built.made]
      decide +kernel
    rw [same] at run built
    have works : Unfailing (accept Sample.summit) (build.run (Sample.climber Sample.climb)).2 := by
      obtain ⟨n, store⟩ := built.store
      intro number request _ _
      rw [store]
      rfl
    obtain ⟨e, accepted, extended⟩ :=
      built.accepts rfl (by decide +kernel) (by decide +kernel) (by decide +kernel) works
    exact ⟨_, e, run, accepted, extended.tip⟩
  · obtain ⟨builds, -⟩ := build_agrees (Sample.climber_eq _) queue' found'
    obtain ⟨n, run⟩ := builds.refused (by decide +kernel)
    exact congrArg Prod.fst run

end TimestampChain.Controller
