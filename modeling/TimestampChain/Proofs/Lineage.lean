import TimestampChain.Proofs.Chain.Invariant
import TimestampChain.Proofs.Store.Layers

/-!
# Verified blocks and their parents

Verified blocks and stored ones are apart, so it does not matter where a block is looked up first. A block
is verified above one that is known at that time. As long as the digest does not clash, the block that is
found as its parent later on has the same bytes.
-/

namespace TimestampChain

/-! ## Blocks of a run -/

def Event.blocks : Event → List Block
  | .call (.bootstrap data) => (Block.genesis data).toOption.toList
  | .call (.verify block) | .call (.accept block) | .call (.reject block) => [block]
  | _ => []

/-- The written forms of the blocks that a table holds and that the events are about. -/
def Met (t : Table Bytes) (events : List Event) (bytes : Bytes) : Prop :=
  (∃ block : Block, block.bytes = bytes ∧ t.get? (Key.block block.id) = some bytes) ∨
    ∃ event ∈ events, ∃ block ∈ event.blocks, block.bytes = bytes

/-- No two of the byte strings have the same digest. -/
def Unclashing (met : Bytes → Prop) : Prop :=
  ∀ left right, met left → met right → Sha256.hash left = Sha256.hash right → left = right

theorem exists_block_of_met {events : List Event} {bytes : Bytes} (met : Met .empty events bytes) :
    ∃ block ∈ events.flatMap Event.blocks, block.bytes = bytes := by
  rcases met with ⟨block, -, record⟩ | ⟨event, member, block, about, same⟩
  · cases record
  · exact ⟨block, List.mem_flatMap.mpr ⟨event, member, about⟩, same⟩

/-- The written forms of blocks whose digests are apart do not clash. -/
theorem unclashing_of_blocks {met : Bytes → Prop} {blocks : List Block}
    (apart : ∀ left ∈ blocks, ∀ right ∈ blocks, Sha256.hash left.bytes = Sha256.hash right.bytes →
      left.bytes = right.bytes)
    (named : ∀ bytes, met bytes → ∃ block ∈ blocks, block.bytes = bytes) : Unclashing met := by
  intro left right hl hr same
  obtain ⟨first, there, rfl⟩ := named left hl
  obtain ⟨second, there', rfl⟩ := named right hr
  exact apart first there second there' same

theorem Unclashing.eq_of_id {met : Bytes → Prop} {left right : Block} (unclashing : Unclashing met)
    (hl : met left.bytes) (hr : met right.bytes) (same : left.id = right.id) :
    left.bytes = right.bytes := by
  apply unclashing _ _ hl hr
  rw [← left.id_eq, ← right.id_eq, same]

namespace Controller

open TimestampChain.Action

variable {c d : Controller} {id : BlockId} {block parent : Block} {met : Bytes → Prop}

/-! ## Two places to look -/

def getVerified (id : BlockId) : Step Block := do
  let c ← Action.state
  match c.verified? id with
  | some block => return block
  | none => Action.fail (.notFound id)

def getStored (id : BlockId) : Step Block := do
  match ← (onStore (ChainState.getBlock id)).attempt with
  | .error (.notFound _) => getVerified id
  | outcome => Action.ofExcept outcome

theorem hasBlock_ne_of_verified (tidy : c.Tidy) (verified : c.isVerified id = true) :
    ((onStore (ChainState.hasBlock id)).run c).1 ≠ .ok true := by
  intro stored
  obtain ⟨block, known⟩ := Option.isSome_iff_exists.mp verified
  have holds := (onStore_answers (ChainState.hasBlock_answers id c.store)).eq_of_ok stored
  have there := isSome_of_stored tidy.quiet (mapError_eq_ok_iff.mp holds)
  rw [tidy.absent_of_verified known] at there
  cases there

theorem run_store_getBlock (quiet : c.store.staged = .empty) (opened : c.store.closed = false)
    (works : c.store.backend.faults c.store.backend.requests (.get (Key.block id)) = none) :
    (onStore (ChainState.getBlock id)).run c =
      ((c.store.record id).mapError .ofStore, c.counting 1) := by
  have unstaged : c.store.layers.staged (Key.block id) = none := by
    show c.store.staged.get? _ = none
    rw [quiet]
    rfl
  have read : (ChainState.read (Key.block id)).run c.store =
      (.ok (c.store.backend.table.get? (Key.block id)), c.store.counting 1) := by
    rw [ChainState.run_read_of_unstaged opened unstaged, works]
    rfl
  apply run_onStore
  rw [ChainState.getBlock, run_bind_ok read, ChainState.record, ChainState.lookup_of_open opened quiet]
  cases c.store.backend.table.get? (Key.block id) <;> rfl

theorem getBlock_of_readable (quiet : c.store.staged = .empty) (opened : c.store.closed = false)
    (works : c.store.backend.faults c.store.backend.requests (.get (Key.block id)) = none) :
    ((getBlock id).run c).1 = c.find id := by
  rw [getBlock, run_bind_ok (run_state c), find]
  cases c.verified? id with
  | some block => rfl
  | none => exact congrArg Prod.fst (run_store_getBlock quiet opened works)

theorem run_getStored_of_missing
    (missing : (onStore (ChainState.getBlock id)).run c = (.error (.notFound id), d)) :
    (getStored id).run c = (getVerified id).run d := by
  have looked : ((onStore (ChainState.getBlock id)).attempt : Step _).run c =
      (.ok (.error (.notFound id)), d) := by
    rw [run_attempt, missing]
  exact run_bind_ok looked

theorem run_getStored_of_present {r : Except ControllerError Block}
    (present : ∀ other, r ≠ .error (.notFound other))
    (looked : (onStore (ChainState.getBlock id)).run c = (r, d)) : (getStored id).run c = (r, d) := by
  have attempted : ((onStore (ChainState.getBlock id)).attempt : Step _).run c = (.ok r, d) := by
    rw [run_attempt, looked]
  rw [getStored, run_bind_ok attempted]
  split
  · next other => exact absurd rfl (present other)
  · rfl

theorem getStored_of_readable (tidy : c.Tidy) (opened : c.store.closed = false)
    (works : c.store.backend.faults c.store.backend.requests (.get (Key.block id)) = none) :
    ((getStored id).run c).1 = c.find id := by
  have looked := run_store_getBlock tidy.quiet opened works
  cases record : c.store.backend.table.get? (Key.block id) with
  | none =>
      have missing : (c.store.record id).mapError .ofStore =
          .error (ControllerError.notFound id) := by
        rw [ChainState.record, ChainState.lookup_of_open opened tidy.quiet, record]
        rfl
      rw [missing] at looked
      rw [run_getStored_of_missing looked, getVerified, run_bind_ok (run_state _), find, missing]
      show (Action.run (match c.verified? id with | some _ => _ | none => _) _).1 = _
      cases c.verified? id <;> rfl
  | some bytes =>
      -- What has a record is not among the verified blocks, so both ways lead to the record.
      have unknown := tidy.unverified_of_record record
      have found := find_of_recorded unknown opened tidy.quiet record
      have same : (c.store.record id).mapError .ofStore = c.find id := by
        rw [find, unknown]
      rw [same] at looked
      rw [run_getStored_of_present ?_ looked]
      intro other
      rw [found]
      exact decodeRecord_ne_notFound id other bytes

/-! ## What a call leaves among the verified blocks -/

theorem verified_of_spares {α : Type} {call : Call} {x : Step α} {f : α → Reply} {key : Bytes}
    (performed : call.perform = f <$> x) (spares : Keeps Spares x)
    (found : (c.afterCall call).verified.get? key = some block) : c.verified.get? key = some block := by
  rw [afterCall_eq performed, (spares c).verified] at found
  exact found

theorem verified_of_remembering {new : Block} {key : Bytes}
    (found : (c.remembering new).verified.get? key = some block) :
    c.verified.get? key = some block ∨ block = new := by
  have found : (c.verified.insert new.id.toBytes new).get? key = some block := found
  rw [Table.get?_insert] at found
  by_cases same : key = new.id.toBytes
  · rw [if_pos same] at found
    exact Or.inr (Option.some.inj found).symm
  · rw [if_neg same] at found
    exact Or.inl found

theorem verified_of_adopting {batch : Batch} {key : Bytes} (wrote : c.Wrote batch d)
    (found : (d.adopting id).verified.get? key = some block) : c.verified.get? key = some block := by
  obtain ⟨n, -, rfl⟩ := wrote
  have found : (c.verified.erase id.toBytes).get? key = some block := found
  exact (Table.get?_of_erase found).2

/-- A block gets among the verified ones only by being verified. -/
theorem verified_of_afterCall {call : Call} {key : Bytes} (quiet : c.store.staged = .empty)
    (found : (c.afterCall call).verified.get? key = some block) :
    c.verified.get? key = some block ∨ call = .verify block ∧ c.verification block = .ok true := by
  cases call with
  | verify new =>
      rw [afterCall_eq (x := verify new) rfl] at found
      rcases verify_cases new c with ⟨n, done⟩ | ⟨judged, n, done⟩ <;> rw [done] at found
      · exact Or.inl found
      · rcases verified_of_remembering found with old | rfl
        · exact Or.inl old
        · exact Or.inr ⟨rfl, judged⟩
  | bootstrap data =>
      rw [afterCall_eq (x := bootstrap data) rfl] at found
      rcases bootstrap_cases data quiet with ⟨n, preferred, done⟩ |
        ⟨-, _, _, _, -, -, wrote, n, preferred, done⟩ <;> rw [done] at found
      · exact Or.inl found
      · exact Or.inl (verified_of_adopting wrote found)
  | accept new =>
      rw [afterCall_eq (x := accept new) rfl] at found
      rcases accept_cases new quiet with ⟨n, e, done⟩ | ⟨-, done⟩ | ⟨-, -, n, done⟩ |
        ⟨-, -, -, d, wrote, done⟩ <;> rw [done] at found
      · exact Or.inl found
      · exact Or.inl found
      · exact Or.inl (Table.get?_of_erase found).2
      · exact Or.inl (verified_of_adopting wrote found)
  | reject new =>
      rw [afterCall_eq (x := reject new) rfl] at found
      obtain ⟨n, done | done⟩ := reject_cases new c <;> rw [done] at found
      · exact Or.inl found
      · exact Or.inl (Table.get?_of_erase found).2
  | shutdown =>
      rw [afterCall_eq (x := shutdown) rfl] at found
      rcases shutdown_cases quiet with ⟨n, done⟩ | ⟨-, done⟩ <;> rw [done] at found
      · exact Or.inl found
      · exact Or.inl found
  | propose data => exact Or.inl (verified_of_spares rfl (propose_spares data) found)
  | build => exact Or.inl (verified_of_spares rfl build_spares found)
  | parse bytes => exact Or.inl (verified_of_spares rfl (parseBlock_spares bytes) found)
  | get id => exact Or.inl (verified_of_spares rfl (getBlock_spares id) found)
  | prefer id => exact Or.inl (verified_of_spares rfl (setPreference_spares id) found)
  | setState state => exact Or.inl (verified_of_spares rfl (setState_spares state) found)
  | lastAccepted => exact Or.inl (verified_of_spares rfl lastAccepted_spares found)
  | notify => exact Or.inl (verified_of_spares rfl notify_spares found)
  | healthCheck => exact Or.inl (verified_of_spares rfl healthCheck_spares found)

/-! ## Parents -/

/-- Every block that can be found has been met, and a verified one follows one that has been met. -/
structure Traced (met : Bytes → Prop) (c : Controller) : Prop where
  recorded : ∀ block : Block,
    c.table.get? (Key.block block.id) = some block.bytes → met block.bytes
  verified : ∀ key block, c.verified.get? key = some block →
    met block.bytes ∧ ∃ parent : Block, met parent.bytes ∧ block.Follows parent

theorem Traced.met_of_find (traced : c.Traced met) (tidy : c.Tidy) (found : c.find id = .ok block) :
    met block.bytes := by
  unfold find at found
  cases known : c.verified? id with
  | some kept =>
      rw [known] at found
      cases found
      exact (traced.verified _ _ known).1
  | none =>
      rw [known] at found
      obtain ⟨value, read, rest⟩ := bind_eq_ok_iff.mp (mapError_eq_ok_iff.mp found)
      rw [ChainState.lookup_of_open (ChainState.open_of_lookup read) tidy.quiet] at read
      cases value with
      | none => cases rest
      | some bytes =>
          obtain ⟨rfl, rfl, -⟩ := ChainState.decodeRecord_eq_ok rest
          exact traced.recorded block (Except.ok.inj read)

theorem Traced.parent_of_verification (traced : c.Traced met) (tidy : c.Tidy)
    (judged : c.verification block = .ok true) :
    ∃ parent : Block, met parent.bytes ∧ block.Follows parent := by
  obtain ⟨-, -, parent, found, child⟩ := verification_eq_ok_true judged
  exact ⟨parent, traced.met_of_find tidy (mapError_eq_ok_iff.mp found), checkChild_eq_ok_iff.mp child⟩

theorem Traced.afterCall {call : Call} (traced : c.Traced met) (tidy : c.Tidy)
    (about : ∀ block ∈ (Event.call call).blocks, met block.bytes) : (c.afterCall call).Traced met := by
  constructor
  · intro block record
    rcases (afterCall_outcome call tidy.quiet).table_cases tidy.quiet with
      same | ⟨new, rfl, table⟩ | ⟨data, genesis, rfl, made, table⟩
    · rw [same] at record
      exact traced.recorded block record
    · rw [table, Table.record_accepting] at record
      split at record
      · rw [← Option.some.inj record]
        exact about new (List.mem_singleton_self new)
      · exact traced.recorded block record
    · rw [table, Table.record_founding] at record
      split at record
      · rw [← Option.some.inj record]
        apply about genesis
        simp [Event.blocks, made, Except.toOption]
      · exact traced.recorded block record
  · intro key block found
    rcases verified_of_afterCall tidy.quiet found with old | ⟨rfl, judged⟩
    · exact traced.verified key block old
    · exact ⟨about block (List.mem_singleton_self block), traced.parent_of_verification tidy judged⟩

theorem Traced.afterEvent {event : Event} (traced : c.Traced met) (tidy : c.Tidy)
    (about : ∀ block ∈ event.blocks, met block.bytes) : (c.afterEvent event).Traced met := by
  cases event with
  | call call => exact traced.afterCall tidy about
  | restart channel clock =>
      refine ⟨traced.recorded, fun key block found => ?_⟩
      cases found
  | surround channel clock faults => exact ⟨traced.recorded, traced.verified⟩

/-- Behind every course of events, what can be found has been met in it or in the table before it. -/
theorem traced_follow (b : Backend) (channel : Channel) (clock : Clock) (events : List Event) :
    ((ofBackend b channel clock).follow events).Traced (Met b.table events) := by
  have start : (ofBackend b channel clock).Tidy ∧
      (ofBackend b channel clock).Traced (Met b.table events) := by
    refine ⟨tidy_ofBackend b channel clock, ?_, ?_⟩
    · exact fun block record => Or.inl ⟨block, rfl, record⟩
    · intro key block found
      cases found
  have step : ∀ c : Controller, ∀ event ∈ events, c.Tidy ∧ c.Traced (Met b.table events) →
      (c.afterEvent event).Tidy ∧ (c.afterEvent event).Traced (Met b.table events) := by
    rintro c event member ⟨tidy, traced⟩
    refine ⟨tidy.afterEvent event, traced.afterEvent tidy fun block about => ?_⟩
    exact Or.inr ⟨event, member, block, about, rfl⟩
  exact (follow_invariant_of_mem step start).2

/-- Unless the digest clashes, a verified block is one higher than any block that is found as its
parent. -/
theorem Traced.height_of_parent {key : Bytes} (traced : c.Traced met) (tidy : c.Tidy)
    (unclashing : Unclashing met) (known : c.verified.get? key = some block)
    (found : c.find block.parent = .ok parent) : block.height.toNat = parent.height.toNat + 1 := by
  obtain ⟨-, former, there, follows⟩ := traced.verified key block known
  have same : former.id = parent.id := by
    rw [id_of_find tidy found]
    exact follows.1.symm
  have bytes := unclashing.eq_of_id there (traced.met_of_find tidy found) same
  rw [← Block.height_of_bytes bytes]
  exact follows.2

/-- Over any backend and behind any course of events, a verified block is kept under its identifier, the
digest of its bytes, is undecided, and has no record. So no identifier is both verified and stored, and
while the store can be read it does not matter where a block is looked up first. Unless the digest
clashes, a verified block is one higher than any block that is found as its parent. -/
theorem verified_unstored_and_linked {b : Backend} {channel : Channel} {clock : Clock}
    {events : List Event} {c : Controller} (behind : c = (ofBackend b channel clock).follow events) :
    (∀ key block, c.verified.get? key = some block →
        key = block.id.toBytes ∧ block.id = Sha256.hash block.bytes ∧ block.status = .processing ∧
          c.table.get? (0 :: block.id.toBytes) = none) ∧
      (∀ id, c.isVerified id = true → ((onStore (ChainState.hasBlock id)).run c).1 ≠ .ok true) ∧
      (∀ id, c.store.closed = false →
        c.store.backend.faults c.store.backend.requests (.get (Key.block id)) = none →
          ((getBlock id).run c).1 = ((getStored id).run c).1) ∧
      (Unclashing (Met b.table events) → ∀ key block parent d, c.verified.get? key = some block →
        (resolveParent block.parent).run c = (.ok parent, d) →
          block.height.toNat = parent.height.toNat + 1) := by
  have tidy : c.Tidy := behind ▸ tidy_follow b channel clock events
  have traced : c.Traced (Met b.table events) := behind ▸ traced_follow b channel clock events
  refine ⟨?_, fun id verified => hasBlock_ne_of_verified tidy verified, ?_, ?_⟩
  · intro key block found
    exact ⟨tidy.named key block found, block.id_eq, tidy.undecided key block found,
      tidy.unstored key block found⟩
  · intro id opened works
    rw [getBlock_of_readable tidy.quiet opened works, getStored_of_readable tidy opened works]
  · intro unclashing key block parent d known resolved
    have found := (resolveParent_answers block.parent c).eq_of_ok (congrArg Prod.fst resolved)
    exact traced.height_of_parent tidy unclashing known (mapError_eq_ok_iff.mp found)

end Controller

/-! ## A run with verified blocks above one another -/

namespace Sample

def lineage : List Event := [
  .call (.bootstrap [1]), .call (.bootstrap [1]), .call (.verify child), .call (.verify grandchild)]

theorem unclashing_lineage : Unclashing (Met backend.table lineage) := by
  have apart : ∀ left ∈ lineage.flatMap Event.blocks, ∀ right ∈ lineage.flatMap Event.blocks,
      Sha256.hash left.bytes = Sha256.hash right.bytes → left.bytes = right.bytes := by
    decide +kernel
  exact unclashing_of_blocks apart fun bytes met => exists_block_of_met met

theorem resolved_lineage :
    (start.follow lineage).verified.get? grandchild.id.toBytes = some grandchild ∧
      ((Controller.resolveParent grandchild.parent).run (start.follow lineage)).1.toOption =
        some child := by
  decide +kernel

end Sample

namespace Controller

theorem grandchild_linked :
    Unclashing (Met Sample.backend.table Sample.lineage) ∧
      (∀ key block, (Sample.start.follow Sample.lineage).verified.get? key = some block →
        block.status = .processing) ∧
      Sample.grandchild.height.toNat = Sample.child.height.toNat + 1 := by
  obtain ⟨known, resolved⟩ := Sample.resolved_lineage
  obtain ⟨entries, -, -, linked⟩ := verified_unstored_and_linked
    (rfl : Sample.start.follow Sample.lineage =
      (ofBackend Sample.backend (.ofDepth 1) (.still 20)).follow Sample.lineage)
  refine ⟨Sample.unclashing_lineage, fun key block found => (entries key block found).2.2.1, ?_⟩
  rcases found : (resolveParent Sample.grandchild.parent).run (Sample.start.follow Sample.lineage) with
    ⟨e | parent, d⟩
  · rw [found] at resolved
    cases resolved
  · rw [found] at resolved
    cases resolved
    exact linked Sample.unclashing_lineage _ _ _ _ known found

end Controller

end TimestampChain
