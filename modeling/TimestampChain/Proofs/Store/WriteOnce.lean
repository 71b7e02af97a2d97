import TimestampChain.Proofs.Chain.Invariant
import TimestampChain.Proofs.Store.Refinement

/-!
# Records that are written once

A block is staged only where neither layer has anything under its identifier. So no commit writes over a
record, whatever the record is and whatever fails. Every write has a key of its own, and the records, the
pointer and the marker are apart.
-/

namespace TimestampChain.ChainState

open TimestampChain.Action

variable {s t : ChainState} {block : Block} {bytes : Bytes}

/-! ## Staging a block -/

def SameUnder (key : Bytes) (s t : ChainState) : Prop :=
  t.layers.staged key = s.layers.staged key ∧ t.layers.committed key = s.layers.committed key

/-- What staging a block leaves behind. A block is staged only where there is nothing. -/
theorem putBlock_cases (block : Block) (s : ChainState) :
    (∃ n, ((putBlock block).run s).2 = s.counting n) ∨
      s.layers.value (Key.block block.id) = none ∧
        ∃ n, ((putBlock block).run s).2 =
          (s.counting n).staging (Key.block block.id) block.bytes := by
  cases closed : s.closed with
  | true =>
      have refused := run_change_of_closed closed (.putBlock block)
      exact Or.inl ⟨0, congrArg Prod.snd refused⟩
  | false =>
      have looked := lookup_eq_value closed (Key.block block.id)
      cases found : s.layers.value (Key.block block.id) with
      | none =>
          obtain ⟨n, e, failed⟩ | ⟨n, done⟩ := (putBlock_of_absent closed (found ▸ looked)).cases
          · exact Or.inl ⟨n, congrArg Prod.snd failed⟩
          · exact Or.inr ⟨rfl, n, congrArg Prod.snd done⟩
      | some bytes =>
          rw [found] at looked
          by_cases same : bytes = block.bytes
          · rw [same] at looked
            obtain ⟨n, e, failed⟩ | ⟨n, done⟩ := Does.cases (putBlock_of_same looked)
            · exact Or.inl ⟨n, congrArg Prod.snd failed⟩
            · exact Or.inl ⟨n, congrArg Prod.snd done⟩
          · obtain ⟨n, e, failed⟩ := (putBlock_of_other looked same).refused
            exact Or.inl ⟨n, congrArg Prod.snd failed⟩

theorem sameUnder_change {key : Bytes} (change : Change) (s : ChainState) (other : key ≠ change.key) :
    SameUnder key s (change.perform.run s).2 := by
  obtain ⟨committed, apart, -, -⟩ := (staged_run change s).layers
  exact ⟨apart key other, congrFun committed key⟩

/-! ## No record is written over -/

/-- Under a block's key there is something staged only where nothing is committed. -/
def Fresh (s : ChainState) : Prop :=
  ∀ id value, s.layers.staged (Key.block id) = some value → s.layers.committed (Key.block id) = none

def RecordsLe (s t : ChainState) : Prop :=
  ∀ id value, s.layers.committed (Key.block id) = some value →
    t.layers.committed (Key.block id) = some value

theorem RecordsLe.of_committed (same : t.layers.committed = s.layers.committed) : s.RecordsLe t := by
  intro id value found
  rw [same]
  exact found

theorem RecordsLe.trans {u : ChainState} (first : s.RecordsLe t) (second : t.RecordsLe u) :
    s.RecordsLe u :=
  fun id value found => second id value (first id value found)

theorem fresh_of_empty (empty : s.staged = .empty) : s.Fresh := by
  intro id value staged
  have none := WriteBuffer.eq_empty_iff.mp empty (Key.block id)
  cases none.symm.trans staged

theorem Fresh.committed_ne (fresh : s.Fresh) {id : BlockId}
    (there : s.layers.committed (Key.block id) = some bytes) :
    s.layers.staged (Key.block id) = none := by
  cases staged : s.layers.staged (Key.block id) with
  | none => rfl
  | some value =>
      rw [fresh id value staged] at there
      cases there

/-- What either layer has under a block's key is what is read there. -/
theorem Fresh.value_eq (fresh : s.Fresh) {id : BlockId}
    (there : s.layers.staged (Key.block id) = some bytes ∨
      s.layers.committed (Key.block id) = some bytes) :
    s.layers.value (Key.block id) = some bytes := by
  rcases there with staged | committed
  · rw [Layers.value, staged]
    rfl
  · rw [Layers.value, fresh.committed_ne committed, committed]
    rfl

/-- Merging the layers keeps every record. -/
theorem Fresh.recordsLe_of_merged (fresh : s.Fresh) (merged : t.layers = s.layers.merged) :
    s.RecordsLe t := by
  intro id value found
  rw [merged]
  exact fresh.value_eq (Or.inr found)

theorem layers_commit (s : ChainState) :
    (commit.run s).2.layers = s.layers ∨ (commit.run s).2.layers = s.layers.dropped ∨
      (commit.run s).2.layers = s.layers.merged := by
  cases closed : s.closed with
  | true => exact Or.inl (congrArg (fun r => r.2.layers) (run_commit_of_closed closed))
  | false =>
      by_cases empty : s.staged = .empty
      · exact Or.inl (congrArg (fun r => r.2.layers) (run_commit_of_empty closed empty))
      · cases fault : s.backend.faults s.backend.requests (.write s.staged.drain.1) with
        | some text =>
            obtain ⟨t, run, dropped, -⟩ := run_commit_of_fault closed empty fault
            rw [run]
            exact Or.inr (Or.inl dropped)
        | none =>
            obtain ⟨t, run, merged, -⟩ := run_commit_of_works closed empty fault
            rw [run]
            exact Or.inr (Or.inr merged)

theorem layers_close (s : ChainState) : (close.run s).2.layers = s.layers := by
  cases closed : s.closed with
  | true => rw [run_close_of_closed closed]
  | false =>
      by_cases empty : s.staged = .empty
      · cases fault : s.backend.faults s.backend.requests .close with
        | some text => rw [run_close_of_fault closed empty fault, layers_counting]
        | none =>
            obtain ⟨t, run, -, -, same⟩ := run_close_of_works closed empty fault
            rw [run]
            exact same
      · rw [run_close_of_waiting closed empty]

/-- What an event does to the layers: one key is staged, or nothing is staged any more. -/
inductive Moves (s : ChainState) : ChainState → Prop
  | same {t : ChainState} (same : t.layers = s.layers) : Moves s t
  | staged {n : Nat} {key value : Bytes}
      (new : ∀ id, key = Key.block id → s.layers.value key = none) :
      Moves s ((s.counting n).staging key value)
  | dropped {t : ChainState} (dropped : t.layers = s.layers.dropped) : Moves s t
  | merged {t : ChainState} (merged : t.layers = s.layers.merged) : Moves s t

theorem moves_stage (change : Change) (s : ChainState) : s.Moves (change.perform.run s).2 := by
  have apart (key value : Bytes) (other : ∀ id, key ≠ Key.block id) :
      s.Moves ((stage key value).run s).2 := by
    cases closed : s.closed with
    | true =>
        rw [run_stage_of_closed closed]
        exact .same rfl
    | false =>
        rw [run_stage closed]
        exact .staged (n := 0) fun id same => absurd same (other id)
  cases change with
  | setInitialized => exact apart _ _ fun id same => Key.block_ne_initialized id same.symm
  | setLastAccepted id => exact apart _ _ fun id same => Key.block_ne_lastAccepted id same.symm
  | putBlock block =>
      have outcome := putBlock_cases block s
      have performed : (Change.putBlock block).perform = putBlock block := rfl
      rw [performed]
      rcases outcome with ⟨n, same⟩ | ⟨none, n, staged⟩
      · rw [same]
        exact .same rfl
      · rw [staged]
        exact .staged fun _ _ => none

theorem moves_afterEvent (s : ChainState) (event : Event) : s.Moves (s.afterEvent event) := by
  cases event with
  | read query =>
      obtain ⟨n, counted⟩ := query_counts query s
      rw [afterEvent, counted]
      exact .same rfl
  | stage change => exact moves_stage change s
  | commit =>
      rcases layers_commit s with same | dropped | merged
      · exact .same same
      · exact .dropped dropped
      · exact .merged merged
  | abort => exact .dropped rfl
  | close => exact .same (layers_close s)
  | restart => exact .dropped rfl

theorem Fresh.moves (fresh : s.Fresh) (moves : s.Moves t) : t.Fresh ∧ s.RecordsLe t := by
  cases moves with
  | same same =>
      refine ⟨fun id value staged => ?_, .of_committed (by rw [same])⟩
      rw [same] at staged ⊢
      exact fresh id value staged
  | @staged n key value new =>
      refine ⟨fun id other staged => ?_, .of_committed rfl⟩
      rw [staged_staging] at staged
      by_cases here : Key.block id = key
      · -- Nothing could be read under the key, so nothing is committed there.
        have none := new id here.symm
        rw [← here] at none
        exact (Option.or_eq_none_iff.mp none).2
      · rw [if_neg here] at staged
        exact fresh id other staged
  | dropped dropped =>
      refine ⟨fun id value staged => ?_, .of_committed (by rw [dropped]; rfl)⟩
      rw [dropped] at staged
      cases staged
  | merged merged =>
      refine ⟨fun id value staged => ?_, fresh.recordsLe_of_merged merged⟩
      rw [merged] at staged
      cases staged

theorem Fresh.follow (fresh : s.Fresh) (events : List Event) :
    (s.follow events).Fresh ∧ s.RecordsLe (s.follow events) := by
  induction events generalizing s with
  | nil => exact ⟨fresh, .of_committed rfl⟩
  | cons event events ih =>
      obtain ⟨fresh, kept⟩ := fresh.moves (s.moves_afterEvent event)
      obtain ⟨later, rest⟩ := ih fresh
      exact ⟨later, kept.trans rest⟩

/-! ## What stays and what is refused -/

structure WritesOnce (s : ChainState) : Prop where
  /-- What is committed under a block's key stays there, be it a record or not. -/
  lasting : ∀ (id : BlockId) (value : Bytes), s.layers.committed (0 :: id.toBytes) = some value →
    ∀ later : List Event, (s.follow later).layers.committed (0 :: id.toBytes) = some value
  /-- Other bytes under the identifier of a block, staged or committed, are left alone. -/
  conflict : ∀ (block : Block) (bytes : Bytes), s.Readable (0 :: block.id.toBytes) →
    (s.layers.staged (0 :: block.id.toBytes) = some bytes ∨
      s.layers.committed (0 :: block.id.toBytes) = some bytes) → bytes ≠ block.bytes →
    ∃ n, (putBlock block).run s = (.error (.integrity block.id), s.counting n)
  /-- The bytes of a block that are there already are not staged again. -/
  same : ∀ block : Block, s.Readable (0 :: block.id.toBytes) →
    (s.layers.staged (0 :: block.id.toBytes) = some block.bytes ∨
      s.layers.committed (0 :: block.id.toBytes) = some block.bytes) →
    ∃ n, (putBlock block).run s = (.ok (), s.counting n)
  /-- A block under whose identifier there is nothing is staged there. -/
  new : ∀ block : Block, s.Readable (0 :: block.id.toBytes) →
    s.layers.staged (0 :: block.id.toBytes) = none →
    s.layers.committed (0 :: block.id.toBytes) = none →
    ∃ n, (putBlock block).run s = (.ok (), (s.counting n).staging (0 :: block.id.toBytes) block.bytes)
  putBlock_apart : ∀ block : Block, SameUnder [1] s ((putBlock block).run s).2 ∧
    SameUnder [2] s ((putBlock block).run s).2 ∧
    ∀ id, id ≠ block.id → SameUnder (0 :: id.toBytes) s ((putBlock block).run s).2
  setLastAccepted_apart : ∀ id : BlockId, SameUnder [2] s ((setLastAccepted id).run s).2 ∧
    ∀ other : BlockId, SameUnder (0 :: other.toBytes) s ((setLastAccepted id).run s).2
  setInitialized_apart : SameUnder [1] s (setInitialized.run s).2 ∧
    ∀ id : BlockId, SameUnder (0 :: id.toBytes) s (setInitialized.run s).2

theorem run_putBlock_of_readable (readable : s.Readable (Key.block block.id)) :
    ∃ n, (putBlock block).run s =
      (match s.layers.value (Key.block block.id) with
        | none => (.ok (), (s.counting n).staging (Key.block block.id) block.bytes)
        | some bytes =>
          if bytes = block.bytes then (.ok (), s.counting n)
          else (.error (.integrity block.id), s.counting n)) := by
  obtain ⟨n, looked⟩ := run_read_of_readable readable
  refine ⟨n, ?_⟩
  rw [putBlock, run_bind_ok looked]
  cases s.layers.value (Key.block block.id) with
  | none => exact run_stage (s := s.counting n) readable.1 _ _
  | some bytes =>
      dsimp only
      split <;> rfl

theorem Fresh.writesOnce (fresh : s.Fresh) : s.WritesOnce := by
  constructor
  case lasting => exact fun id value found later => (fresh.follow later).2 id value found
  case conflict =>
    intro block bytes readable there different
    obtain ⟨n, run⟩ := run_putBlock_of_readable readable
    rw [fresh.value_eq there] at run
    exact ⟨n, run.trans (if_neg different)⟩
  case same =>
    intro block readable there
    obtain ⟨n, run⟩ := run_putBlock_of_readable readable
    rw [fresh.value_eq there] at run
    exact ⟨n, run.trans (if_pos rfl)⟩
  case new =>
    intro block readable unstaged absent
    have none : s.layers.value (Key.block block.id) = none := Option.or_eq_none_iff.mpr ⟨unstaged, absent⟩
    obtain ⟨n, run⟩ := run_putBlock_of_readable readable
    rw [none] at run
    exact ⟨n, run⟩
  case putBlock_apart =>
    intro block
    refine ⟨?_, ?_, fun id other => ?_⟩
    · exact sameUnder_change (.putBlock block) s (Key.block_ne_lastAccepted block.id).symm
    · exact sameUnder_change (.putBlock block) s (Key.block_ne_initialized block.id).symm
    · exact sameUnder_change (.putBlock block) s fun same => other (Key.block_injective same)
  case setLastAccepted_apart =>
    intro id
    refine ⟨?_, fun other => ?_⟩
    · exact sameUnder_change (.setLastAccepted id) s Key.lastAccepted_ne_initialized.symm
    · exact sameUnder_change (.setLastAccepted id) s (Key.block_ne_lastAccepted other)
  case setInitialized_apart =>
    refine ⟨?_, fun id => ?_⟩
    · exact sameUnder_change .setInitialized s Key.lastAccepted_ne_initialized
    · exact sameUnder_change .setInitialized s (Key.block_ne_initialized id)

/-- Over any table, whatever is asked of a state and whatever fails, no record is ever written over, and
records, pointer and marker are apart. -/
theorem writesOnce_follow (b : Backend) (events : List Event) :
    ((ofBackend b).follow events).WritesOnce :=
  ((fresh_of_empty rfl).follow events).1.writesOnce

end TimestampChain.ChainState

namespace TimestampChain.Sample

/-- Under the name of the first block there is something that is no block. -/
def spoilt : Backend := .ofTable (Table.empty.insert (Key.block genesis.id) [255, 255, 0])

end TimestampChain.Sample

namespace TimestampChain.ChainState

theorem committed_ofBackend (b : Backend) (key : Bytes) :
    (ofBackend b).layers.committed key = b.table.get? key := rfl

theorem spoilt_record_stays :
    (∃ n, (putBlock Sample.genesis).run (ofBackend Sample.spoilt) =
        (.error (.integrity Sample.genesis.id), (ofBackend Sample.spoilt).counting n)) ∧
      ((ofBackend Sample.spoilt).follow [.stage (.putBlock Sample.genesis), .stage .setInitialized,
        .commit, .restart]).layers.committed (0 :: Sample.genesis.id.toBytes) = some [255, 255, 0] := by
  have written : (ofBackend Sample.spoilt).WritesOnce := writesOnce_follow Sample.spoilt []
  have record : (ofBackend Sample.spoilt).layers.committed (Key.block Sample.genesis.id) =
      some [255, 255, 0] := by
    rw [Sample.spoilt, committed_ofBackend]
    exact Table.get?_insert_self ..
  have readable : (ofBackend Sample.spoilt).Readable (Key.block Sample.genesis.id) :=
    ⟨rfl, fun _ => rfl⟩
  have other : ([255, 255, 0] : Bytes) ≠ Sample.genesis.bytes := by
    intro same
    have length : Sample.genesis.bytes.length = 82 := Contents.length_encode _
    rw [← same] at length
    cases length
  refine ⟨written.conflict _ _ readable (Or.inr record) other, ?_⟩
  exact written.lasting Sample.genesis.id _ record _

end TimestampChain.ChainState
