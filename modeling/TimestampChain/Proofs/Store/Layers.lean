import TimestampChain.Proofs.Store.Lookup
import TimestampChain.Proofs.Store.Tables

/-!
# Two layers

A chain state is two maps, the staged one laid over the committed one. Looking sees both and changes
neither, and staging changes the upper one at one key.
-/

namespace TimestampChain

theorem WriteBuffer.eq_empty_iff {buffer : WriteBuffer} :
    buffer = .empty ↔ ∀ key, buffer.get? key = none := by
  constructor
  · rintro rfl key
    rfl
  · intro none
    have same : buffer.writes = .empty := Table.ext none
    cases buffer
    cases same
    rfl

theorem WriteBuffer.isEmpty_iff {buffer : WriteBuffer} : buffer.isEmpty = true ↔ buffer = .empty := by
  constructor
  · intro none
    obtain ⟨⟨entries, ordered⟩⟩ := buffer
    obtain rfl : entries = [] := List.isEmpty_iff.mp none
    rfl
  · rintro rfl
    rfl

/-! ## Layers -/

/-- Two maps, the upper of which is laid over the lower. -/
structure Layers where
  committed : Bytes → Option Bytes
  staged : Bytes → Option Bytes

namespace Layers

/-- The value under a key. What is staged hides what is committed. -/
def value (l : Layers) (key : Bytes) : Option Bytes := (l.staged key).or (l.committed key)

def merged (l : Layers) : Layers := ⟨l.value, fun _ => none⟩

def dropped (l : Layers) : Layers := ⟨l.committed, fun _ => none⟩

def waiting (l : Layers) : Set Bytes := {key | (l.staged key).isSome}

end Layers

namespace ChainState

open TimestampChain.Action

variable {s t : ChainState}

def layers (s : ChainState) : Layers := ⟨s.backend.table.get?, s.staged.get?⟩

@[simp] theorem layers_counting (s : ChainState) (n : Nat) : (s.counting n).layers = s.layers := rfl

theorem staged_staging (s : ChainState) (key value other : Bytes) :
    (s.staging key value).layers.staged other =
      if other = key then some value else s.layers.staged other :=
  WriteBuffer.get?_set s.staged key other value

theorem encard_waiting (s : ChainState) : s.layers.waiting.encard = s.pendingWrites :=
  s.staged.writes.encard_keys

theorem waiting_eq_empty_iff : s.layers.waiting = ∅ ↔ s.staged = .empty := by
  rw [WriteBuffer.eq_empty_iff, Set.eq_empty_iff_forall_notMem]
  constructor
  · intro none key
    exact Option.not_isSome_iff_eq_none.mp (none key)
  · intro none key
    exact Option.not_isSome_iff_eq_none.mpr (none key)

/-! ## What is asked -/

inductive Answer where
  | found (there : Bool)
  | block (block : Block)
  | named (id : BlockId)

inductive Query where
  | isInitialized
  | getBlock (id : BlockId)
  | hasBlock (id : BlockId)
  | lastAccepted

namespace Query

def key : Query → Bytes
  | isInitialized => Key.initialized
  | getBlock id | hasBlock id => Key.block id
  | lastAccepted => Key.lastAccepted

def answer : Query → Option Bytes → Except StoreError Answer
  | isInitialized, value | hasBlock _, value => .ok (.found value.isSome)
  | getBlock id, none => .error (.notFound id)
  | getBlock id, some bytes => (decodeRecord id bytes).map .block
  | lastAccepted, none => .error .notInitialized
  | lastAccepted, some bytes =>
    match Bytes32.ofBytes? bytes with
    | some id => .ok (.named id)
    | none => .error (.medium s!"last accepted pointer has {bytes.length} bytes")

def perform : Query → Step Answer
  | isInitialized => .found <$> ChainState.isInitialized
  | getBlock id => .block <$> ChainState.getBlock id
  | hasBlock id => .found <$> ChainState.hasBlock id
  | lastAccepted => .named <$> ChainState.lastAccepted

end Query

inductive Change where
  | setInitialized
  | putBlock (block : Block)
  | setLastAccepted (id : BlockId)

namespace Change

def key : Change → Bytes
  | setInitialized => Key.initialized
  | putBlock block => Key.block block.id
  | setLastAccepted _ => Key.lastAccepted

def value : Change → Bytes
  | setInitialized => initializedMarker
  | putBlock block => block.bytes
  | setLastAccepted id => id.toBytes

def perform : Change → Step Unit
  | setInitialized => ChainState.setInitialized
  | putBlock block => ChainState.putBlock block
  | setLastAccepted id => ChainState.setLastAccepted id

end Change

inductive Event where
  | read (query : Query)
  | stage (change : Change)
  | commit
  | abort
  | close
  | restart

def afterEvent (s : ChainState) : Event → ChainState
  | .read query => (query.perform.run s).2
  | .stage change => (change.perform.run s).2
  | .commit => (commit.run s).2
  | .abort => (abort.run s).2
  | .close => (close.run s).2
  | .restart => ofBackend s.backend

def follow (s : ChainState) (events : List Event) : ChainState := events.foldl afterEvent s

/-! ## Looking -/

theorem Query.perform_eq (query : Query) :
    query.perform = read query.key >>= fun value => ofExcept (query.answer value) := by
  cases query with
  | isInitialized => exact map_bind _ _ _
  | hasBlock id => exact map_bind _ _ _
  | getBlock id =>
      refine (map_bind _ _ _).trans (bind_congr fun value => ?_)
      cases value with
      | none => rfl
      | some bytes =>
          funext s
          exact run_map _ _ s
  | lastAccepted =>
      refine (map_bind _ _ _).trans (bind_congr fun value => ?_)
      cases value with
      | none => rfl
      | some bytes =>
          dsimp only [answer]
          cases Bytes32.ofBytes? bytes <;> rfl

theorem run_read_of_closed (closed : s.closed = true) (key : Bytes) :
    (read key).run s = (.error .closed, s) := by
  have stopped := run_ensureOpen s
  rw [closed, if_pos rfl] at stopped
  exact run_bind_error stopped

theorem run_read_of_staged {key value : Bytes} (opened : s.closed = false)
    (staged : s.layers.staged key = some value) : (read key).run s = (.ok (some value), s) := by
  have passed := run_ensureOpen s
  rw [opened, if_neg Bool.false_ne_true] at passed
  have staged : s.staged.get? key = some value := staged
  rw [read, run_bind_ok passed, run_bind_ok (run_state s), staged]
  rfl

theorem run_read_of_unstaged {key : Bytes} (opened : s.closed = false)
    (unstaged : s.layers.staged key = none) :
    (read key).run s =
      (match s.backend.faults s.backend.requests (.get key) with
        | some text => .error (.medium text)
        | none => .ok (s.layers.committed key), s.counting 1) := by
  have passed := run_ensureOpen s
  rw [opened, if_neg Bool.false_ne_true] at passed
  have unstaged : s.staged.get? key = none := unstaged
  rw [read, run_bind_ok passed, run_bind_ok (run_state s), unstaged]
  dsimp only
  rw [run_onBackend, Backend.run_get]
  cases s.backend.faults s.backend.requests (.get key) <;> rfl

theorem lookup_eq_value (opened : s.closed = false) (key : Bytes) :
    s.lookup key = .ok (s.layers.value key) := by
  rw [lookup, opened]
  rfl

/-- The state is open, and a request for a key that is not staged does not fail. -/
def Readable (s : ChainState) (key : Bytes) : Prop :=
  s.closed = false ∧
    (s.layers.staged key = none → s.backend.faults s.backend.requests (.get key) = none)

theorem run_read_of_readable {key : Bytes} (readable : s.Readable key) :
    ∃ n, (read key).run s = (.ok (s.layers.value key), s.counting n) := by
  obtain ⟨opened, works⟩ := readable
  unfold Layers.value
  cases staged : s.layers.staged key with
  | some value => exact ⟨0, run_read_of_staged opened staged⟩
  | none =>
      have looked := run_read_of_unstaged opened staged
      rw [works staged] at looked
      exact ⟨1, looked⟩

/-- A value that is staged is found without a request. -/
theorem run_query_of_staged {query : Query} {value : Bytes} (opened : s.closed = false)
    (staged : s.layers.staged query.key = some value) :
    query.perform.run s = (query.answer (some value), s) := by
  rw [query.perform_eq, run_bind_ok (run_read_of_staged opened staged)]
  rfl

theorem run_query_of_unstaged {query : Query} (opened : s.closed = false)
    (unstaged : s.layers.staged query.key = none) :
    query.perform.run s =
      (match s.backend.faults s.backend.requests (.get query.key) with
        | some text => .error (.medium text)
        | none => query.answer (s.layers.committed query.key), s.counting 1) := by
  have read := run_read_of_unstaged opened unstaged
  rw [query.perform_eq]
  cases fault : s.backend.faults s.backend.requests (.get query.key) with
  | some text =>
      rw [fault] at read
      exact run_bind_error read
  | none =>
      rw [fault] at read
      exact run_bind_ok read

theorem run_query_of_closed (closed : s.closed = true) (query : Query) :
    query.perform.run s = (.error .closed, s) := by
  rw [query.perform_eq]
  exact run_bind_error (run_read_of_closed closed query.key)

/-- A look changes nothing but the number of requests. -/
theorem query_counts (query : Query) (s : ChainState) : ∃ n, (query.perform.run s).2 = s.counting n := by
  cases closed : s.closed with
  | true => exact ⟨0, congrArg Prod.snd (run_query_of_closed closed query)⟩
  | false =>
      cases staged : s.layers.staged query.key with
      | some value => exact ⟨0, congrArg Prod.snd (run_query_of_staged closed staged)⟩
      | none => exact ⟨1, congrArg Prod.snd (run_query_of_unstaged closed staged)⟩

/-! ## Staging -/

inductive Refuses (s : ChainState) : Change → StoreError → Prop
  | closed {change : Change} (closed : s.closed = true) : Refuses s change .closed
  | unread {block : Block} {text : String} (unstaged : s.layers.staged (Key.block block.id) = none)
      (fault : s.backend.faults s.backend.requests (.get (Key.block block.id)) = some text) :
      Refuses s (.putBlock block) (.medium text)
  | conflict {block : Block} {bytes : Bytes} (there : s.layers.value (Key.block block.id) = some bytes)
      (different : bytes ≠ block.bytes) : Refuses s (.putBlock block) (.integrity block.id)

inductive Staged (s : ChainState) (change : Change) : Except StoreError Unit → ChainState → Prop
  | refused {e : StoreError} {n : Nat} (refuses : s.Refuses change e) :
      Staged s change (.error e) (s.counting n)
  | same {n : Nat} (there : s.layers.value change.key = some change.value) :
      Staged s change (.ok ()) (s.counting n)
  | staged {n : Nat} : Staged s change (.ok ()) ((s.counting n).staging change.key change.value)

theorem run_stage_of_closed (closed : s.closed = true) (key value : Bytes) :
    (stage key value).run s = (.error .closed, s) := by
  have stopped := run_ensureOpen s
  rw [closed, if_pos rfl] at stopped
  exact run_bind_error stopped

theorem run_change_of_closed (closed : s.closed = true) (change : Change) :
    change.perform.run s = (.error .closed, s) := by
  cases change with
  | setInitialized => exact run_stage_of_closed closed _ _
  | putBlock block => exact run_bind_error (run_read_of_closed closed _)
  | setLastAccepted id => exact run_stage_of_closed closed _ _

/-- A block is judged by the value under its key. -/
theorem staged_of_read {block : Block} {value : Option Bytes} {n : Nat} (opened : s.closed = false)
    (found : s.layers.value (Key.block block.id) = value)
    (looked : (read (Key.block block.id)).run s = (.ok value, s.counting n)) :
    s.Staged (.putBlock block) ((putBlock block).run s).1 ((putBlock block).run s).2 := by
  rw [putBlock, run_bind_ok looked]
  cases value with
  | none =>
      dsimp only
      rw [run_stage (s := s.counting n) opened]
      exact .staged
  | some bytes =>
      dsimp only
      by_cases same : bytes = block.bytes
      · rw [if_pos same]
        rw [same] at found
        exact .same found
      · rw [if_neg same]
        exact .refused (.conflict found same)

theorem staged_run (change : Change) (s : ChainState) :
    s.Staged change (change.perform.run s).1 (change.perform.run s).2 := by
  cases closed : s.closed with
  | true =>
      rw [run_change_of_closed closed change]
      exact .refused (n := 0) (.closed closed)
  | false =>
      cases change with
      | setInitialized =>
          have run := run_stage closed Key.initialized initializedMarker
          have run : Change.setInitialized.perform.run s = _ := run
          rw [run]
          exact .staged (n := 0)
      | setLastAccepted id =>
          have run := run_stage closed Key.lastAccepted id.toBytes
          have run : (Change.setLastAccepted id).perform.run s = _ := run
          rw [run]
          exact .staged (n := 0)
      | putBlock block =>
          cases staged : s.layers.staged (Key.block block.id) with
          | some bytes =>
              have found : s.layers.value (Key.block block.id) = some bytes := by
                rw [Layers.value, staged]
                rfl
              exact staged_of_read (n := 0) closed found (run_read_of_staged closed staged)
          | none =>
              have found : s.layers.value (Key.block block.id) = s.layers.committed (Key.block block.id) := by
                rw [Layers.value, staged]
                rfl
              have looked := run_read_of_unstaged closed staged
              cases fault : s.backend.faults s.backend.requests (.get (Key.block block.id)) with
              | some text =>
                  rw [fault] at looked
                  have failed : (Change.putBlock block).perform.run s = _ := run_bind_error looked
                  rw [failed]
                  exact .refused (.unread staged fault)
              | none =>
                  rw [fault] at looked
                  exact staged_of_read closed found looked

theorem Staged.closed_eq {change : Change} {reply : Except StoreError Unit}
    (h : s.Staged change reply t) : t.closed = s.closed := by
  cases h <;> rfl

/-- A write touches one key of the upper map. -/
theorem Staged.layers {change : Change} {reply : Except StoreError Unit} (h : s.Staged change reply t) :
    t.layers.committed = s.layers.committed ∧
      (∀ other, other ≠ change.key → t.layers.staged other = s.layers.staged other) ∧
      (reply = .ok () → t.layers.value change.key = some change.value) ∧
      ∀ e, reply = .error e → t.layers = s.layers ∧ s.Refuses change e := by
  cases h with
  | refused refuses =>
      refine ⟨rfl, fun _ _ => rfl, fun done => ?_, fun e failed => ?_⟩
      · cases done
      · cases failed
        exact ⟨rfl, refuses⟩
  | same there =>
      refine ⟨rfl, fun _ _ => rfl, fun _ => there, fun e failed => ?_⟩
      cases failed
  | staged =>
      refine ⟨rfl, fun other different => ?_, fun _ => ?_, fun e failed => ?_⟩
      · rw [staged_staging, if_neg different]
        rfl
      · rw [Layers.value, staged_staging, if_pos rfl]
        rfl
      · cases failed

end ChainState

end TimestampChain
