import TimestampChain.Controller.Operations
import TimestampChain.Proofs.Store.Lookup

/-!
# What a controller answers

A block is looked up among the verified ones first, then in the store, and an extension of the
chain is judged by such look-ups alone. Each of them has one answer, unless a request fails.
-/

namespace TimestampChain.Controller

open TimestampChain.Action

/-! ## Counted requests -/

def counting (c : Controller) (n : Nat) : Controller := { c with store := c.store.counting n }

@[simp] theorem counting_counting (c : Controller) (m n : Nat) :
    (c.counting m).counting n = c.counting (m + n) := by
  simp [counting]

instance : Counted Controller ControllerError where
  counting := counting
  Fails c n e := ∃ text, c.store.backend.FailsWithin n text ∧ e = .store (.medium text)
  counting_zero _ := rfl
  counting_counting := counting_counting
  mono := by
    rintro c m n _ ⟨text, fails, rfl⟩ le
    exact ⟨text, fails.mono le, rfl⟩
  later := by
    rintro c m n _ ⟨text, fails, rfl⟩
    exact ⟨text, fails.later, rfl⟩

theorem onStore_does {α : Type} {x : ChainState.Step α} {c : Controller} {r : Except StoreError α}
    {change : ChainState → ChainState} (h : x.Does c.store r change) :
    (onStore x).Does c (r.mapError .ofStore) fun c => { c with store := change c.store } := by
  obtain ⟨n, done | ⟨_, ⟨text, fails, rfl⟩, stopped⟩⟩ := h
  · refine ⟨n, Or.inl ?_⟩
    rw [onStore, run_within, done]
    rfl
  · refine ⟨n, Or.inr ⟨_, ⟨text, fails, rfl⟩, ?_⟩⟩
    rw [onStore, run_within, stopped]
    rfl

theorem onStore_answers {α : Type} {x : ChainState.Step α} {c : Controller}
    {r : Except StoreError α} (h : x.Answers c.store r) :
    (onStore x).Answers c (r.mapError .ofStore) :=
  onStore_does h

theorem isInitialized_answers {c : Controller} {r : Except StoreError Bool}
    (h : c.store.marked = r) :
    (onStore ChainState.isInitialized).Answers c (r.mapError .ofStore) := by
  rw [← h]
  exact onStore_answers (ChainState.isInitialized_answers c.store)

theorem hasBlock_answers {c : Controller} {id : BlockId} {r : Except StoreError Bool}
    (h : c.store.holds id = r) :
    (onStore (ChainState.hasBlock id)).Answers c (r.mapError .ofStore) := by
  rw [← h]
  exact onStore_answers (ChainState.hasBlock_answers id c.store)

theorem run_onStore {α : Type} {x : ChainState.Step α} {c : Controller} {s : ChainState}
    {r : Except StoreError α} (h : x.run c.store = (r, s)) :
    (onStore x).run c = (r.mapError .ofStore, { c with store := s }) := by
  rw [onStore, run_within, h]

/-- While no request fails, what an action does is all that can come of it. -/
theorem run_of_never {α : Type} {x : Step α} {c : Controller} {r : Except ControllerError α}
    {change : Controller → Controller} (h : x.Does c r change)
    (never : c.store.backend.faults = .never) : ∃ n, x.run c = (r, change (c.counting n)) := by
  obtain ⟨n, done | ⟨_, ⟨text, fails, rfl⟩, -⟩⟩ := h
  · exact ⟨n, done⟩
  · exact absurd fails (Backend.not_failsWithin_of_never never n text)

/-! ## Looking up blocks -/

def find (c : Controller) (id : BlockId) : Except ControllerError Block :=
  match c.verified? id with
  | some block => .ok block
  | none => (c.store.record id).mapError .ofStore

theorem find_of_recorded {c : Controller} {id : BlockId} {bytes : Bytes}
    (unverified : c.verified? id = none) (opened : c.store.closed = false)
    (quiet : c.store.staged = .empty)
    (record : c.store.backend.table.get? (Key.block id) = some bytes) :
    c.find id = (ChainState.decodeRecord id bytes).mapError .ofStore := by
  rw [find, unverified, ChainState.record, ChainState.lookup_of_open opened quiet, record]
  rfl

theorem find_of_unrecorded {c : Controller} {id : BlockId} (unverified : c.verified? id = none)
    (opened : c.store.closed = false) (quiet : c.store.staged = .empty)
    (absent : c.store.backend.table.get? (Key.block id) = none) :
    c.find id = .error (.notFound id) := by
  rw [find, unverified, ChainState.record, ChainState.lookup_of_open opened quiet, absent]
  rfl

def findParent (c : Controller) (id : BlockId) : Except ControllerError Block :=
  (c.find id).mapError .asParent

def tip (c : Controller) : Except ControllerError BlockId := c.store.tip.mapError .ofStore

def extension (c : Controller) (block : Block) : Except ControllerError Unit := do
  let parent ← c.findParent block.parent
  checkChild parent block
  let last ← c.tip
  if parent.id = last then return
  else
    .error (.invalidBlock
      s!"parent {parent.id.toHex} is not the last accepted block {last.toHex}")

theorem getBlock_answers (id : BlockId) (c : Controller) : (getBlock id).Answers c (c.find id) := by
  refine Does.of_state ?_
  unfold find
  cases c.verified? id with
  | some block => exact answers_pure block c
  | none => exact onStore_answers (ChainState.getBlock_answers id c.store)

theorem resolveParent_answers (id : BlockId) (c : Controller) :
    (resolveParent id).Answers c (c.findParent id) := by
  obtain ⟨n, done | ⟨_, ⟨text, fails, rfl⟩, stopped⟩⟩ := getBlock_answers id c
  · refine ⟨n, Or.inl ?_⟩
    rw [resolveParent, run_mapError, done]
    rfl
  · refine ⟨n, Or.inr ⟨_, ⟨text, fails, rfl⟩, ?_⟩⟩
    rw [resolveParent, run_mapError, stopped]
    rfl

theorem lastAccepted_answers (c : Controller) : lastAccepted.Answers c c.tip :=
  onStore_answers (ChainState.lastAccepted_answers c.store)

theorem checkExtension_answers (block : Block) (c : Controller) :
    (checkExtension block).Answers c (c.extension block) := by
  refine (resolveParent_answers _ c).bind fun parent n _ => ?_
  refine (answers_ofExcept _ _).bind fun _ m _ => ?_
  refine (lastAccepted_answers _).bind fun last k _ => ?_
  split
  · exact answers_pure _ _
  · exact answers_fail _ _

theorem tip_eq_ok_iff {c : Controller} (opened : c.store.closed = false)
    (empty : c.store.staged = .empty) {id : BlockId} :
    c.tip = .ok id ↔ c.store.backend.table.get? Key.lastAccepted = some id.toBytes := by
  rw [tip, mapError_eq_ok_iff, ChainState.tip, ChainState.lookup_of_open opened empty]
  simp only [bind_eq_ok_iff, Except.ok.injEq, exists_eq_left']
  cases c.store.backend.table.get? Key.lastAccepted with
  | none => simp
  | some bytes =>
      have named := @Bytes32.ofBytes?_eq_some_iff bytes id
      cases known : Bytes32.ofBytes? bytes with
      | none => simpa [known, eq_comm] using named
      | some found => simpa [known, eq_comm, pure, Except.pure] using named

theorem extension_eq_ok_iff {c : Controller} {block : Block} :
    c.extension block = .ok () ↔
      ∃ parent, c.findParent block.parent = .ok parent ∧ checkChild parent block = .ok () ∧
        c.tip = .ok parent.id := by
  simp only [extension, bind_eq_ok_iff]
  constructor
  · rintro ⟨parent, found, ⟨⟩, child, last, tip, same⟩
    split at same
    · next equal => exact ⟨parent, found, child, equal ▸ tip⟩
    · contradiction
  · rintro ⟨parent, found, child, tip⟩
    exact ⟨parent, found, (), child, parent.id, tip, by rw [if_pos rfl]; rfl⟩

end TimestampChain.Controller
