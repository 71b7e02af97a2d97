import TimestampChain.Proofs.Controller.Genesis
import TimestampChain.Proofs.Controller.Memory

/-!
# Runs of a controller

A run is a course of events: calls with any arguments, restarts over the same backend, and changes
of what surrounds the controller. Whatever a call comes to, it changes the table only by writing
the batch of the first block or of an accepted one.
-/

namespace TimestampChain

open TimestampChain.Action

theorem Table.get?_of_erase {α : Type} {t : Table α} {key other : Bytes} {value : α}
    (found : (t.erase key).get? other = some value) : other ≠ key ∧ t.get? other = some value := by
  rw [get?_erase] at found
  by_cases same : other = key
  · simp [same] at found
  · rw [if_neg same] at found
    exact ⟨same, found⟩

theorem Table.erase_of_absent {α : Type} {t : Table α} {key : Bytes} (absent : t.get? key = none) :
    t.erase key = t := by
  apply Table.ext
  intro other
  rw [get?_erase]
  split
  · next same => rw [same, absent]
  · rfl

/-! ## Events -/

inductive Call where
  | bootstrap (data : Bytes)
  | propose (data : Bytes)
  | build
  | parse (bytes : Bytes)
  | get (id : BlockId)
  | verify (block : Block)
  | accept (block : Block)
  | reject (block : Block)
  | prefer (id : BlockId)
  | setState (state : EngineState)
  | lastAccepted
  | notify
  | healthCheck
  | shutdown

inductive Reply where
  | done
  | block (block : Block)
  | named (id : BlockId)

def Call.perform : Call → Controller.Step Reply
  | bootstrap data => (fun _ => .done) <$> Controller.bootstrap data
  | propose data => (fun _ => .done) <$> Controller.propose data
  | build => .block <$> Controller.build
  | parse bytes => .block <$> Controller.parseBlock bytes
  | get id => .block <$> Controller.getBlock id
  | verify block => (fun _ => .done) <$> Controller.verify block
  | accept block => .block <$> Controller.accept block
  | reject block => .block <$> Controller.reject block
  | prefer id => (fun _ => .done) <$> Controller.setPreference id
  | setState state => (fun _ => .done) <$> Controller.setState state
  | lastAccepted => .named <$> Controller.lastAccepted
  | notify => (fun _ => .done) <$> Controller.notify
  | healthCheck => (fun _ => .done) <$> Controller.healthCheck
  | shutdown => (fun _ => .done) <$> Controller.shutdown

def Controller.afterCall (c : Controller) (call : Call) : Controller := (call.perform.run c).2

inductive Event where
  | call (call : Call)
  | restart (channel : Channel) (clock : Clock)
  | surround (channel : Channel) (clock : Clock) (faults : FaultPolicy)

namespace Controller

/-- The controller behind an event. A restart leaves nothing but the backend. -/
def afterEvent (c : Controller) : Event → Controller
  | .call call => c.afterCall call
  | .restart channel clock => ofBackend c.store.backend channel clock
  | .surround channel clock faults => {
      c with
      store := { c.store with backend := { c.store.backend with faults := faults } }
      channel := channel
      clock := clock }

def follow (c : Controller) (events : List Event) : Controller := events.foldl afterEvent c

@[simp] theorem follow_nil (c : Controller) : c.follow [] = c := rfl

@[simp] theorem follow_cons (c : Controller) (event : Event) (events : List Event) :
    c.follow (event :: events) = (c.afterEvent event).follow events := rfl

def table (c : Controller) : Table Bytes := c.store.backend.table

/-- No block is accepted while the marker is not committed. -/
def InOrder (c : Controller) : Event → Prop
  | .call (.accept _) => (c.table.get? Key.initialized).isSome
  | _ => True

instance (c : Controller) : (event : Event) → Decidable (c.InOrder event)
  | .call (.accept _) => inferInstanceAs (Decidable ((c.table.get? Key.initialized).isSome = true))
  | .call (.bootstrap _) | .call (.propose _) | .call .build | .call (.parse _) | .call (.get _)
  | .call (.verify _) | .call (.reject _) | .call (.prefer _) | .call (.setState _)
  | .call .lastAccepted | .call .notify | .call .healthCheck | .call .shutdown | .restart ..
  | .surround .. => isTrue trivial

def Orderly : Controller → List Event → Prop
  | _, [] => True
  | c, event :: events => c.InOrder event ∧ (c.afterEvent event).Orderly events

instance instDecidableOrderly : (c : Controller) → (events : List Event) → Decidable (c.Orderly events)
  | _, [] => isTrue trivial
  | c, event :: events =>
    have := instDecidableOrderly (c.afterEvent event) events
    inferInstanceAs (Decidable (c.InOrder event ∧ _))

theorem orderly_append {c : Controller} {first second : List Event} :
    c.Orderly (first ++ second) ↔ c.Orderly first ∧ (c.follow first).Orderly second := by
  induction first generalizing c with
  | nil => simp [Orderly]
  | cons event events ih => simp [Orderly, ih, and_assoc]

/-- What every event in order keeps holds behind every orderly course of events. -/
theorem follow_induction {Inv : Controller → Prop}
    (step : ∀ c event, c.InOrder event → Inv c → Inv (c.afterEvent event)) {c : Controller}
    {events : List Event} (orderly : c.Orderly events) (start : Inv c) : Inv (c.follow events) := by
  induction events generalizing c with
  | nil => exact start
  | cons event events ih => exact ih orderly.2 (step c event orderly.1 start)

/-- What each of the events keeps holds behind all of them. -/
theorem follow_invariant_of_mem {Inv : Controller → Prop} {c : Controller} {events : List Event}
    (step : ∀ c, ∀ event ∈ events, Inv c → Inv (c.afterEvent event)) (start : Inv c) :
    Inv (c.follow events) := by
  induction events generalizing c with
  | nil => exact start
  | cons event events ih =>
      refine ih (fun d later member => ?_) (step c event List.mem_cons_self start)
      exact step d later (List.mem_cons_of_mem _ member)

/-- What every event keeps holds behind every course of events. -/
theorem follow_invariant {Inv : Controller → Prop}
    (step : ∀ c event, Inv c → Inv (c.afterEvent event)) {c : Controller} (events : List Event)
    (start : Inv c) : Inv (c.follow events) :=
  follow_invariant_of_mem (fun c event _ => step c event) start

/-! ## What a call comes to -/

inductive Idle (c : Controller) : Controller → Prop
  | kept {d : Controller} {n : Nat} (store : d.store = c.store.counting n)
      (verified : ∀ key block, d.verified.get? key = some block →
        c.verified.get? key = some block) : Idle c d
  | remembered {block : Block} {n : Nat} (new : c.verification block = .ok true) :
      Idle c ((c.counting n).remembering block)
  | closed (works : c.store.backend.faults c.store.backend.requests .close = none) :
      Idle c c.closing

/-- What a call can leave behind. -/
inductive Outcome (c : Controller) : Call → Controller → Prop
  | idle {call : Call} {d : Controller} (idle : c.Idle d) : Outcome c call d
  | accepted {block : Block} {d : Controller} (status : block.status = .processing)
      (unstored : c.store.holds block.id = .ok false) (admitted : c.admission block = .ok ())
      (wrote : c.Wrote (.ofAccepted block) d)
      (done : (accept block).run c = (.ok block.asAccepted, d.adopting block.id)) :
      Outcome c (.accept block) (d.adopting block.id)
  | founded {data : Bytes} {genesis : Block} {recorded : Bool} {d : Controller} {n : Nat}
      {preferred : BlockId} (unmarked : c.store.marked = .ok false)
      (made : Block.genesis data = .ok genesis)
      (record : c.store.lookup (Key.block genesis.id) =
        .ok (if recorded = true then some genesis.bytes else none))
      (wrote : c.Wrote (.ofFirst genesis recorded) d) :
      Outcome c (.bootstrap data) (((d.adopting genesis.id).counting n).preferring preferred)

theorem Idle.counting (c : Controller) (n : Nat) : c.Idle (c.counting n) :=
  .kept (n := n) rfl fun _ _ found => found

theorem Idle.forgetting (c : Controller) (n : Nat) (id : BlockId) :
    c.Idle ((c.counting n).forgetting id) := by
  refine .kept (n := n) rfl fun key block found => ?_
  have found : (c.verified.erase id.toBytes).get? key = some block := found
  exact (Table.get?_of_erase found).2

theorem Spares.idle {c d : Controller} (spared : c.Spares d) : c.Idle d := by
  obtain ⟨n, store⟩ := spared.store
  exact .kept store fun _ _ found => spared.verified ▸ found

theorem afterCall_eq {α : Type} {c : Controller} {call : Call} {x : Step α} {f : α → Reply}
    (performed : call.perform = f <$> x) : c.afterCall call = (x.run c).2 := by
  rw [afterCall, performed, run_map]

theorem outcome_of_spares {α : Type} {c : Controller} {call : Call} {x : Step α} {f : α → Reply}
    (performed : call.perform = f <$> x) (spares : Keeps Spares x) :
    c.Outcome call (c.afterCall call) := by
  rw [afterCall_eq performed]
  exact .idle (spares c).idle

/-- Every call leaves behind one of the outcomes. -/
theorem afterCall_outcome (call : Call) {c : Controller} (quiet : c.store.staged = .empty) :
    c.Outcome call (c.afterCall call) := by
  cases call with
  | bootstrap data =>
      rw [afterCall_eq (x := bootstrap data) rfl]
      rcases bootstrap_cases data quiet with ⟨n, preferred, done⟩ |
        ⟨unmarked, genesis, recorded, d, made, record, wrote, n, preferred, done⟩
      · rw [done]
        exact .idle (.kept (n := n) rfl fun _ _ found => found)
      · rw [done]
        exact .founded unmarked made record wrote
  | propose data => exact outcome_of_spares rfl (propose_spares data)
  | build => exact outcome_of_spares rfl build_spares
  | parse bytes => exact outcome_of_spares rfl (parseBlock_spares bytes)
  | get id => exact outcome_of_spares rfl (getBlock_spares id)
  | verify block =>
      rw [afterCall_eq (x := verify block) rfl]
      rcases verify_cases block c with ⟨n, done⟩ | ⟨new, n, done⟩
      · rw [done]
        exact .idle (Idle.counting c n)
      · rw [done]
        exact .idle (.remembered new)
  | accept block =>
      rw [afterCall_eq (x := accept block) rfl]
      rcases accept_cases block quiet with ⟨n, e, done⟩ | ⟨_, done⟩ | ⟨_, _, n, done⟩ |
        ⟨status, unstored, admitted, d, wrote, done⟩
      · rw [done]
        exact .idle (Idle.counting c n)
      · rw [done]
        exact .idle (Idle.counting c 0)
      · rw [done]
        exact .idle (Idle.forgetting c n block.id)
      · have accepted := Outcome.accepted status unstored admitted wrote done
        rw [done]
        exact accepted
  | reject block =>
      rw [afterCall_eq (x := reject block) rfl]
      obtain ⟨n, done | done⟩ := reject_cases block c
      · rw [done]
        exact .idle (Idle.counting c n)
      · rw [done]
        exact .idle (Idle.forgetting c n block.id)
  | prefer id => exact outcome_of_spares rfl (setPreference_spares id)
  | setState state => exact outcome_of_spares rfl (setState_spares state)
  | lastAccepted => exact outcome_of_spares rfl lastAccepted_spares
  | notify => exact outcome_of_spares rfl notify_spares
  | healthCheck => exact outcome_of_spares rfl healthCheck_spares
  | shutdown =>
      rw [afterCall_eq (x := shutdown) rfl]
      rcases shutdown_cases quiet with ⟨n, done⟩ | ⟨works, done⟩
      · rw [done]
        exact .idle (Idle.counting c n)
      · rw [done]
        exact .idle (.closed works)

/-! ## What a call writes -/

theorem Idle.table_eq {c d : Controller} (idle : c.Idle d) : d.table = c.table := by
  cases idle with
  | kept store _ => rw [table, store]; rfl
  | remembered _ => rfl
  | closed _ => rfl

theorem Idle.writes_eq {c d : Controller} (idle : c.Idle d) :
    d.store.backend.writes = c.store.backend.writes := by
  cases idle with
  | kept store _ => rw [store]; rfl
  | remembered _ => rfl
  | closed _ => rfl

theorem Wrote.table_eq {c d : Controller} {batch : Batch} (wrote : c.Wrote batch d) :
    d.table = c.table.insertMany batch := by
  obtain ⟨n, store⟩ := wrote.store_eq
  rw [table, store]
  rfl

theorem Wrote.writes_eq {c d : Controller} {batch : Batch} (wrote : c.Wrote batch d) :
    d.store.backend.writes = c.store.backend.writes + 1 := by
  obtain ⟨n, store⟩ := wrote.store_eq
  rw [store]
  rfl

/-- A call writes at most one batch. -/
theorem Outcome.writes_le {c d : Controller} {call : Call} (outcome : c.Outcome call d) :
    d.store.backend.writes ≤ c.store.backend.writes + 1 := by
  cases outcome with
  | idle idle =>
      have same := idle.writes_eq
      omega
  | accepted _ _ _ wrote _ => exact Nat.le_of_eq wrote.writes_eq
  | founded _ _ _ wrote => exact Nat.le_of_eq wrote.writes_eq

end Controller

end TimestampChain
