import TimestampChain.Proofs.Chain.AnyOrder
import TimestampChain.Proofs.Chain.Attempts
import TimestampChain.Proofs.Chain.Recovery

/-!
# Setting the chain up again and again

An attempt to set the chain up may fail at any of its requests. Until one writes its batch the table
is empty. That batch holds all entries of a chain with one block, and later attempts leave them
alone, whatever their data. An attempt fails with the first of its requests that does, and goes on with
the block that is there if none fails.
-/

namespace TimestampChain

theorem Table.toList_founding (genesis : Block) :
    (Table.empty.founding genesis).toList =
      [(0 :: genesis.id.toBytes, genesis.contents.encode), ([1], genesis.id.toBytes), ([2], [1])] := by
  rw [← genesis.bytes_eq]
  exact WriteBuffer.drain_first genesis

theorem Table.founding_ne_empty {genesis : Block} : Table.empty.founding genesis ≠ .empty := by
  intro none
  have marker := Table.marker_founding Table.empty genesis
  rw [none] at marker
  cases marker

theorem Table.eq_of_toList {α : Type} {left right : Table α} (h : left.toList = right.toList) :
    left = right := by
  cases left
  cases right
  cases h
  rfl

/-- An attempt to set the chain up, or a change of what surrounds the controller. -/
def Event.SetsUp : Event → Prop
  | .call (.bootstrap _) | .restart .. | .surround .. => True
  | .call _ => False

theorem Event.setsUp_cases {event : Event} (attempt : event.SetsUp) :
    (∃ data, event = .call (.bootstrap data)) ∨ (∃ channel clock, event = .restart channel clock) ∨
      ∃ channel clock faults, event = .surround channel clock faults := by
  cases event with
  | call call =>
      cases call with
      | bootstrap data => exact Or.inl ⟨data, rfl⟩
      | _ => exact attempt.elim
  | restart channel clock => exact Or.inr (Or.inl ⟨channel, clock, rfl⟩)
  | surround channel clock faults => exact Or.inr (Or.inr ⟨channel, clock, faults, rfl⟩)

namespace Controller

open TimestampChain.Action

variable {c d : Controller} {data : Bytes} {event : Event} {events : List Event}

/-! ## One attempt -/

theorem inOrder_of_setsUp (attempt : event.SetsUp) : c.InOrder event := by
  obtain ⟨data, rfl⟩ | ⟨channel, clock, rfl⟩ | ⟨channel, clock, faults, rfl⟩ :=
    Event.setsUp_cases attempt <;> trivial

/-- The attempt writes the first block, over an empty table. -/
structure Founds (c : Controller) (data : Bytes) (genesis : Block) : Prop where
  empty : c.table = .empty
  made : Block.genesis data = .ok genesis
  table : (c.afterCall (.bootstrap data)).table = Table.empty.founding genesis
  writes : (c.afterCall (.bootstrap data)).store.backend.writes = c.store.backend.writes + 1

theorem afterBootstrap_cases (data : Bytes) (settled : c.Settled) :
    (∃ n preferred, c.afterCall (.bootstrap data) = (c.counting n).preferring preferred) ∨
      ∃ genesis, c.Founds data genesis ∧
        (c.afterCall (.bootstrap data)).store.closed = c.store.closed := by
  have quiet := settled.tidy.quiet
  have behind : c.afterCall (.bootstrap data) = ((bootstrap data).run c).2 :=
    afterCall_eq (x := bootstrap data) rfl
  rcases bootstrap_cases data quiet with ⟨n, preferred, done⟩ |
    ⟨unmarked, genesis, recorded, d, made, record, wrote, n, preferred, done⟩
  · exact Or.inl ⟨n, preferred, behind.trans done⟩
  · obtain ⟨empty, -⟩ := holdsChain_of_founded quiet settled.sound unmarked made record wrote
    have table := table_of_founded quiet record wrote
    have writes := wrote.writes_eq
    have closed : d.store.closed = c.store.closed := by
      obtain ⟨m, store⟩ := wrote.store_eq
      rw [store]
    rw [empty] at table
    rw [done] at behind
    refine Or.inr ⟨genesis, ⟨empty, made, ?_, ?_⟩, ?_⟩ <;> rw [behind]
    · exact table
    · exact writes
    · exact closed

theorem afterEvent_of_setsUp (attempt : event.SetsUp) (settled : c.Settled) :
    (c.afterEvent event).table = c.table ∧
        (c.afterEvent event).store.backend.writes = c.store.backend.writes ∨
      ∃ data genesis, event = .call (.bootstrap data) ∧ c.Founds data genesis := by
  obtain ⟨data, rfl⟩ | ⟨channel, clock, rfl⟩ | ⟨channel, clock, faults, rfl⟩ :=
    Event.setsUp_cases attempt
  · rcases afterBootstrap_cases data settled with ⟨n, preferred, done⟩ | ⟨genesis, founds, -⟩
    · rw [afterEvent, done]
      exact Or.inl ⟨rfl, rfl⟩
    · exact Or.inr ⟨data, genesis, rfl, founds⟩
  · exact Or.inl ⟨rfl, rfl⟩
  · exact Or.inl ⟨rfl, rfl⟩

theorem open_of_setsUp (attempt : event.SetsUp) (settled : c.Settled)
    (opened : c.store.closed = false) : (c.afterEvent event).store.closed = false := by
  obtain ⟨data, rfl⟩ | ⟨channel, clock, rfl⟩ | ⟨channel, clock, faults, rfl⟩ :=
    Event.setsUp_cases attempt
  · rcases afterBootstrap_cases data settled with ⟨n, preferred, done⟩ | ⟨genesis, -, same⟩
    · rw [afterEvent, done]
      exact opened
    · exact same.trans opened
  · rfl
  · exact opened

/-! ## Attempts one after another -/

theorem Settled.follow_setsUp (settled : c.Settled) (attempts : ∀ event ∈ events, event.SetsUp)
    (opened : c.store.closed = false) :
    (c.follow events).Settled ∧ (c.follow events).store.closed = false := by
  induction events generalizing c with
  | nil => exact ⟨settled, opened⟩
  | cons event events ih =>
      obtain ⟨attempt, later⟩ := List.forall_mem_cons.mp attempts
      exact ih (settled.afterEvent (inOrder_of_setsUp attempt)) later
        (open_of_setsUp attempt settled opened)

/-- Once there are entries, attempts leave them alone. -/
theorem follow_of_nonempty (attempts : ∀ event ∈ events, event.SetsUp) (settled : c.Settled)
    (nonempty : c.table ≠ .empty) :
    (c.follow events).table = c.table ∧
      (c.follow events).store.backend.writes = c.store.backend.writes := by
  induction events generalizing c with
  | nil => exact ⟨rfl, rfl⟩
  | cons event events ih =>
      obtain ⟨attempt, later⟩ := List.forall_mem_cons.mp attempts
      have settled' := settled.afterEvent (inOrder_of_setsUp attempt)
      rcases afterEvent_of_setsUp attempt settled with ⟨table, writes⟩ | ⟨_, _, -, founds⟩
      · obtain ⟨table', writes'⟩ := ih later settled' (table ▸ nonempty)
        exact ⟨table'.trans table, writes'.trans writes⟩
      · exact absurd founds.empty nonempty

def FirstFounds (c : Controller) (events : List Event) (genesis : Block) : Prop :=
  ∃ earlier data later, events = earlier ++ .call (.bootstrap data) :: later ∧
    (c.follow earlier).store.backend.writes = c.store.backend.writes ∧
    (c.follow earlier).Founds data genesis

/-- Attempts over an empty table leave it empty, or the first one that writes decides. -/
theorem follow_of_empty (attempts : ∀ event ∈ events, event.SetsUp) (settled : c.Settled)
    (empty : c.table = .empty) :
    (c.follow events).table = .empty ∧
        (c.follow events).store.backend.writes = c.store.backend.writes ∨
      ∃ genesis, c.FirstFounds events genesis ∧
        (c.follow events).table = Table.empty.founding genesis ∧
        (c.follow events).store.backend.writes = c.store.backend.writes + 1 := by
  induction events generalizing c with
  | nil => exact Or.inl ⟨empty, rfl⟩
  | cons event events ih =>
      obtain ⟨attempt, later⟩ := List.forall_mem_cons.mp attempts
      have settled' := settled.afterEvent (inOrder_of_setsUp attempt)
      rcases afterEvent_of_setsUp attempt settled with ⟨table, writes⟩ | ⟨data, genesis, rfl, founds⟩
      · rcases ih later settled' (table.trans empty) with ⟨table', writes'⟩ |
          ⟨genesis, ⟨earlier, data, rest, rfl, unwritten, founds⟩, table', writes'⟩
        · exact Or.inl ⟨table', writes'.trans writes⟩
        · refine Or.inr ⟨genesis, ⟨event :: earlier, data, rest, rfl, ?_, founds⟩, table', ?_⟩
          · exact unwritten.trans writes
          · rw [follow_cons, writes', writes]
      · -- From here on the table has entries, so that the attempts left over change nothing.
        have nonempty : (c.afterCall (.bootstrap data)).table ≠ .empty :=
          founds.table ▸ Table.founding_ne_empty
        obtain ⟨table', writes'⟩ := follow_of_nonempty later settled' nonempty
        refine Or.inr ⟨genesis, ⟨[], data, events, rfl, rfl, founds⟩, ?_, ?_⟩
        · exact table'.trans founds.table
        · exact writes'.trans founds.writes

/-! ## The result of an attempt -/

/-- At the numbers of the requests that a run of the action makes, no request would fail, whatever it
asked. This depends on how many requests there are and not on what they are. -/
def Unfailing {α : Type} (x : Step α) (c : Controller) : Prop :=
  ∀ number request, c.store.backend.requests ≤ number →
    number < (x.run c).2.store.backend.requests → c.store.backend.faults number request = none

section

variable {α β : Type} {x : Step α}

theorem Unfailing.not_fails {n : Nat} {e : ControllerError} (h : Unfailing x c)
    (failed : x.run c = (.error e, c.counting n)) : ¬ Counted.Fails c n e := by
  rintro ⟨text, ⟨k, less, request, fault⟩, -⟩
  have behind : (x.run c).2.store.backend.requests = c.store.backend.requests + n := by
    rw [failed]
    rfl
  have worked := h (c.store.backend.requests + k) request (Nat.le_add_right _ _) (by omega)
  rw [worked] at fault
  cases fault

theorem run_of_unfailing {r : Except ControllerError α} {change : Controller → Controller}
    (does : x.Does c r change) (h : Unfailing x c) : ∃ n, x.run c = (r, change (c.counting n)) := by
  obtain ⟨n, done | ⟨e, fails, stopped⟩⟩ := does
  · exact ⟨n, done⟩
  · exact absurd fails (h.not_fails stopped)

end

theorem tip_of_founding {genesis : Block} (quiet : c.store.staged = .empty)
    (opened : c.store.closed = false) (table : c.table = Table.empty.founding genesis) :
    c.tip = .ok genesis.id := by
  refine (tip_eq_ok_iff opened quiet).mpr ?_
  show c.table.get? _ = _
  rw [table, Table.pointer_founding]

/-- The chain consists of one block, which is preferred and the one accepted last. -/
structure StandsOn (c : Controller) (genesis : Block) : Prop where
  table : c.table = Table.empty.founding genesis
  preferred : c.preferred = genesis.id
  tip : c.tip = .ok genesis.id

/-- The attempt makes the requests. The first one that fails is reported, and where none fails the
chain stands on its first block. -/
structure GoesThrough (c : Controller) (data : Bytes) (requests : List Request) (genesis : Block) :
    Prop where
  stands : c.fault? requests = none → ∃ d, (bootstrap data).run c = (.ok (), d) ∧ d.StandsOn genesis
  fails : ∀ text, c.fault? requests = some text →
    ((bootstrap data).run c).1 = .error (.store (.medium text))

def resumingRequests : List Request := [.get Key.initialized, .get Key.lastAccepted]

/-- Over an empty table an attempt asks for the marker twice and for the record of the first block,
writes, and asks for the pointer. -/
def foundingRequests (genesis : Block) : List Request := [
  .get Key.initialized, .get Key.initialized, .get (Key.block genesis.id),
  .write (.ofFirst genesis false), .get Key.lastAccepted]

theorem goesThrough_of_begun {front : List Request} {genesis : Block}
    (begun : Asks (initGenesis data) c front (.ok ()) d) (passed : c.Passed front d)
    (quiet : d.store.staged = .empty) (opened : d.store.closed = false)
    (table : d.table = Table.empty.founding genesis) :
    c.GoesThrough data (front ++ [.get Key.lastAccepted]) genesis := by
  have pointer : d.table.get? Key.lastAccepted = some genesis.id.toBytes := by
    rw [table, Table.pointer_founding]
  have asks := asks_bootstrap begun passed quiet opened pointer
  exact ⟨fun unfailing => ⟨_, asks.answered unfailing, table, rfl, tip_of_founding quiet opened table⟩,
    asks.refused⟩

theorem resuming_goesThrough {genesis : Block} (quiet : c.store.staged = .empty)
    (opened : c.store.closed = false) (table : c.table = Table.empty.founding genesis) (data : Bytes) :
    c.GoesThrough data resumingRequests genesis := by
  have marker : (c.table.get? Key.initialized).isSome := by
    rw [table, Table.marker_founding]
    rfl
  have begun := asks_initGenesis_of_marked quiet opened marker data
  exact goesThrough_of_begun begun ⟨rfl, rfl⟩ quiet opened table

theorem founding_goesThrough {genesis : Block} (quiet : c.store.staged = .empty)
    (opened : c.store.closed = false) (empty : c.table = .empty)
    (made : Block.genesis data = .ok genesis) : c.GoesThrough data (foundingRequests genesis) genesis := by
  have begun := asks_initGenesis_of_empty quiet opened empty made
  refine goesThrough_of_begun begun ⟨rfl, rfl⟩ quiet opened ?_
  show c.table.insertMany _ = _
  rw [empty]
  exact Table.insertMany_first _ genesis nofun

/-- Data that is too long is refused as soon as the marker is seen to be missing. -/
theorem bootstrap_of_long {found : Bool} (quiet : c.store.staged = .empty)
    (empty : c.table = .empty) (long : Payload.size < data.length)
    (asked : (onStore ChainState.isInitialized).run c = (.ok found, d)) :
    (bootstrap data).run c = (.error (.badGenesisData data.length Payload.size), d) := by
  have unmarked : found = false := by
    obtain ⟨n, e, failed⟩ | ⟨n, done⟩ := (isInitialized_answers (c := c) rfl).cases
    · rw [asked] at failed
      cases failed
    · rw [asked] at done
      have marked := mapError_eq_ok_iff.mp (congrArg Prod.fst done).symm
      have marker := marked_of_marker quiet marked
      rw [empty] at marker
      exact marker.symm
  have refused : (initGenesis data).run c =
      (.error (.badGenesisData data.length Payload.size), d) := by
    rw [initGenesis, run_bind_ok asked, unmarked, if_neg Bool.false_ne_true, if_pos long]
    rfl
  exact run_bind_error refused

/-! ## All or nothing -/

structure Attempted (c : Controller) (data : Bytes) : Prop where
  /-- Wherever it is stopped, it has written everything or nothing. -/
  stopped : ∀ answered,
    ((c.stoppedAfter answered).afterCall (.bootstrap data)).table = c.table ∨
      ((c.stoppedAfter answered).afterCall (.bootstrap data)).table =
        (c.afterCall (.bootstrap data)).table
  /-- It changes no entries that are there. -/
  kept : c.table ≠ .empty → (c.afterCall (.bootstrap data)).table = c.table ∧
    (c.afterCall (.bootstrap data)).store.backend.writes = c.store.backend.writes
  /-- It writes no data that is too long, and says so once the marker is seen to be missing. -/
  long : c.table = .empty → Payload.size < data.length →
    (c.afterCall (.bootstrap data)).table = .empty ∧
      (c.afterCall (.bootstrap data)).store.backend.writes = c.store.backend.writes ∧
      ∀ found d, (onStore ChainState.isInitialized).run c = (.ok found, d) →
        (bootstrap data).run c = (.error (.badGenesisData data.length Payload.size), d)
  /-- Over an empty table it writes data that is not too long, unless one of its requests fails. -/
  founds : c.table = .empty → data.length ≤ Payload.size →
    ∃ genesis, Block.genesis data = .ok genesis ∧ c.GoesThrough data (foundingRequests genesis) genesis
  /-- Once there are entries it goes on with their block, whatever the data, unless one of its
  requests fails. -/
  resumes : c.table ≠ .empty →
    ∃ genesis, c.table = Table.empty.founding genesis ∧ c.GoesThrough data resumingRequests genesis

/-- Behind any attempts over a backend that started empty nothing is staged, and the table is empty
or holds exactly the entries of the first block of the first attempt that wrote. So it goes on with
every further attempt. -/
theorem bootstrap_all_or_nothing {b : Backend} {channel : Channel} {clock : Clock}
    (empty : b.table = .empty) (attempts : ∀ event ∈ events, event.SetsUp)
    (reached : c = (ofBackend b channel clock).follow events) (data : Bytes) :
    c.store.pendingWrites = 0 ∧
      (c.table = .empty ∧ c.store.backend.writes = b.writes ∨
        ∃ genesis, (ofBackend b channel clock).FirstFounds events genesis ∧
          c.store.backend.writes = b.writes + 1 ∧
          c.table.toList = [(0 :: genesis.id.toBytes, genesis.contents.encode),
            ([1], genesis.id.toBytes), ([2], [1])]) ∧
      c.Attempted data := by
  have start := settled_ofBackend empty channel clock
  have behind := start.follow_setsUp attempts rfl
  have course := follow_of_empty attempts start empty
  rw [← reached] at behind course
  obtain ⟨settled, opened⟩ := behind
  have quiet := settled.tidy.quiet
  refine ⟨?_, ?_, ?_, ?_, ?_, ?_, ?_⟩
  · rw [ChainState.pendingWrites, quiet]
    rfl
  · rcases course with untouched | ⟨genesis, first, table, writes⟩
    · exact Or.inl untouched
    · refine Or.inr ⟨genesis, first, writes, ?_⟩
      rw [table, Table.toList_founding]
  · exact table_of_stopped quiet (.bootstrap data)
  · have attempt : ∀ event ∈ [Event.call (.bootstrap data)], event.SetsUp := by simp [Event.SetsUp]
    exact follow_of_nonempty attempt settled
  · intro none long
    rcases afterBootstrap_cases data settled with ⟨n, preferred, done⟩ | ⟨genesis, founds, -⟩
    · rw [done]
      exact ⟨none, rfl, fun found d asked => bootstrap_of_long quiet none long asked⟩
    · obtain ⟨short, -⟩ := Block.genesis_eq_ok founds.made
      omega
  · intro none short
    obtain ⟨payload, made⟩ := Block.genesis_of_short short
    exact ⟨_, made, founding_goesThrough quiet opened none made⟩
  · intro nonempty
    rcases course with ⟨none, -⟩ | ⟨genesis, -, table, -⟩
    · exact absurd none nonempty
    · exact ⟨genesis, table, resuming_goesThrough quiet opened table data⟩

end Controller

end TimestampChain

namespace TimestampChain.Sample

/-- The write of the first attempt fails, and the third one has too much data. In the end every write
fails. -/
def attempts : List Event := [
  .call (.bootstrap [1]), .restart (.ofDepth 1) (.still 20),
  .call (.bootstrap (List.replicate 40 7)), .call (.bootstrap [1]), .call (.bootstrap [2]),
  .surround (.ofDepth 1) (.still 20) (.byRequest (fun _ => none) (some "full") none)]

end TimestampChain.Sample

namespace TimestampChain.Controller

/-- Writes that fail do not keep a further attempt from going on with the chain. -/
theorem attempts_standsOn_genesis :
    (Sample.start.follow Sample.attempts).store.pendingWrites = 0 ∧
      ∃ d, (bootstrap (List.replicate 40 9)).run (Sample.start.follow Sample.attempts) = (.ok (), d) ∧
        d.StandsOn Sample.genesis := by
  have table : (Sample.start.follow Sample.attempts).table = Table.empty.founding Sample.genesis :=
    Table.eq_of_toList (by decide +kernel)
  have unfailing : (Sample.start.follow Sample.attempts).fault? resumingRequests = none := by decide +kernel
  have nonempty : (Sample.start.follow Sample.attempts).table ≠ .empty :=
    table ▸ Table.founding_ne_empty
  have attempts : ∀ event ∈ Sample.attempts, event.SetsUp := by
    simp [Sample.attempts, Event.SetsUp]
  have reached : Sample.start.follow Sample.attempts =
      (ofBackend Sample.backend (.ofDepth 1) (.still 20)).follow Sample.attempts := rfl
  obtain ⟨quiet, -, attempted⟩ :=
    bootstrap_all_or_nothing (b := Sample.backend) rfl attempts reached (List.replicate 40 9)
  obtain ⟨genesis, founded, through⟩ := attempted.resumes nonempty
  obtain ⟨d, done, stands⟩ := through.stands unfailing
  have same : genesis.id = Sample.genesis.id := by
    have pointer := Table.pointer_founding Table.empty genesis
    rw [← founded, table, Table.pointer_founding] at pointer
    exact Bytes32.ext (Option.some.inj pointer).symm
  exact ⟨quiet, d, done, stands.table.trans (founded.symm.trans table), same ▸ stands.preferred,
    same ▸ stands.tip⟩

end TimestampChain.Controller
