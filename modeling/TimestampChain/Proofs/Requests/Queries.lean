import TimestampChain.Proofs.Controller.PayloadOrder
import TimestampChain.Proofs.Chain.Lookups
import TimestampChain.Proofs.Requests.Texts
import TimestampChain.Proofs.Store.Layers

/-!
# Queries

A query is answered as the look-up of the block that its text names, or of the block accepted last. A text
that names none is refused, and nothing has happened. From a reply the block can be made again, with the
identifier that the reply gives, and its status tells whether the block is stored.
-/

namespace TimestampChain

open TimestampChain.Action TimestampChain.Service

def FaultPolicy.Steady (faults : FaultPolicy) : Prop :=
  ∀ m n request, faults m request = faults n request

namespace ChainState

theorem run_read_of_steady {s : ChainState} (steady : s.backend.faults.Steady) (key : Bytes)
    (n : Nat) : ((read key).run (s.counting n)).1 = ((read key).run s).1 := by
  cases closed : s.closed with
  | true =>
      have later : (s.counting n).closed = true := closed
      rw [run_read_of_closed closed, run_read_of_closed later]
  | false =>
      have later : (s.counting n).closed = false := closed
      cases staged : s.layers.staged key with
      | some value =>
          have staged' : (s.counting n).layers.staged key = some value := staged
          rw [run_read_of_staged closed staged, run_read_of_staged later staged']
      | none =>
          have staged' : (s.counting n).layers.staged key = none := staged
          have alike : (s.counting n).backend.faults (s.counting n).backend.requests (.get key) =
              s.backend.faults s.backend.requests (.get key) := steady _ _ _
          rw [run_read_of_unstaged closed staged, run_read_of_unstaged later staged', alike]
          rfl

theorem run_getBlock_of_steady {s : ChainState} (steady : s.backend.faults.Steady)
    (id : BlockId) (n : Nat) : ((getBlock id).run (s.counting n)).1 = ((getBlock id).run s).1 := by
  have same := run_read_of_steady steady (Key.block id) n
  rw [getBlock, run_bind, run_bind]
  rcases later : (read (Key.block id)).run (s.counting n) with ⟨r, t⟩
  rcases now : (read (Key.block id)).run s with ⟨r', t'⟩
  rw [later, now] at same
  obtain rfl : r = r' := same
  rcases r with e | (_ | bytes) <;> rfl

end ChainState

def Service.sought : Option String → Controller.Step BlockId
  | some text => Action.ofExcept (parseId text)
  | none => Controller.lastAccepted

/-! ## Visits -/

/-- What happens to a controller that serves clients: events, and the requests of clients. -/
inductive Visit where
  | event (event : Event)
  | query (id : Option String)
  | proposal (text : String)

namespace Controller

variable {c d : Controller} {id : BlockId} {text : String} {bytes : Bytes} {reply : BlockReply}

def afterVisit (c : Controller) : Visit → Controller
  | .event event => c.afterEvent event
  | .query id => ((Service.getBlock id).run c).2
  | .proposal text => ((Service.propose text).run c).2

def serve (c : Controller) (visits : List Visit) : Controller := visits.foldl afterVisit c

theorem service_propose_spares (text : String) : Keeps Spares (Service.propose text) :=
  Keeps.bind (keeps_ofExcept _) fun data => Keeps.bind (propose_spares data) fun _ => keeps_pure _

theorem Tidy.afterVisit (tidy : c.Tidy) (visit : Visit) : (c.afterVisit visit).Tidy := by
  cases visit with
  | event event => exact tidy.afterEvent event
  | query id =>
      obtain ⟨n, same⟩ := service_getBlock_unchanged id c
      rw [Controller.afterVisit, same]
      exact tidy.idle (.counting c n)
  | proposal text => exact tidy.idle (service_propose_spares text c).idle

theorem tidy_serve (b : Backend) (channel : Channel) (clock : Clock) (visits : List Visit) :
    ((ofBackend b channel clock).serve visits).Tidy := by
  suffices run : ∀ c : Controller, c.Tidy → (c.serve visits).Tidy from
    run _ (tidy_ofBackend b channel clock)
  induction visits with
  | nil => exact fun _ tidy => tidy
  | cons visit visits ih => exact fun c tidy => ih _ (tidy.afterVisit visit)

/-! ## One query -/

theorem service_getBlock_eq (asked : Option String) :
    Service.getBlock asked = sought asked >>= fun id => BlockReply.ofBlock <$> getBlock id := by
  cases asked <;> rfl

theorem run_query_of_sought {asked : Option String} (found : (sought asked).run c = (.ok id, d)) :
    (Service.getBlock asked).run c =
      (((getBlock id).run d).1.map BlockReply.ofBlock, ((getBlock id).run d).2) := by
  rw [service_getBlock_eq, run_bind_ok found, run_map]

theorem sought_of_names (named : Names text id) (c : Controller) :
    (sought (some text)).run c = (.ok id, c) := by
  rw [sought, parseId_of_names named]
  rfl

theorem run_query_of_unnamed {e : ControllerError} (unnamed : parseId text = .error e)
    (c : Controller) : (Service.getBlock (some text)).run c = (.error e, c) := by
  rw [service_getBlock_eq, sought, unnamed]
  rfl

/-- Every reply shows a block that a look-up has found. -/
theorem exists_of_query {asked : Option String}
    (replied : (Service.getBlock asked).run c = (.ok reply, d)) :
    ∃ id c' block, (sought asked).run c = (.ok id, c') ∧ (getBlock id).run c' = (.ok block, d) ∧
      reply = .ofBlock block := by
  rw [service_getBlock_eq] at replied
  rcases run_bind_cases (sought asked) _ c with ⟨e, t, -, failed⟩ | ⟨id, c', found, looked⟩
  · cases failed.symm.trans replied
  · rw [looked, run_map] at replied
    rcases outcome : (getBlock id).run c' with ⟨e | block, d'⟩ <;> rw [outcome] at replied
    · cases replied
    · cases replied
      exact ⟨id, c', block, found, outcome, rfl⟩

theorem sought_unchanged (asked : Option String) : Keeps Unchanged (sought asked) := by
  cases asked with
  | none => exact lastAccepted_unchanged
  | some text => exact keeps_ofExcept _

/-! ## The block accepted last -/

theorem service_getBlock_answers {asked : Option String}
    (found : (sought asked).Answers c (.ok id)) :
    (Service.getBlock asked).Answers c ((c.find id).map BlockReply.ofBlock) := by
  rw [service_getBlock_eq]
  exact found.bind_does fun n => (getBlock_answers id (c.counting n)).map BlockReply.ofBlock

theorem run_getBlock_of_steady (steady : c.store.backend.faults.Steady) (id : BlockId) (n : Nat) :
    ((getBlock id).run (c.counting n)).1 = ((getBlock id).run c).1 := by
  have stored := ChainState.run_getBlock_of_steady steady id n
  have same : (c.counting n).verified? id = c.verified? id := rfl
  rw [getBlock, run_bind_ok (run_state _), run_bind_ok (run_state _), same]
  cases c.verified? id with
  | some block => rfl
  | none => exact congrArg (Except.mapError ControllerError.ofStore) stored

/-- A query for nothing in particular is the query for the block accepted last. -/
structure FindsLast (c : Controller) (id : BlockId) (d : Controller) : Prop where
  unchanged : Unchanged c d
  run : (Service.getBlock none).run c = (Service.getBlock (some id.toHex)).run d
  answers : ∃ r, (Service.getBlock none).Answers c r ∧ (Service.getBlock (some id.toHex)).Answers c r
  steady : c.store.backend.faults.Steady →
    ((Service.getBlock none).run c).1 = ((Service.getBlock (some id.toHex)).run c).1

theorem findsLast (last : lastAccepted.run c = (.ok id, d)) : c.FindsLast id d := by
  have unchanged : Unchanged c d := lastAccepted_unchanged.of_run last
  have named : ∀ c, (sought (some id.toHex)).run c = (.ok id, c) := sought_of_names (names_toHex id).1
  have latest : (sought none).run c = (.ok id, d) := last
  constructor
  case unchanged => exact unchanged
  case run => rw [run_query_of_sought (named d), run_query_of_sought latest]
  case answers =>
    have tip : (sought none).Answers c (.ok id) := by
      rw [← (lastAccepted_answers c).eq_of_ok (congrArg Prod.fst last)]
      exact lastAccepted_answers c
    exact ⟨_, service_getBlock_answers tip, service_getBlock_answers (answers_of_run (named c))⟩
  case steady =>
    intro steady
    obtain ⟨n, rfl⟩ := unchanged
    rw [run_query_of_sought (named c), run_query_of_sought latest]
    exact congrArg (Except.map BlockReply.ofBlock) (run_getBlock_of_steady steady id n)

/-! ## Replies -/

/-- The block that a reply describes, made again from what its digits are read as. -/
structure Describes (c : Controller) (reply : BlockReply) (parent : BlockId) (payload : Payload) :
    Prop where
  parent_read : Hex.decode (Bytes.ofText reply.parent) = .ok parent.toBytes
  payload_read : Hex.decode (Bytes.ofText reply.data) = .ok payload.toBytes
  id_shown : (Block.create parent reply.height payload reply.timestamp).id.toHex = reply.id
  accepted_iff : reply.status = "Accepted" ↔
    (c.table.get? (0 :: (Block.create parent reply.height payload reply.timestamp).id.toBytes)).isSome

theorem describes_of_tells {block : Block} (told : c.Tells id block) :
    c.Describes (.ofBlock block) block.parent block.payload := by
  have made : (Block.create block.parent block.height block.payload block.timestamp).id = block.id := by
    rw [block.id_eq, block.bytes_eq]
    rfl
  constructor
  case parent_read => exact Hex.decode_encode block.parent.toBytes
  case payload_read => exact Hex.decode_encode block.payload.toBytes
  case id_shown => exact congrArg BlockId.toHex made
  case accepted_iff =>
    have named : block.status.name = "Accepted" ↔ block.status = .accepted := by
      cases block.status <;> simp [Status.name]
    change block.status.name = "Accepted" ↔ (c.table.get? (Key.block (Block.create _ _ _ _).id)).isSome
    rw [named, told.accepted, ← told.named, ← made]
    rfl

structure ServesQueries (c : Controller) : Prop where
  named : ∀ text id, Names text id →
    (Service.getBlock (some text)).run c =
      (((getBlock id).run c).1.map BlockReply.ofBlock, ((getBlock id).run c).2)
  odd : ∀ text, (Hex.octets (unmarked text)).length % 2 = 1 →
    (Service.getBlock (some text)).run c =
      (.error (.badRequest "couldn't parse block id: Odd number of digits"), c)
  stray : ∀ text stray place, (Hex.octets (unmarked text)).length % 2 = 0 →
    Hex.FirstStray (Hex.octets (unmarked text)) stray place →
    (Service.getBlock (some text)).run c = (.error (.badRequest
      s!"couldn't parse block id: Invalid character {Quoted.byte stray} at position {place}"), c)
  size : ∀ text bytes, Denotes text bytes → bytes.length ≠ 32 →
    (Service.getBlock (some text)).run c =
      (.error (.badRequest s!"block id must be 32 bytes, got {bytes.length}"), c)
  refused_iff : ∀ text,
    (∃ detail, ((Service.getBlock (some text)).run c).1 = .error (.badRequest detail)) ↔
      ¬ ∃ id, Names text id
  last : ∀ id d, lastAccepted.run c = (.ok id, d) → c.FindsLast id d
  reply_id : ∀ text id reply d, Names text id →
    (Service.getBlock (some text)).run c = (.ok reply, d) → reply.id = id.toHex
  reply : ∀ asked reply d, (Service.getBlock asked).run c = (.ok reply, d) →
    ∃ parent payload, c.Describes reply parent payload

theorem parseId_refused (unnamed : ¬ ∃ id, Names text id) :
    ∃ detail, parseId text = .error (.badRequest detail) := by
  by_cases written : ∃ bytes, Denotes text bytes
  · obtain ⟨bytes, written⟩ := written
    refine ⟨_, parseId_of_size written fun size => unnamed ⟨⟨bytes, size⟩, written⟩⟩
  · obtain ⟨e, unreadable⟩ := exists_unreadable written
    exact ⟨_, parseId_of_unreadable unreadable⟩

theorem query_refused_iff (c : Controller) (text : String) :
    (∃ detail, ((Service.getBlock (some text)).run c).1 = .error (.badRequest detail)) ↔
      ¬ ∃ id, Names text id := by
  constructor
  · rintro ⟨detail, refused⟩ ⟨id, named⟩
    rw [run_query_of_sought (sought_of_names named c)] at refused
    obtain missing | ⟨cause, damage⟩ := getBlock_error_cases (map_eq_error_iff.mp refused)
    · cases missing
    · cases damage
  · intro unnamed
    obtain ⟨detail, refused⟩ := parseId_refused unnamed
    exact ⟨detail, congrArg Prod.fst (run_query_of_unnamed refused c)⟩

theorem Tidy.servesQueries (tidy : c.Tidy) : c.ServesQueries := by
  constructor
  case named => exact fun text id named => run_query_of_sought (sought_of_names named c)
  case odd => exact fun text odd => run_query_of_unnamed (parseId_of_unreadable (.odd odd)) c
  case stray =>
    exact fun text stray place even found =>
      run_query_of_unnamed (parseId_of_unreadable (.stray even found)) c
  case size => exact fun text bytes written size => run_query_of_unnamed (parseId_of_size written size) c
  case refused_iff => exact query_refused_iff c
  case last => exact fun id d last => findsLast last
  case reply_id =>
    intro text id reply d named replied
    obtain ⟨id', c', block, found, looked, rfl⟩ := exists_of_query replied
    cases (sought_of_names named c).symm.trans found
    exact congrArg BlockId.toHex (tells_of_getBlock tidy looked).named
  case reply =>
    intro asked reply d replied
    obtain ⟨id, c', block, found, looked, rfl⟩ := exists_of_query replied
    -- Finding out what is asked for only counts requests, so the look-up is one in the state before.
    obtain ⟨n, rfl⟩ := (sought_unchanged asked).of_run found
    have tidy' : (c.counting n).Tidy := tidy.idle (.counting c n)
    have told := tells_of_getBlock tidy' looked
    exact ⟨_, _, describes_of_tells ⟨told.named, told.unrejected, told.accepted⟩⟩

end Controller

namespace Service

structure Naming : Prop where
  digits : ∀ text, (∃ id, Names text id) ↔
    (unmarked text).length = 64 ∧ ∀ c ∈ unmarked text, Hex.IsDigit c.toNat
  single : ∀ text id other, Names text id → Names text other → id = other
  written : ∀ id : BlockId, Names id.toHex id ∧ Names ("0x" ++ id.toHex) id
  distinct : ∀ id other : BlockId, id.toHex = other.toHex → id = other

theorem naming : Naming where
  digits _ := exists_names_iff
  single _ _ _ named named' := named.unique named'
  written := names_toHex
  distinct _ _ same := Bytes32.ext (Hex.encode_injective same)

/-- Clients lose nothing by asking in digits: a text names at most one block, every block has a name, and
whatever has happened to a controller, it serves queries by looking the named blocks up. -/
theorem queries_lossless (b : Backend) (channel : Channel) (clock : Clock) (visits : List Visit) :
    Naming ∧ ((Controller.ofBackend b channel clock).serve visits).ServesQueries :=
  ⟨naming, (Controller.tidy_serve b channel clock visits).servesQueries⟩

end Service

namespace Sample

/-- The first attempt to set the chain up fails, and requests come before and behind it. -/
def visits : List Visit := [
  .query none, .proposal "0x02", .event (.call (.bootstrap [1])), .event (.call (.bootstrap [1])),
  .query none]

def capitals : String := "0x" ++ String.ofList (genesis.id.toHex.toList.map Char.toUpper)

end Sample

namespace Service

/-- The first block is found by its name in capitals and by none. A character that is no digit is refused by
the first of its bytes, unless the bytes of the text are odd in number. -/
theorem capitals_answered :
    (getBlock (some Sample.capitals)).run (Sample.start.serve Sample.visits) =
        (.ok (.ofBlock Sample.genesis.asAccepted),
          ((Controller.getBlock Sample.genesis.id).run (Sample.start.serve Sample.visits)).2) ∧
      (∃ parent payload, (Sample.start.serve Sample.visits).Describes
        (.ofBlock Sample.genesis.asAccepted) parent payload) ∧
      (∃ d, (Sample.start.serve Sample.visits).FindsLast Sample.genesis.id d) ∧
      (getBlock (some "0x0é0")).run (Sample.start.serve Sample.visits) = (.error (.badRequest
        "couldn't parse block id: Invalid character 'Ã' at position 1"), Sample.start.serve Sample.visits) ∧
      (getBlock (some "é0")).run (Sample.start.serve Sample.visits) = (.error (.badRequest
        "couldn't parse block id: Odd number of digits"), Sample.start.serve Sample.visits) := by
  have serves : (Sample.start.serve Sample.visits).ServesQueries :=
    (queries_lossless Sample.backend (.ofDepth 1) (.still 20) Sample.visits).2
  have named : Names Sample.capitals Sample.genesis.id := by decide +kernel
  have found : ((Controller.getBlock Sample.genesis.id).run (Sample.start.serve Sample.visits)).1 =
      .ok Sample.genesis.asAccepted := by
    decide +kernel
  have answered := serves.named _ _ named
  have last : (Controller.lastAccepted.run (Sample.start.serve Sample.visits)).1 =
      .ok Sample.genesis.id := by
    decide +kernel
  rw [found] at answered
  refine ⟨answered, serves.reply _ _ _ answered, ⟨_, serves.last _ _ (Action.run_eq last)⟩, ?_, ?_⟩
  · have octets : Hex.octets (unmarked "0x0é0") = [48, 195, 169, 48] := by decide +kernel
    have stray : Hex.FirstStray (Hex.octets (unmarked "0x0é0")) 195 1 :=
      ⟨[48], [169, 48], octets, rfl, by decide +kernel, by decide⟩
    have shown : Quoted.byte 195 = "'Ã'" := by decide +kernel
    have refused := serves.stray "0x0é0" 195 1 (by rw [octets]; rfl) stray
    rwa [shown] at refused
  · have octets : Hex.octets (unmarked "é0") = [195, 169, 48] := by decide +kernel
    exact serves.odd "é0" (by rw [octets]; rfl)

end Service

end TimestampChain
