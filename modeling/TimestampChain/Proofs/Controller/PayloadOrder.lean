import TimestampChain.Proofs.Controller.Waiting

/-!
# The order of payloads

Payloads leave the queue at the front, each in a block that is built, and enter it at the back, each by
a proposal that is accepted. A build that fails puts its payload back where it was. So the blocks built
so far and the payloads that still wait are, in this order, what has been proposed.
-/

namespace TimestampChain

open TimestampChain.Action

namespace Payload

def filled (data : Bytes) : Bytes := data ++ List.replicate (size - data.length) 0

theorem filled_of_ofData {data : Bytes} {payload : Payload} (fits : ofData data = .ok payload) :
    data.length ≤ size ∧ payload.toBytes = filled data := by
  unfold ofData at fits
  split at fits
  · next short =>
    cases fits
    exact ⟨short, rfl⟩
  · cases fits

end Payload

/-! ## Uses -/

/-- What is asked of a controller, by an engine or as the request of a client. What is around the
controller may become anything meanwhile. -/
inductive Use where
  | call (call : Call)
  | proposal (text : String)
  | query (id : Option String)
  | surround (store : ChainState) (channel : Channel) (clock : Clock)

namespace Controller

variable {c : Controller}

def afterUse (c : Controller) : Use → Controller
  | .call call => c.afterCall call
  | .proposal text => ((Service.propose text).run c).2
  | .query id => ((Service.getBlock id).run c).2
  | .surround store channel clock => { c with store := store, channel := channel, clock := clock }

def takes (c : Controller) : Use → List Bytes
  | .call (.propose data) => if ((propose data).run c).1.isOk then [data] else []
  | .proposal text =>
    match Service.decodeText text with
    | .ok data => if ((Service.propose text).run c).1.isOk then [data] else []
    | .error _ => []
  | _ => []

def builds (c : Controller) : Use → List Block
  | .call .build =>
    match (build.run c).1 with
    | .ok block => [block]
    | .error _ => []
  | _ => []

def afterUses (c : Controller) (uses : List Use) : Controller := uses.foldl afterUse c

def taken : Controller → List Use → List Bytes
  | _, [] => []
  | c, use :: uses => c.takes use ++ (c.afterUse use).taken uses

def built : Controller → List Use → List Block
  | _, [] => []
  | c, use :: uses => c.builds use ++ (c.afterUse use).built uses

/-! ## One use -/

/-- Between two states, the data go in at the back of the queue and the blocks take theirs at the
front. -/
structure Passes (c : Controller) (data : List Bytes) (blocks : List Block) (d : Controller) : Prop where
  short : ∀ bytes ∈ data, bytes.length ≤ Payload.size
  order : (blocks.map fun block => block.payload.toBytes) ++ d.mempool.queue.map Bytes32.toBytes =
    c.mempool.queue.map Bytes32.toBytes ++ data.map Payload.filled

theorem Passes.of_mempool {d : Controller} (same : d.mempool = c.mempool) : c.Passes [] [] d := by
  constructor
  · simp
  · simp [same]

theorem Passes.of_keeps {α : Type} {x : Step α} (h : Keeps SameWork x) : c.Passes [] [] (x.run c).2 :=
  .of_mempool (h c).mempool

theorem Passes.of_performed {α : Type} {call : Call} {x : Step α} {f : α → Reply}
    (performed : call.perform = f <$> x) (h : Keeps SameWork x) :
    c.Passes [] [] (c.afterCall call) := by
  rw [afterCall_eq performed]
  exact .of_keeps h

theorem passes_proposing {data : Bytes} {payload : Payload} (fits : Payload.ofData data = .ok payload) :
    c.Passes [data] [] (c.proposing payload) := by
  obtain ⟨short, bytes⟩ := Payload.filled_of_ofData fits
  constructor
  · simpa using short
  · simp [proposing, Mempool.push, bytes]

theorem passes_propose (data : Bytes) (c : Controller) :
    c.Passes (if ((propose data).run c).1.isOk then [data] else []) [] ((propose data).run c).2 := by
  cases fits : Payload.ofData data with
  | error cause =>
      rw [propose_of_long fits]
      exact .of_mempool rfl
  | ok payload =>
      rw [propose_of_payload fits]
      exact passes_proposing fits

theorem run_service_propose {text : String} {data : Bytes}
    (decoded : Service.decodeText text = .ok data) (c : Controller) :
    (Service.propose text).run c =
      (((propose data).run c).1.map fun _ => ⟨true⟩, ((propose data).run c).2) := by
  unfold Service.propose
  rw [decoded]
  exact run_map (fun _ => ProposalReply.mk true) (propose data) c

theorem passes_proposal (text : String) (c : Controller) :
    c.Passes (c.takes (.proposal text)) [] (c.afterUse (.proposal text)) := by
  cases decoded : Service.decodeText text with
  | error e =>
      have failed : ((Service.propose text).run c).2 = c := by
        unfold Service.propose
        rw [decoded]
        rfl
      simp only [takes, afterUse, decoded, failed]
      exact .of_mempool rfl
  | ok data =>
      have passes := passes_propose data c
      simp only [takes, afterUse, decoded, run_service_propose decoded]
      rcases outcome : (propose data).run c with ⟨e | ⟨⟩, d⟩ <;> rw [outcome] at passes
      · exact passes
      · exact passes

theorem passes_build (c : Controller) : c.Passes [] (c.builds (.call .build)) (build.run c).2 := by
  unfold builds
  rcases build_cases c with ⟨-, run⟩ | ⟨n, e, -, run⟩ | ⟨payload, rest, block, n, queue, composed, run⟩
  · rw [run]
    exact .of_mempool rfl
  · rw [run]
    exact .of_mempool rfl
  · obtain ⟨parent, -, -, rfl⟩ := composition_eq_ok_iff.mp composed
    rw [run]
    constructor
    · simp
    · simp only [queue, building, List.map_cons, List.map_nil, List.append_nil]
      rfl

/-- A use passes on what it says. -/
theorem passes_afterUse (use : Use) (c : Controller) :
    c.Passes (c.takes use) (c.builds use) (c.afterUse use) := by
  cases use with
  | proposal text => exact passes_proposal text c
  | query id => exact .of_keeps (sameWork_of_unchanged (service_getBlock_unchanged id))
  | surround store channel clock => exact .of_mempool rfl
  | call call =>
      cases call with
      | propose data =>
          rw [afterUse, afterCall_eq (x := propose data) rfl]
          exact passes_propose data c
      | build =>
          rw [afterUse, afterCall_eq (x := build) rfl]
          exact passes_build c
      | notify => exact .of_mempool rfl
      | bootstrap data => exact .of_performed rfl (bootstrap_sameWork data)
      | parse bytes => exact .of_performed rfl (sameWork_of_unchanged (parseBlock_unchanged bytes))
      | get id => exact .of_performed rfl (sameWork_of_unchanged (getBlock_unchanged id))
      | verify block => exact .of_performed rfl (verify_sameWork block)
      | accept block => exact .of_performed rfl (accept_sameWork block)
      | reject block => exact .of_performed rfl (reject_sameWork block)
      | prefer id => exact .of_performed rfl (setPreference_sameWork id)
      | setState state => exact .of_performed rfl (setState_sameWork state)
      | lastAccepted => exact .of_performed rfl (sameWork_of_unchanged lastAccepted_unchanged)
      | healthCheck => exact .of_performed rfl (sameWork_of_unchanged healthCheck_unchanged)
      | shutdown => exact .of_performed rfl (onStore_sameWork _)

/-! ## A run -/

theorem Passes.append {d e : Controller} {data data' : List Bytes} {blocks blocks' : List Block}
    (first : c.Passes data blocks d) (second : d.Passes data' blocks' e) :
    c.Passes (data ++ data') (blocks ++ blocks') e := by
  constructor
  · intro bytes member
    rcases List.mem_append.mp member with earlier | later
    · exact first.short bytes earlier
    · exact second.short bytes later
  · rw [List.map_append, List.map_append, List.append_assoc, second.order, ← List.append_assoc,
      first.order, List.append_assoc]

theorem passes_afterUses (uses : List Use) (c : Controller) :
    c.Passes (c.taken uses) (c.built uses) (c.afterUses uses) := by
  induction uses generalizing c with
  | nil => exact .of_mempool rfl
  | cons use uses ih => exact (passes_afterUse use c).append (ih (c.afterUse use))

/-- Whatever is asked of a controller and whatever becomes of the backend, the blocks built so far carry
the payloads that have been accepted, in the same order, and those that no block carries yet wait behind
them. -/
theorem built_append_waiting_eq_taken (b : Backend) (channel : Channel) (clock : Clock)
    (uses : List Use) :
    (((ofBackend b channel clock).built uses).map fun block => block.payload.toBytes) ++
          ((ofBackend b channel clock).afterUses uses).mempool.queue.map Bytes32.toBytes =
        ((ofBackend b channel clock).taken uses).map Payload.filled ∧
      ∀ data ∈ (ofBackend b channel clock).taken uses, data.length ≤ Payload.size := by
  have passes := passes_afterUses uses (ofBackend b channel clock)
  exact ⟨passes.order, passes.short⟩

-- The first build finds no parent, and its payload is the first to be built all the same.
example :
    let uses := [.call (.propose [2]), .proposal "0x03", .call .build, .call (.bootstrap [1]),
      .call (.bootstrap [1]), .call .build]
    (Sample.start.built uses).map Block.payload = [Sample.payload 2] ∧
      (Sample.start.afterUses uses).mempool.queue = [Sample.payload 3] := by
  decide +kernel

end Controller

end TimestampChain
