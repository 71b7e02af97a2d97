import TimestampChain.Proofs.Engine.Progress

/-!
# Pipelines

Blocks are built one on another before the first of them is accepted, and are accepted in order while more
of them are built. What is accepted last is preferred from then on, so a block that is built behind that is
not put on the block built last unless that one is preferred again.
-/

namespace TimestampChain.Engine

open TimestampChain.Action Controller

/-! ## Schedules -/

inductive Task where
  | prefer
  | build
  | verify
  | accept
deriving DecidableEq

/-- Carry tasks out and yield the blocks that are built: prefer the block built last, build the next one,
verify it, or accept the first of the undecided ones. -/
def pipeline (latest : BlockId) (undecided : List Block) : List Task → Step (List Block)
  | [] => return []
  | .prefer :: tasks => do
    setPreference latest
    pipeline latest undecided tasks
  | .build :: tasks => do
    let block ← build
    let later ← pipeline block.id (undecided ++ [block]) tasks
    return block :: later
  | .verify :: tasks => do
    match undecided.getLast? with
    | some block => verify block
    | none => pure ()
    pipeline latest undecided tasks
  | .accept :: tasks => do
    match undecided with
    | [] => pipeline latest [] tasks
    | block :: rest =>
      let _ ← accept block
      pipeline latest rest tasks

/-- Tasks that build as many blocks as are left, verify each of them before the next one is built, and
accept each of them some time after that. The first argument tells whether the block built last is still
to be verified, and the third one how many verified blocks are to be accepted. The block built last may be
preferred at any time. -/
inductive Schedule : Bool → Nat → Nat → List Task → Prop
  | done : Schedule false 0 0 []
  | prefer {fresh : Bool} {left waiting : Nat} {tasks : List Task}
      (later : Schedule fresh left waiting tasks) : Schedule fresh left waiting (.prefer :: tasks)
  | build {left waiting : Nat} {tasks : List Task} (later : Schedule true left waiting tasks) :
      Schedule false (left + 1) waiting (.build :: tasks)
  | verify {left waiting : Nat} {tasks : List Task} (later : Schedule false left (waiting + 1) tasks) :
      Schedule true left waiting (.verify :: tasks)
  | accept {fresh : Bool} {left waiting : Nat} {tasks : List Task}
      (later : Schedule fresh left waiting tasks) : Schedule fresh left (waiting + 1) (.accept :: tasks)

/-- Whenever a block is built, the block built before is the preferred one: since it has been preferred no
block below it has been accepted. The second argument tells whether the preferred block is another one. -/
def steady : Nat → Bool → List Task → Bool
  | _, _, [] => true
  | undecided, _, .prefer :: tasks => steady undecided false tasks
  | undecided, astray, .build :: tasks => !astray && steady (undecided + 1) true tasks
  | undecided, astray, .verify :: tasks => steady undecided astray tasks
  | undecided, _, .accept :: tasks => steady (undecided - 1) (undecided ≠ 1) tasks

def prompt : List Task → Bool
  | [] => true
  | .prefer :: .build :: tasks => prompt tasks
  | .build :: _ => false
  | _ :: tasks => prompt tasks

/-- Nothing comes in between if the preference and the next block are one step. -/
theorem steady_of_prompt {tasks : List Task} (undecided : Nat) (astray : Bool)
    (direct : prompt tasks = true) : steady undecided astray tasks = true := by
  induction tasks using prompt.induct generalizing undecided astray with
  | case1 => rfl
  | case2 tasks ih => exact ih (undecided + 1) true direct
  | case3 tasks => cases direct
  | case4 task tasks alone other ih =>
      rw [prompt] at direct
      · cases task with
        | build => exact absurd rfl other
        | prefer => exact ih _ _ direct
        | verify => exact ih _ _ direct
        | accept => exact ih _ _ direct
      · exact alone
      · exact other

def immediate : Nat → List Task
  | 0 => []
  | n + 1 => .build :: .verify :: .prefer :: .accept :: immediate n

theorem schedule_immediate (n : Nat) : Schedule false n 0 (immediate n) := by
  induction n with
  | zero => exact .done
  | succ n ih => exact .build (.verify (.prefer (.accept ih)))

theorem steady_immediate (n : Nat) : steady 0 false (immediate n) = true := by
  induction n with
  | zero => rfl
  | succ n ih => exact ih

variable {c d : Controller} {tip block last : Block} {blocks checked upcoming : List Block}
  {tasks : List Task} {latest : BlockId}

theorem run_pipeline_prefer (latest : BlockId) (undecided : List Block) (tasks : List Task)
    (c : Controller) :
    (pipeline latest undecided (.prefer :: tasks)).run c =
      (pipeline latest undecided tasks).run (c.preferring latest) := rfl

theorem run_pipeline_build {undecided : List Block} (built : build.run c = (.ok block, d)) :
    (pipeline latest undecided (.build :: tasks)).run c =
      ((fun later => block :: later) <$> pipeline block.id (undecided ++ [block]) tasks).run d :=
  run_bind_ok built

theorem run_pipeline_verify (verified : (verify block).run c = (.ok (), d)) :
    (pipeline latest (checked ++ [block]) (.verify :: tasks)).run c =
      (pipeline latest (checked ++ [block]) tasks).run d := by
  rw [pipeline, List.getLast?_concat]
  exact run_bind_ok verified

theorem run_pipeline_accept {decided : Block} (accepted : (accept block).run c = (.ok decided, d)) :
    (pipeline latest (block :: blocks) (.accept :: tasks)).run c =
      (pipeline latest blocks tasks).run d :=
  run_bind_ok accepted

/-! ## Blocks under way -/

/-- Verified blocks, and perhaps one that is built and not verified yet, stand on the block accepted last,
and the blocks that are still to be built stand on them. None of them has a record, and no request fails
from now on. -/
structure Underway (c : Controller) (tip : Block) (checked : List Block) (fresh : Option Block)
    (upcoming : List Block) : Prop where
  tidy : c.Tidy
  opened : c.store.closed = false
  works : c.Works
  record : c.table.get? (Key.block tip.id) = some tip.bytes
  pointer : c.table.get? Key.lastAccepted = some tip.id.toBytes
  processing : ∀ block ∈ checked ++ fresh.toList, block.status = .processing
  verified : ∀ block ∈ checked, c.verified? block.id = some block
  planned : upcoming = ((checked ++ fresh.toList).getLastD tip).plan c.clock c.mempool.queue
  linked : (tip :: (checked ++ fresh.toList ++ upcoming)).IsChain fun parent child => child.Follows parent
  lacks : c.table.Lacks (checked ++ fresh.toList ++ upcoming)

/-- All the blocks have been put behind the tip, the last one is preferred, and no other verified block has
been touched. -/
structure Lands (c : Controller) (tip : Block) (blocks : List Block) (d : Controller) : Prop where
  tidy : d.Tidy
  opened : d.store.closed = false
  works : d.Works
  table : d.table = c.table.acceptingAll blocks
  pointer : d.table.get? Key.lastAccepted = some (blocks.getLastD tip).id.toBytes
  preferred : d.preferred = (blocks.getLastD tip).id
  others : ∀ key, (∀ block ∈ blocks, key ≠ block.id.toBytes) →
    d.verified.get? key = c.verified.get? key

theorem follows_getLastD {front back : List Block}
    (linked : (tip :: (front ++ block :: back)).IsChain fun parent child => child.Follows parent) :
    block.Follows (front.getLastD tip) := by
  induction front generalizing tip with
  | nil => exact (List.isChain_cons_cons.mp linked).1
  | cons first rest ih =>
      rw [List.getLastD_cons]
      exact ih (List.isChain_cons_cons.mp linked).2

namespace Underway

variable {fresh : Option Block} {payload : Payload} {rest : List Payload}

theorem preferring (u : Underway c tip checked fresh upcoming) (id : BlockId) :
    Underway (c.preferring id) tip checked fresh upcoming :=
  ⟨u.tidy.idle (Spares.idle ⟨⟨0, rfl⟩, rfl⟩), u.opened, u.works, u.record, u.pointer, u.processing,
    u.verified, u.planned, u.linked, u.lacks⟩

/-- The last one of the verified blocks is found, or the tip if there is none. -/
theorem found (u : Underway c tip checked fresh upcoming) :
    ∃ parent : Block, c.find (checked.getLastD tip).id = .ok parent ∧
      parent.bytes = (checked.getLastD tip).bytes := by
  cases last : checked.getLast? with
  | none =>
      refine ⟨tip.asAccepted, ?_, ?_⟩ <;> rw [List.getLastD_eq_getLast?, last]
      · exact find_of_record u.tidy u.opened u.record
      · rfl
  | some top =>
      refine ⟨top, ?_, ?_⟩ <;> rw [List.getLastD_eq_getLast?, last]
      · have known := u.verified top (List.mem_of_getLast? last)
        show c.find top.id = .ok top
        rw [find, known]
      · rfl

/-- The next block is built on the one built last, if that one is preferred. -/
theorem build (u : Underway c tip checked none upcoming)
    (preferred : c.preferred = (checked.getLastD tip).id) (queue : c.mempool.queue = payload :: rest) :
    ∃ block later d, upcoming = block :: later ∧ Controller.build.run c = (.ok block, d) ∧
      Underway d tip checked (some block) later ∧ d.mempool.queue = rest ∧
      d.table = c.table ∧ d.verified = c.verified ∧ d.preferred = c.preferred := by
  have planned := u.planned
  have linked := u.linked
  have lacks := u.lacks
  simp only [queue, Option.toList_none, List.append_nil, Block.plan] at planned linked lacks
  subst planned
  have follows := follows_getLastD linked
  obtain ⟨parent, found, same⟩ := u.found
  have below : parent.height ≠ maxHeight := by
    rw [Block.height_of_bytes same]
    exact ne_maxHeight_of_follows follows
  have composed : c.composition payload =
      .ok ((checked.getLastD tip).successor payload c.clock.now) := by
    refine composition_eq_ok_iff.mpr ⟨parent, ?_, below, (Block.successor_of_bytes same _ _).symm⟩
    rw [preferred, findParent, found]
    rfl
  have popped : c.mempool.pop? = some (payload, ⟨rest⟩) := Mempool.pop?_eq_some_iff.mpr queue
  obtain ⟨n, built⟩ := run_of_unfailing (build_of_composed popped composed) u.works.unfailing
  refine ⟨_, _, _, rfl, built, ?_, rfl, rfl, rfl, rfl⟩
  refine ⟨u.tidy.idle (Spares.idle ⟨⟨n, rfl⟩, rfl⟩), u.opened,
    u.works.later rfl (Nat.le_add_right _ _), u.record, u.pointer, ?_, u.verified, ?_, ?_, ?_⟩
  · intro block member
    rcases List.mem_append.mp member with old | new
    · exact u.processing block (List.mem_append_left _ old)
    · obtain rfl := List.mem_singleton.mp new
      rfl
  · rw [Option.toList_some, List.getLastD_concat]
    rfl
  · rw [Option.toList_some, List.append_assoc]
    exact linked
  · rw [Option.toList_some, List.append_assoc]
    exact lacks

/-- A block that is not built on the one built last is none of those that were to come. -/
theorem ne_of_built (u : Underway c tip checked none upcoming)
    (astray : c.preferred ≠ (checked.getLastD tip).id)
    (built : Controller.build.run c = (.ok block, d)) : upcoming.head? ≠ some block := by
  intro head
  obtain ⟨later, rfl⟩ := List.head?_eq_some_iff.mp head
  have linked := u.linked
  rw [Option.toList_none, List.append_nil] at linked
  have follows := follows_getLastD linked
  obtain ⟨parent, _, _, found, -, composed, -, -⟩ := build_of_ok built
  have named : parent.id = c.preferred := id_of_find u.tidy (mapError_eq_ok_iff.mp found)
  have above : block.parent = parent.id := by
    rw [composed]
    rfl
  exact astray (named.symm.trans (above.symm.trans follows.1))

theorem verify (u : Underway c tip checked (some block) upcoming) :
    ∃ d, (Controller.verify block).run c = (.ok (), d) ∧
      Underway d tip (checked ++ [block]) none upcoming ∧ d.mempool = c.mempool ∧
      d.table = c.table ∧ d.preferred = c.preferred ∧
      d.verified = c.verified.insert block.id.toBytes block := by
  have linked := u.linked
  have lacks := u.lacks
  have planned := u.planned
  rw [Option.toList_some] at linked lacks planned
  have middle : block ∈ checked ++ [block] ++ upcoming := by simp
  have absent := lacks.2 block middle
  have status := u.processing block (by simp)
  have follows : block.Follows (checked.getLastD tip) := by
    rw [List.append_assoc] at linked
    exact follows_getLastD linked
  obtain ⟨parent, found, same⟩ := u.found
  have above : c.findParent block.parent = .ok parent := by
    rw [findParent, follows.1, found]
    rfl
  have judged := verification_of_found u.tidy.quiet u.opened status absent above
    (follows.of_bytes same.symm)
  obtain ⟨n, done⟩ := run_of_unfailing (verify_of_new judged) u.works.unfailing
  refine ⟨_, done, ?_, rfl, rfl, rfl, rfl⟩
  refine ⟨u.tidy.remembering judged n, u.opened, u.works.later rfl (Nat.le_add_right _ _), u.record,
    u.pointer, ?_, ?_, ?_, ?_, ?_⟩
  · intro other member
    rw [Option.toList_none, List.append_nil] at member
    exact u.processing other member
  · intro other member
    show (c.verified.insert block.id.toBytes block).get? other.id.toBytes = some other
    rcases List.mem_append.mp member with old | new
    · have different : other.id ≠ block.id := by
        have distinct := lacks.1
        rw [List.append_assoc, List.map_append, List.nodup_append] at distinct
        exact distinct.2.2 _ (List.mem_map_of_mem old) _ (List.mem_map_of_mem (by simp))
      rw [Table.get?_insert_of_ne]
      · exact u.verified other old
      · exact fun equal => different (Bytes32.ext equal)
    · obtain rfl := List.mem_singleton.mp new
      exact Table.get?_insert_self _ _ _
  · rw [Option.toList_none, List.append_nil]
    exact planned
  · rw [Option.toList_none, List.append_nil]
    exact linked
  · rw [Option.toList_none, List.append_nil]
    exact lacks

/-- The first of the verified blocks becomes the tip. -/
theorem accept {first : Block} (u : Underway c tip (first :: checked) fresh upcoming) :
    ∃ d, (Controller.accept first).run c = (.ok first.asAccepted, d) ∧
      Underway d first checked fresh upcoming ∧ d.mempool = c.mempool ∧
      d.table = c.table.accepting first ∧ d.preferred = first.id ∧
      d.verified = c.verified.erase first.id.toBytes := by
  obtain ⟨follows, linked⟩ := List.isChain_cons_cons.mp u.linked
  obtain ⟨absent, lacks⟩ := Table.lacks_of_cons u.lacks
  have status := u.processing first List.mem_cons_self
  obtain ⟨n, done, tidy⟩ := accept_of_extends u.tidy u.opened u.works status absent
    ⟨tip, u.pointer, u.record, follows⟩
  refine ⟨_, done, ?_, rfl, rfl, rfl, rfl⟩
  refine ⟨tidy, u.opened, u.works.later rfl (Nat.le_add_right _ _), ?_, ?_, ?_, ?_, ?_, linked, lacks⟩
  · exact (Table.record_accepting _ _ _).trans (if_pos rfl)
  · exact Table.pointer_accepting _ _
  · exact fun other member => u.processing other (List.mem_cons_of_mem _ member)
  · intro other member
    have distinct := (List.nodup_cons.mp u.lacks.1).1
    have different : other.id.toBytes ≠ first.id.toBytes := by
      intro equal
      apply distinct
      rw [← Bytes32.ext equal]
      exact List.mem_map_of_mem (List.mem_append_left _ (List.mem_append_left _ member))
    show (c.verified.erase first.id.toBytes).get? other.id.toBytes = some other
    rw [Table.get?_erase, if_neg different]
    exact u.verified other (List.mem_cons_of_mem _ member)
  · rw [u.planned, List.cons_append, List.getLastD_cons]
    rfl

end Underway

/-! ## Running a schedule -/

theorem Lands.of_same {e : Controller} (h : Lands d tip blocks e) (table : d.table = c.table)
    (others : ∀ key, (∀ block ∈ blocks, key ≠ block.id.toBytes) →
      d.verified.get? key = c.verified.get? key) : Lands c tip blocks e :=
  ⟨h.tidy, h.opened, h.works, table ▸ h.table, h.pointer, h.preferred,
    fun key other => (h.others key other).trans (others key other)⟩

structure Decides (c : Controller) (tip : Block) (undecided upcoming : List Block) (tasks : List Task) :
    Prop where
  lands : steady undecided.length (c.preferred ≠ (undecided.getLastD tip).id) tasks = true →
    ∃ d, (pipeline (undecided.getLastD tip).id undecided tasks).run c = (.ok upcoming, d) ∧
      Lands c tip (undecided ++ upcoming) d
  misses : steady undecided.length (c.preferred ≠ (undecided.getLastD tip).id) tasks = false →
    ∀ d, (pipeline (undecided.getLastD tip).id undecided tasks).run c ≠ (.ok upcoming, d)

section

variable {undecided : List Block}

theorem Decides.prefer (h : Decides (c.preferring (undecided.getLastD tip).id) tip undecided upcoming
    tasks) : Decides c tip undecided upcoming (.prefer :: tasks) := by
  have preferred : (c.preferring (undecided.getLastD tip).id).preferred = (undecided.getLastD tip).id :=
    rfl
  obtain ⟨lands, misses⟩ := h
  simp only [preferred, ne_eq, not_true_eq_false, decide_false] at lands misses
  constructor
  · intro good
    obtain ⟨d, run, landed⟩ := lands good
    rw [run_pipeline_prefer]
    exact ⟨d, run, landed.of_same rfl fun _ _ => rfl⟩
  · rw [run_pipeline_prefer]
    exact misses

/-- A block that is built on the one built last is one of those that were to come. -/
theorem Decides.build (built : Controller.build.run c = (.ok block, d))
    (preferred : c.preferred = (undecided.getLastD tip).id) (astray : d.preferred ≠ block.id)
    (table : d.table = c.table) (verified : d.verified = c.verified)
    (h : Decides d tip (undecided ++ [block]) upcoming tasks) :
    Decides c tip undecided (block :: upcoming) (.build :: tasks) := by
  obtain ⟨lands, misses⟩ := h
  simp only [List.getLastD_concat, List.length_append, List.length_singleton, ne_eq, astray,
    not_false_eq_true, decide_true, List.append_assoc, List.singleton_append] at lands misses
  constructor
  · intro good
    obtain ⟨e, run, landed⟩ := lands (by simpa [steady, preferred] using good)
    refine ⟨e, ?_, landed.of_same table fun key _ => by rw [verified]⟩
    rw [run_pipeline_build built, run_map, run]
    rfl
  · intro bad e run
    rw [run_pipeline_build built, run_map] at run
    rcases later : (pipeline block.id (undecided ++ [block]) tasks).run d with ⟨_ | blocks, e'⟩
    · rw [later] at run
      cases run
    · rw [later] at run
      cases run
      exact misses (by simpa [steady, preferred] using bad) e' later

theorem Decides.build_astray (preferred : c.preferred ≠ (undecided.getLastD tip).id)
    (other : ∀ block d, Controller.build.run c = (.ok block, d) → upcoming.head? ≠ some block) :
    Decides c tip undecided upcoming (.build :: tasks) := by
  constructor
  · intro good
    rw [decide_eq_true preferred] at good
    exact absurd good Bool.false_ne_true
  · intro _ e run
    rcases built : Controller.build.run c with ⟨e' | block, d⟩
    · rw [pipeline, run_bind_error built] at run
      cases run
    · rw [run_pipeline_build built, run_map] at run
      rcases later : (pipeline block.id (undecided ++ [block]) tasks).run d with ⟨_ | blocks, e'⟩
      · rw [later] at run
        cases run
      · rw [later] at run
        cases run
        exact other block d built rfl

theorem Decides.verify (verified : (Controller.verify block).run c = (.ok (), d))
    (table : d.table = c.table) (preferred : d.preferred = c.preferred)
    (kept : d.verified = c.verified.insert block.id.toBytes block)
    (h : Decides d tip (checked ++ [block]) upcoming tasks) :
    Decides c tip (checked ++ [block]) upcoming (.verify :: tasks) := by
  obtain ⟨lands, misses⟩ := h
  rw [preferred] at lands misses
  constructor
  · intro good
    obtain ⟨e, run, landed⟩ := lands good
    refine ⟨e, (run_pipeline_verify verified).trans run, landed.of_same table fun key other => ?_⟩
    rw [kept, Table.get?_insert_of_ne]
    exact other block (by simp)
  · intro bad e run
    exact misses bad e ((run_pipeline_verify verified).symm.trans run)

theorem Decides.accept {decided first : Block}
    (accepted : (Controller.accept first).run c = (.ok decided, d))
    (table : d.table = c.table.accepting first) (preferred : d.preferred = first.id)
    (forgot : d.verified = c.verified.erase first.id.toBytes)
    (distinct : ∀ block ∈ undecided, block.id ≠ first.id)
    (h : Decides d first undecided upcoming tasks) :
    Decides c tip (first :: undecided) upcoming (.accept :: tasks) := by
  obtain ⟨lands, misses⟩ := h
  -- The block accepted is the one built last exactly if no other one is undecided.
  have astray : decide (d.preferred ≠ (undecided.getLastD first).id) =
      decide ((first :: undecided).length ≠ 1) := by
    rw [preferred]
    cases last : undecided.getLast? with
    | none =>
        obtain rfl := List.getLast?_eq_none_iff.mp last
        simp
    | some top =>
        have member := List.mem_of_getLast? last
        have different := (distinct top member).symm
        have longer := List.length_pos_of_mem member
        have more : undecided ≠ [] := List.ne_nil_of_mem member
        rw [List.getLastD_eq_getLast?, last]
        simp [different, more]
  rw [astray] at lands misses
  constructor
  · intro good
    obtain ⟨e, run, landed⟩ := lands good
    refine ⟨e, ?_, ⟨landed.tidy, landed.opened, landed.works, ?_, ?_, ?_, ?_⟩⟩
    · rw [List.getLastD_cons]
      exact (run_pipeline_accept accepted).trans run
    · rw [landed.table, table]
      rfl
    · rw [List.cons_append, List.getLastD_cons]
      exact landed.pointer
    · rw [List.cons_append, List.getLastD_cons]
      exact landed.preferred
    · intro key other
      rw [landed.others key fun block member => other block (List.mem_cons_of_mem _ member), forgot,
        Table.get?_erase, if_neg (other first List.mem_cons_self)]
  · intro bad e run
    rw [List.getLastD_cons, run_pipeline_accept accepted] at run
    exact misses bad e run

end

theorem Underway.ne_latest {fresh : Option Block} (u : Underway c tip checked fresh upcoming)
    (member : block ∈ fresh.toList ++ upcoming) : (checked.getLastD tip).id ≠ block.id := by
  have lacks := u.lacks
  rw [List.append_assoc] at lacks
  have absent := lacks.2 block (List.mem_append_right _ member)
  intro same
  cases last : checked.getLast? with
  | none =>
      rw [List.getLastD_eq_getLast?, last] at same
      have record := u.record
      have same : tip.id = block.id := same
      rw [same, absent] at record
      cases record
  | some top =>
      rw [List.getLastD_eq_getLast?, last] at same
      have distinct := lacks.1
      rw [List.map_append, List.nodup_append] at distinct
      exact distinct.2.2 _ (List.mem_map_of_mem (List.mem_of_getLast? last)) _
        (List.mem_map_of_mem member) same

/-- Whatever is under way, a schedule of the rest builds the blocks that are to come exactly if it is
steady. -/
theorem Underway.decides {pending : Bool} {left waiting : Nat}
    (schedule : Schedule pending left waiting tasks) {fresh : Option Block}
    (u : Underway c tip checked fresh upcoming) (begun : fresh.isSome = pending)
    (verified : checked.length = waiting) (queue : c.mempool.queue.length = left)
    (base : checked ++ fresh.toList = [] → c.preferred = tip.id) :
    Decides c tip (checked ++ fresh.toList) upcoming tasks := by
  induction schedule generalizing c tip checked fresh upcoming with
  | done =>
      obtain rfl := Option.not_isSome_iff_eq_none.mp (Bool.eq_false_iff.mp begun)
      obtain rfl := List.length_eq_zero_iff.mp verified
      have planned := u.planned
      rw [List.length_eq_zero_iff.mp queue] at planned
      subst planned
      constructor
      · intro _
        exact ⟨c, rfl, u.tidy, u.opened, u.works, rfl, u.pointer, base rfl, fun _ _ => rfl⟩
      · intro bad
        cases bad
  | prefer later ih =>
      refine Decides.prefer (ih (u.preferring _) begun verified queue fun none => ?_)
      rw [none]
      rfl
  | build later ih =>
      obtain rfl := Option.not_isSome_iff_eq_none.mp (Bool.eq_false_iff.mp begun)
      rw [Option.toList_none, List.append_nil]
      by_cases preferred : c.preferred = (checked.getLastD tip).id
      · obtain ⟨payload, rest, waits⟩ := List.exists_cons_of_length_eq_add_one queue
        obtain ⟨block, after, d, rfl, built, u', queue', table, kept, same⟩ := u.build preferred waits
        refine Decides.build built preferred ?_ table kept ?_
        · rw [same, preferred]
          exact u'.ne_latest (by simp)
        · refine ih u' rfl verified ?_ fun none => ?_
          · rw [queue']
            rw [waits] at queue
            exact Nat.succ.inj queue
          · simp at none
      · exact Decides.build_astray preferred fun block d built => u.ne_of_built preferred built
  | verify later ih =>
      obtain ⟨block, rfl⟩ := Option.isSome_iff_exists.mp begun
      obtain ⟨d, done, u', queue', table, preferred, kept⟩ := u.verify
      have rest := ih u' rfl (by rw [List.length_append, verified]; rfl) (queue' ▸ queue) fun none => by
        simp at none
      rw [Option.toList_none, List.append_nil] at rest
      exact Decides.verify done table preferred kept rest
  | accept later ih =>
      obtain ⟨first, checked', rfl⟩ := List.exists_cons_of_length_eq_add_one verified
      obtain ⟨d, done, u', queue', table, preferred, forgot⟩ := u.accept
      refine Decides.accept done table preferred forgot ?_
        (ih u' begun (Nat.succ.inj verified) (queue' ▸ queue) fun _ => preferred)
      intro block member same
      have distinct := (List.nodup_cons.mp u.lacks.1).1
      rw [← same] at distinct
      exact distinct (List.mem_map_of_mem (List.mem_append_left _ member))

theorem Lands.run_lastAccepted (h : Lands c tip blocks d) :
    (lastAccepted.run d).1 = .ok (blocks.getLastD tip).id :=
  run_lastAccepted_of_pointer h.tidy.quiet h.opened h.works h.pointer

/-- None of the blocks is among the verified ones any more. -/
theorem Lands.verified_eq (h : Lands c tip blocks d) (distinct : (blocks.map Block.id).Nodup) (key : Bytes) :
    d.verified.get? key =
      if ∃ block ∈ blocks, key = block.id.toBytes then none else c.verified.get? key := by
  split
  · next named =>
    obtain ⟨block, member, rfl⟩ := named
    have record : (c.table.acceptingAll blocks).get? (Key.block block.id) = some block.bytes :=
      Table.record_acceptingAll distinct member
    rw [← h.table] at record
    exact h.tidy.unverified_of_record record
  · next other =>
    exact h.others key fun block member same => other ⟨block, member, same⟩

theorem Lands.unique {e : Controller} (h : Lands c tip blocks d) (h' : Lands c tip blocks e)
    (distinct : (blocks.map Block.id).Nodup) :
    d.table = e.table ∧ (lastAccepted.run d).1 = (lastAccepted.run e).1 ∧ d.preferred = e.preferred ∧
      d.verified = e.verified := by
  refine ⟨h.table.trans h'.table.symm, ?_, h.preferred.trans h'.preferred.symm, ?_⟩
  · rw [h.run_lastAccepted, h'.run_lastAccepted]
  · apply Table.ext
    intro key
    rw [h.verified_eq distinct, h'.verified_eq distinct]

theorem Ready.underway (ready : Ready c last)
    (room : last.height.toNat + c.mempool.queue.length < UInt64.size)
    (lacks : c.table.Lacks (last.plan c.clock c.mempool.queue)) :
    Underway c last [] none (last.plan c.clock c.mempool.queue) where
  tidy := ready.reached.settled.tidy
  opened := ready.opened
  works := ready.works
  record := ready.record
  pointer := ready.pointer
  processing := fun _ member => absurd member List.not_mem_nil
  verified := fun _ member => absurd member List.not_mem_nil
  planned := rfl
  linked := Block.linked_plan room
  lacks := lacks

/-- While the last block of the chain is preferred and no request fails, building, verifying and accepting
the blocks for the payloads that wait one at a time puts all of them behind the chain. Any other schedule
builds the same blocks and ends alike if every block is built while the one before it is preferred. If
not, the same blocks are not built. -/
theorem pipeline_lands_iff_steady (ready : Ready c last)
    (room : last.height.toNat + c.mempool.queue.length < UInt64.size)
    (unclashing : c.table.NoClash (last.plan c.clock c.mempool.queue)) :
    ∃ d, (pipeline last.id [] (immediate c.mempool.queue.length)).run c =
        (.ok (last.plan c.clock c.mempool.queue), d) ∧
      d.table = c.table.acceptingAll (last.plan c.clock c.mempool.queue) ∧
      ∀ tasks, Schedule false c.mempool.queue.length 0 tasks →
        (steady 0 false tasks = true →
          ∃ e, (pipeline last.id [] tasks).run c = (.ok (last.plan c.clock c.mempool.queue), e) ∧
            e.table = d.table ∧ (lastAccepted.run e).1 = (lastAccepted.run d).1 ∧
            e.preferred = d.preferred ∧ e.verified = d.verified) ∧
        (steady 0 false tasks = false →
          ∀ e, (pipeline last.id [] tasks).run c ≠ (.ok (last.plan c.clock c.mempool.queue), e)) := by
  have lacks := unclashing.lacks room (ready.holds.unstored ready.final room)
  have underway := ready.underway room lacks
  have decides : ∀ tasks, Schedule false c.mempool.queue.length 0 tasks →
      Decides c last [] (last.plan c.clock c.mempool.queue) tasks :=
    fun tasks schedule => underway.decides schedule rfl rfl rfl fun _ => ready.preferred
  have aligned : decide (c.preferred ≠ (([] : List Block).getLastD last).id) = false := by
    rw [ready.preferred]
    simp
  have first := (decides _ (schedule_immediate c.mempool.queue.length)).lands
  rw [aligned] at first
  obtain ⟨d, run, landed⟩ := first (steady_immediate _)
  refine ⟨d, run, landed.table, fun tasks schedule => ?_⟩
  obtain ⟨lands, misses⟩ := decides tasks schedule
  rw [aligned] at lands misses
  refine ⟨fun good => ?_, misses⟩
  obtain ⟨e, run', landed'⟩ := lands good
  exact ⟨e, run', landed'.unique landed lacks.1⟩

end TimestampChain.Engine

/-! ## Three payloads -/

namespace TimestampChain.Sample

def queueing : List Event := [
  .call (.bootstrap [1]), .call (.bootstrap [1]), .call (.propose [2]), .call (.propose [3]),
  .call (.propose [4]), .surround (.ofDepth 1) (.still 1000) .never]

def queued : Controller := start.follow queueing

theorem queued_facts :
    start.Orderly queueing ∧ queued.store.closed = false ∧
      queued.table.storedChain.getLast? = some genesis.asAccepted ∧ queued.preferred = genesis.id ∧
      queued.mempool.queue.length = 3 ∧
      queued.table.NoClash (genesis.asAccepted.plan queued.clock queued.mempool.queue) := by
  decide +kernel

theorem queued_ready : Engine.Ready queued genesis.asAccepted := by
  obtain ⟨orderly, opened, final, preferred, -⟩ := queued_facts
  exact ⟨reached queueing orderly, opened, fun _ _ _ => rfl, final, preferred⟩

theorem queued_room : genesis.asAccepted.height.toNat + queued.mempool.queue.length < UInt64.size := by
  obtain ⟨-, -, -, -, three, -⟩ := queued_facts
  rw [three]
  decide

def overlapping : List Engine.Task :=
  [.prefer, .build, .verify, .prefer, .build, .accept, .verify, .prefer, .build, .verify, .accept, .accept]

/-- The first block is accepted between the preference for the second one and the next block. -/
def diverted : List Engine.Task :=
  [.prefer, .build, .verify, .prefer, .build, .verify, .prefer, .accept, .build, .verify, .accept, .accept]

end TimestampChain.Sample

namespace TimestampChain.Engine

open TimestampChain.Action Controller

theorem schedule_overlapping : Schedule false 3 0 Sample.overlapping :=
  .prefer (.build (.verify (.prefer (.build (.accept (.verify (.prefer (.build (.verify (.accept
    (.accept .done)))))))))))

theorem schedule_diverted : Schedule false 3 0 Sample.diverted :=
  .prefer (.build (.verify (.prefer (.build (.verify (.prefer (.accept (.build (.verify (.accept
    (.accept .done)))))))))))

/-- Overlapping turns end as separate ones do. -/
theorem overlapping_lands :
    ∃ d e, (pipeline Sample.genesis.id [] (immediate 3)).run Sample.queued =
        (.ok (Sample.genesis.asAccepted.plan Sample.queued.clock Sample.queued.mempool.queue), d) ∧
      (pipeline Sample.genesis.id [] Sample.overlapping).run Sample.queued =
        (.ok (Sample.genesis.asAccepted.plan Sample.queued.clock Sample.queued.mempool.queue), e) ∧
      e.table = d.table ∧ e.preferred = d.preferred ∧ e.verified = d.verified := by
  obtain ⟨-, -, -, -, three, unclashing⟩ := Sample.queued_facts
  obtain ⟨d, run, -, others⟩ :=
    pipeline_lands_iff_steady Sample.queued_ready Sample.queued_room unclashing
  rw [three] at run others
  obtain ⟨e, run', table, -, preferred, verified⟩ := (others _ schedule_overlapping).1 (steady_of_prompt 0 false rfl)
  exact ⟨d, e, run, run', table, preferred, verified⟩

/-- Accepting the first block makes it the preferred one again, so the third one is built on it and is
refused in the end. -/
theorem diverted_refused :
    Ready Sample.queued Sample.genesis.asAccepted ∧ Sample.queued.mempool.queue.length = 3 ∧
      Sample.genesis.asAccepted.height.toNat + Sample.queued.mempool.queue.length < UInt64.size ∧
      Sample.queued.table.NoClash
        (Sample.genesis.asAccepted.plan Sample.queued.clock Sample.queued.mempool.queue) ∧
      Schedule false 3 0 Sample.diverted ∧
      ¬ ∃ blocks d, (pipeline Sample.genesis.id [] Sample.diverted).run Sample.queued =
        (.ok blocks, d) := by
  obtain ⟨-, -, -, -, three, unclashing⟩ := Sample.queued_facts
  have refused : ((pipeline Sample.genesis.id [] Sample.diverted).run Sample.queued).1.isOk = false := by
    decide +kernel
  refine ⟨Sample.queued_ready, three, Sample.queued_room, unclashing, schedule_diverted, ?_⟩
  rintro ⟨blocks, d, run⟩
  rw [run] at refused
  cases refused

end TimestampChain.Engine
