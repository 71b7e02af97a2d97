import TimestampChain.Proofs.Node.Lines

/-!
# Sessions of a node

Every run of a node is a run of its controller, so a table that runs have left behind is empty or holds a
chain. The next run grounds the chain if there is none, and goes on with it otherwise, whatever it is
told to ground it on. What it prints and what it leaves behind depends on nothing but the chain, the
lines and the times of the blocks.
-/

namespace TimestampChain

open TimestampChain.Action

variable {t : Table Bytes} {data : Bytes} {tip : Block}

/-! ## Tables -/

theorem Table.Sound.genuine (sound : t.Sound) : t.Genuine := by
  intro id bytes record
  rcases sound with rfl | ⟨blocks, holds⟩
  · cases record
  · obtain ⟨block, -, named, same⟩ := holds.mem_of_record record
    exact ⟨block, named, same⟩

theorem Table.Sound.pointed (sound : t.Sound) {id : BlockId}
    (pointer : t.get? Key.lastAccepted = some id.toBytes) : (t.get? (Key.block id)).isSome := by
  rcases sound with rfl | ⟨blocks, holds⟩
  · cases pointer
  · obtain ⟨last, final, pointer'⟩ := holds.pointer
    have same : last.id = id := Bytes32.ext (Option.some.inj (pointer'.symm.trans pointer))
    rw [← same, holds.records last (List.mem_of_getLast? final)]
    rfl

/-- The table with the first block for the data, unless the chain has been set up already. -/
def Table.grounded (t : Table Bytes) (data : Bytes) : Table Bytes :=
  if (t.get? Key.initialized).isSome then t
  else
    match Block.genesis data with
    | .ok genesis => t.founding genesis
    | .error _ => t

def Table.Groundable (t : Table Bytes) (data : Bytes) : Prop :=
  (t.get? Key.initialized).isSome ∨ data.length ≤ Payload.size

theorem Table.grounded_of_marked (marker : (t.get? Key.initialized).isSome) (data : Bytes) :
    t.grounded data = t :=
  if_pos marker

theorem Table.grounded_of_made {genesis : Block} (made : Block.genesis data = .ok genesis) :
    Table.empty.grounded data = Table.empty.founding genesis := by
  have unmarked : ¬ ((Table.empty : Table Bytes).get? Key.initialized).isSome = true :=
    Bool.false_ne_true
  rw [grounded, if_neg unmarked, made]

theorem Table.Groundable.short (groundable : t.Groundable data)
    (unmarked : (t.get? Key.initialized).isSome = false) : data.length ≤ Payload.size := by
  rcases groundable with marked | short
  · rw [unmarked] at marked
    cases marked
  · exact short

theorem Table.Groundable.holdsChain (groundable : t.Groundable data) (sound : t.Sound) :
    HoldsChain (t.grounded data) (t.grounded data).storedChain := by
  cases marker : (t.get? Key.initialized).isSome with
  | true =>
      rw [grounded_of_marked marker]
      exact sound.holdsChain marker
  | false =>
      obtain ⟨payload, made⟩ := Block.genesis_of_short (groundable.short marker)
      have founded := holdsChain_founding made
      rw [sound.eq_empty marker, grounded_of_made made, founded.storedChain_eq]
      exact founded

/-- Above the last block of the chain there is room for blocks with the payloads, and these clash with no
other block. -/
def Table.Affords (t : Table Bytes) (clock : Clock) (payloads : List Payload) : Prop :=
  ∀ tip, t.storedChain.getLast? = some tip →
    tip.height.toNat + payloads.length < UInt64.size ∧ t.NoClash (tip.plan clock payloads)

/-! ## Starting -/

namespace Controller

variable {c : Controller}

theorem clock_of_bootstrap (quiet : c.store.staged = .empty) (data : Bytes) :
    ((bootstrap data).run c).2.clock = c.clock := by
  rcases bootstrap_cases data quiet with ⟨n, preferred, done⟩ |
    ⟨-, genesis, recorded, d, -, -, ⟨k, -, rfl⟩, n, preferred, done⟩ <;> rw [done] <;> rfl

theorem bootstrap_of_groundable (tidy : c.Tidy) (opened : c.store.closed = false) (works : c.Works)
    (sound : c.table.Sound) (groundable : c.table.Groundable data) :
    ∃ d, (bootstrap data).run c = (.ok (), d) ∧ d.table = c.table.grounded data := by
  cases marker : (c.table.get? Key.initialized).isSome with
  | true =>
      obtain ⟨last, -, pointer⟩ := (sound.holdsChain marker).pointer
      have marked : c.store.marked = .ok true := marker ▸ marked_of_open tidy.quiet opened
      have named : c.tip = .ok last.id := (tip_eq_ok_iff opened tidy.quiet).mpr pointer
      obtain ⟨n, done⟩ := run_of_unfailing (bootstrap_of_marked data marked named) works.unfailing
      exact ⟨_, done, (Table.grounded_of_marked marker data).symm⟩
  | false =>
      have empty := sound.eq_empty marker
      obtain ⟨payload, made⟩ := Block.genesis_of_short (groundable.short marker)
      obtain ⟨d, done, stands⟩ :=
        (founding_goesThrough tidy.quiet opened empty made).stands (works.fault?_eq_none _)
      rw [empty, Table.grounded_of_made made]
      exact ⟨d, done, stands.table⟩

end Controller

namespace Node

open Controller Engine

variable {c : Controller} {clock : Clock} {lines : List String}

theorem poised_of_sound (sound : t.Sound) (clock : Clock) : Poised True (controllerOver t clock) :=
  ⟨tidy_ofBackend _ _ _, sound.genuine, fun _ pointer => sound.pointed pointer, fun _ _ _ => rfl,
    ⟨rfl, Nat.one_pos⟩, rfl, rfl, fun _ => sound⟩

theorem serving_of_started {orderly : Prop} {d : Controller} (poised : Poised orderly c)
    (started : (Engine.start data).run c = (.ok (), d)) : ∃ tip, Serving orderly d tip [] := by
  obtain ⟨tip, standing, chained⟩ := poised.standing started
  have behind := poised.after_start data
  have same : Engine.after c (.start data) = d := congrArg Prod.snd started
  rw [same] at behind
  exact ⟨tip, standing, behind.live, fun waits => absurd behind.idle waits, behind.unverified,
    behind.idle, chained⟩

/-- Over a table that runs have left behind, an engine is started on the last block of the chain. -/
theorem start_of_sound (sound : t.Sound) (groundable : t.Groundable data) (clock : Clock) :
    ∃ tip d, (Engine.start data).run (controllerOver t clock) = (.ok (), d) ∧
      d.table = t.grounded data ∧ d.clock = clock ∧ Serving True d tip [] ∧
      (t.grounded data).storedChain.getLast? = some tip := by
  have poised := poised_of_sound sound clock
  have entered := poised.after_setState .bootstrapping
  obtain ⟨m, done, table⟩ :=
    bootstrap_of_groundable entered.tidy rfl entered.works sound groundable
  have clock_eq := clock_of_bootstrap entered.tidy.quiet data
  rw [done] at clock_eq
  rcases start_steps data (controllerOver t clock) with ⟨e, d, failed, -⟩ | ⟨d, here, started⟩
  · cases done.symm.trans failed
  · cases done.symm.trans here
    obtain ⟨tip, serving⟩ := serving_of_started poised started
    obtain ⟨blocks, holds, final⟩ := serving.chained trivial
    have grounded : HoldsChain (t.grounded data) blocks := table ▸ holds
    refine ⟨tip, _, started, table, clock_eq, serving, ?_⟩
    rw [grounded.storedChain_eq]
    exact final

/-! ## Runs -/

theorem leads_feed (based : c.Based) (line : String) : c.Leads ((feed line).run c).2 := by
  have submitted : c.Leads ((submit (Bytes.ofText (trimText line))).run c).2 :=
    leads_of_call (.propose _) rfl trivial
  rw [feed]
  split
  · exact .refl c
  · rw [run_bind_ok (run_attempt _ _)]
    rcases outcome : (submit (Bytes.ofText (trimText line))).run c with ⟨e | _, d⟩ <;>
      rw [outcome] at submitted
    · exact submitted
    · exact submitted.trans (leads_drain (based.leads submitted))

theorem leads_feedAll (based : c.Based) (lines : List (Option String)) (blocks : List Block) :
    c.Leads (feedAll lines blocks c).2 := by
  induction lines generalizing blocks c with
  | nil => exact .refl c
  | cons line rest ih =>
      cases line with
      | none => exact .refl c
      | some line =>
          have fed := leads_feed based line
          rw [feedAll]
          rcases outcome : (feed line).run c with ⟨e | made, d⟩ <;> rw [outcome] at fed
          · exact fed
          · exact fed.trans (ih (based.leads fed) _)

/-- Whatever a node does is a run of its controller. -/
theorem leads_run (based : c.Based) (genesisData : String) (lines : List (Option String)) :
    c.Leads (run genesisData lines c).2 := by
  have started := leads_start (Bytes.ofText genesisData) c
  rw [run, start]
  rcases begun : (Engine.start (Bytes.ofText genesisData)).run c with ⟨e | _, m⟩ <;>
    rw [begun] at started
  · exact started
  · have fed := started.trans (leads_feedAll (based.leads started) lines [])
    dsimp only
    rcases there : feedAll lines [] m with ⟨⟨blocks, _ | e⟩, n⟩ <;> rw [there] at fed
    · have closed := fed.trans (leads_of_call .shutdown rfl trivial : n.Leads (Engine.shutdown.run n).2)
      dsimp only
      rcases done : Engine.shutdown.run n with ⟨e | _, d⟩ <;> rw [done] at closed
      · exact closed
      · exact closed
    · exact fed

/-- Tables that runs of a node leave behind, one after another, whatever fails in them. -/
inductive Left : Table Bytes → Prop
  | none : Left .empty
  | run {b : Backend} (before : Left b.table) (genesisData : String) (lines : List (Option String))
      (clock : Clock) :
      Left (run genesisData lines (.ofBackend b (.ofDepth Channel.defaultDepth) clock)).2.table

theorem Left.sound (left : Left t) : t.Sound := by
  induction left with
  | none => exact Or.inl rfl
  | run _ genesisData lines clock ih =>
      have based := based_ofBackend ih (.ofDepth Channel.defaultDepth) clock
      exact (based.leads (leads_run based genesisData lines)).settled.sound

/-! ## What a run prints -/

def session (genesisData : String) (lines : List String) (clock : Clock) (t : Table Bytes) :
    Transcript × Table Bytes :=
  ((run genesisData (lines.map some) (controllerOver t clock)).1,
    (run genesisData (lines.map some) (controllerOver t clock)).2.table)

theorem Left.session (left : Left t) (genesisData : String) (lines : List String) (clock : Clock) :
    Left (session genesisData lines clock t).2 :=
  Left.run (b := .ofTable t) left genesisData (lines.map some) clock

/-- Silent lines have no effect. -/
theorem session_of_sifted {kept : List String} (sifted : Sifted lines kept) (genesisData : String)
    (clock : Clock) (t : Table Bytes) :
    session genesisData kept clock t = session genesisData lines clock t := by
  rw [session, run_of_sifted sifted]
  rfl

theorem run_of_closed {genesisData : String} {d e : Controller} {blocks : List Block}
    (started : (start genesisData).run c = (.ok (), d))
    (fed : feedAll (lines.map some) [] d = (⟨blocks, none⟩, e)) (standing : Standing e tip) :
    run genesisData (lines.map some) c = (⟨blocks, none⟩, e.closing) := by
  have closed : Engine.shutdown.run e = (.ok (), e.closing) :=
    shutdown_of_works standing.tidy.quiet standing.opened (standing.works _ _ (Nat.le_refl _))
  rw [run, started]
  dsimp only
  rw [fed]
  dsimp only
  rw [closed]

theorem session_of_lacks {genesisData : String} (sound : t.Sound)
    (groundable : t.Groundable (Bytes.ofText genesisData))
    (final : (t.grounded (Bytes.ofText genesisData)).storedChain.getLast? = some tip)
    (room : tip.height.toNat + (payloads lines).length < UInt64.size)
    (lacks : (t.grounded (Bytes.ofText genesisData)).Lacks (tip.plan clock (payloads lines))) :
    session genesisData lines clock t =
      (⟨(tip.plan clock (payloads lines)).map Block.asAccepted, none⟩,
        (t.grounded (Bytes.ofText genesisData)).acceptingAll (tip.plan clock (payloads lines))) := by
  obtain ⟨other, c, started, table, rfl, serving, final'⟩ := start_of_sound sound groundable clock
  cases final.symm.trans final'
  rw [← table] at lacks ⊢
  obtain ⟨d, fed, table', serving'⟩ := feedAll_of_serving serving room lacks []
  rw [session, run_of_closed started fed serving'.standing, ← table']
  rfl

/-- The blocks carry the payloads in the lines, in order, one block on another above the tip. -/
structure Carries (tip : Block) (lines : List String) (blocks : List Block) : Prop where
  payloads : Yields lines (blocks.map Block.payload)
  linked : (tip :: blocks).IsChain fun parent child => child.Follows parent
  accepted : ∀ block ∈ blocks, block.status = .accepted

theorem carries_plan (room : tip.height.toNat + (payloads lines).length < UInt64.size) :
    Carries tip lines ((tip.plan clock (payloads lines)).map Block.asAccepted) := by
  refine ⟨?_, Block.isChain_plan room, fun block member => ?_⟩
  · have given := yields_payloads lines
    rw [← Block.payloads_plan tip clock (payloads lines)] at given
    rwa [List.map_map]
  · obtain ⟨planned, -, rfl⟩ := List.mem_map.mp member
    rfl

/-! ## Runs one after another -/

/-- Two runs, the second over what the first has left behind, print together what a single run prints,
and leave the same table behind, in which the chain goes on with what was printed. -/
structure Joins (t : Table Bytes) (tip : Block) (lines₁ lines₂ : List String)
    (first second whole : Transcript × Table Bytes) : Prop where
  succeed : first.1.failure = none ∧ second.1.failure = none ∧ whole.1.failure = none
  front : Carries tip lines₁ first.1.blocks
  back : Carries (first.1.blocks.getLastD tip) lines₂ second.1.blocks
  together : Carries tip (lines₁ ++ lines₂) whole.1.blocks
  blocks : whole.1.blocks = first.1.blocks ++ second.1.blocks
  table : second.2 = whole.2
  chain : whole.2.storedChain = t.storedChain ++ whole.1.blocks

theorem session_append {lines₁ lines₂ : List String} {clock₁ clock₂ : Clock}
    {genesis₁ : String} (genesis₂ : String) (sound : t.Sound)
    (groundable : t.Groundable (Bytes.ofText genesis₁))
    (affords : (t.grounded (Bytes.ofText genesis₁)).Affords clock (payloads (lines₁ ++ lines₂)))
    (agrees₁ : clock₁.Agrees clock (payloads lines₁).length)
    (agrees₂ : clock₂.Agrees (clock.forward (payloads lines₁).length) (payloads lines₂).length) :
    ∃ tip, (t.grounded (Bytes.ofText genesis₁)).storedChain.getLast? = some tip ∧
      Joins (t.grounded (Bytes.ofText genesis₁)) tip lines₁ lines₂
        (session genesis₁ lines₁ clock₁ t)
        (session genesis₂ lines₂ clock₂ (session genesis₁ lines₁ clock₁ t).2)
        (session genesis₁ (lines₁ ++ lines₂) clock t) := by
  have holds := groundable.holdsChain sound
  obtain ⟨tip, final, -⟩ := holds.pointer
  obtain ⟨room, unclashing⟩ := affords tip final
  have lacks := unclashing.lacks room (holds.unstored final room)
  have whole := session_of_lacks sound groundable final room lacks
  have carries : Carries tip (lines₁ ++ lines₂) ((tip.plan clock (payloads (lines₁ ++ lines₂))).map
      Block.asAccepted) := carries_plan room
  have longer := holdsChain_acceptingAll holds final room lacks
  -- The plan for all lines is the plan for the first ones with that for the others on top.
  have length : (payloads (lines₁ ++ lines₂)).length =
      (payloads lines₁).length + (payloads lines₂).length := by
    rw [payloads_append, List.length_append]
  rw [payloads_append, Block.plan_append, ← Block.plan_of_agrees tip agrees₁,
    ← Block.plan_of_agrees _ agrees₂] at lacks whole carries longer
  obtain ⟨lacks₁, lacks₂⟩ := Table.lacks_of_append lacks
  have room₁ : tip.height.toNat + (payloads lines₁).length < UInt64.size := by omega
  have first := session_of_lacks sound groundable final room₁ lacks₁
  have holds₁ := holdsChain_acceptingAll holds final room₁ lacks₁
  have marker : (((t.grounded (Bytes.ofText genesis₁)).acceptingAll
      (tip.plan clock₁ (payloads lines₁))).get? Key.initialized).isSome := by
    rw [holds₁.marker]
    rfl
  -- The second run finds the chain of the first one, whatever it is told to ground it on.
  have kept := Table.grounded_of_marked marker (Bytes.ofText genesis₂)
  have final₂ : ((t.grounded (Bytes.ofText genesis₁)).storedChain ++
      (tip.plan clock₁ (payloads lines₁)).map Block.asAccepted).getLast? =
        some (((tip.plan clock₁ (payloads lines₁)).map Block.asAccepted).getLastD tip) :=
    getLast?_append_of_some final
  have room₂ : (((tip.plan clock₁ (payloads lines₁)).map Block.asAccepted).getLastD tip).height.toNat +
      (payloads lines₂).length < UInt64.size := by
    rw [Block.height_getLastD_plan room₁]
    omega
  rw [← holds₁.storedChain_eq, ← kept] at final₂
  rw [← kept] at lacks₂
  have second := session_of_lacks (Or.inr ⟨_, holds₁⟩) (Or.inl marker) final₂ room₂ lacks₂
  rw [kept] at second
  rw [Table.acceptingAll_append] at whole longer
  refine ⟨tip, final, ?_⟩
  rw [first, second, whole]
  exact ⟨⟨rfl, rfl, rfl⟩, carries_plan room₁, carries_plan room₂, carries, List.map_append, rfl,
    longer.storedChain_eq⟩

end Node

end TimestampChain
