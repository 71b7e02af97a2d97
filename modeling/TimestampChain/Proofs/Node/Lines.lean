import TimestampChain.Node.Run
import TimestampChain.Proofs.Engine.Delivery
import TimestampChain.Proofs.Text.Trimming

/-!
# Lines of a node

A line carries a payload unless it is blank or too long, and one without a payload changes nothing. A
node that stands on a block puts one block behind it for every line with a payload, in the order of the
lines.
-/

namespace TimestampChain.Node

open TimestampChain.Action Controller Engine

variable {c : Controller} {tip : Block} {line : String} {payload : Payload} {orderly : Prop}

/-! ## Payloads -/

def payload? (line : String) : Option Payload :=
  if fits : trimText line ≠ "" ∧ (Bytes.ofText (trimText line)).length ≤ Payload.size then
    some (Bytes32.pad (Bytes.ofText (trimText line)) fits.2)
  else none

def payloads (lines : List String) : List Payload := lines.filterMap payload?

theorem payloads_append (front back : List String) :
    payloads (front ++ back) = payloads front ++ payloads back :=
  List.filterMap_append

/-- The line gives the payload: it holds a text between blanks, neither empty nor too long, which zeros fill
up to the payload. -/
def Gives (line : String) (payload : Payload) : Prop :=
  ∃ text, Trims line text ∧ text ≠ "" ∧ (Bytes.ofText text).length ≤ 32 ∧
    payload.toBytes = Bytes.ofText text ++ List.replicate (32 - (Bytes.ofText text).length) 0

theorem payload?_eq_some_iff : payload? line = some payload ↔ Gives line payload := by
  constructor
  · intro there
    by_cases fits : trimText line ≠ "" ∧ (Bytes.ofText (trimText line)).length ≤ Payload.size
    · rw [payload?, dif_pos fits] at there
      obtain rfl := Option.some.inj there
      exact ⟨_, trims_trimText line, fits.1, fits.2, rfl⟩
    · rw [payload?, dif_neg fits] at there
      cases there
  · rintro ⟨text, trims, nonblank, short, padded⟩
    obtain rfl := trims.eq
    rw [payload?, dif_pos ⟨nonblank, short⟩]
    exact congrArg some (Bytes32.ext padded.symm)

/-- The line is blank, or the text that it holds between blanks is too long. -/
def Silent (line : String) : Prop :=
  ∃ text, Trims line text ∧ (text = "" ∨ 32 < (Bytes.ofText text).length)

theorem payload?_eq_none_iff : payload? line = none ↔ Silent line := by
  constructor
  · intro missing
    refine ⟨_, trims_trimText line, or_iff_not_imp_left.mpr fun nonblank => Nat.not_le.mp fun short => ?_⟩
    rw [payload?, dif_pos ⟨nonblank, short⟩] at missing
    cases missing
  · rintro ⟨text, trims, excluded⟩
    obtain rfl := trims.eq
    rw [payload?, dif_neg]
    rintro ⟨nonblank, short⟩
    exact excluded.elim nonblank (Nat.not_lt.mpr short)

/-- The lines give the payloads, in order, one each unless a line is silent. -/
inductive Yields : List String → List Payload → Prop
  | nil : Yields [] []
  | given {line : String} {payload : Payload} {lines : List String} {payloads : List Payload}
      (gives : Gives line payload) (rest : Yields lines payloads) :
      Yields (line :: lines) (payload :: payloads)
  | silent {line : String} {lines : List String} {payloads : List Payload} (silent : Silent line)
      (rest : Yields lines payloads) : Yields (line :: lines) payloads

theorem yields_payloads (lines : List String) : Yields lines (payloads lines) := by
  induction lines with
  | nil => exact .nil
  | cons line lines ih =>
      cases there : payload? line with
      | none =>
          rw [payloads, List.filterMap_cons_none there]
          exact .silent (payload?_eq_none_iff.mp there) ih
      | some payload =>
          rw [payloads, List.filterMap_cons_some there]
          exact .given (payload?_eq_some_iff.mp there) ih

/-- Silent lines are left out, all of them or some. -/
inductive Sifted : List String → List String → Prop
  | nil : Sifted [] []
  | keep {lines kept : List String} (line : String) (rest : Sifted lines kept) :
      Sifted (line :: lines) (line :: kept)
  | drop {line : String} {lines kept : List String} (silent : Silent line) (rest : Sifted lines kept) :
      Sifted (line :: lines) kept

/-! ## One line -/

/-- A silent line changes nothing. -/
theorem feed_of_silent (silent : Silent line) (c : Controller) : (feed line).run c = (.ok [], c) := by
  obtain ⟨text, trims, excluded⟩ := silent
  obtain rfl := trims.eq
  by_cases blank : trimText line = ""
  · rw [feed, if_pos (String.isEmpty_iff.mpr blank)]
    rfl
  · have long : 32 < (Bytes.ofText (trimText line)).length := excluded.resolve_left blank
    have refused := propose_of_long (dif_neg (Nat.not_le.mpr long)) c
    rw [feed, if_neg (mt String.isEmpty_iff.mp blank), run_bind_ok (run_attempt _ _), submit, refused]
    rfl

/-- A payload is submitted, and the engine is drained. -/
theorem feed_of_gives (gives : Gives line payload) (c : Controller) :
    (feed line).run c = drain.run (c.proposing payload) := by
  obtain ⟨text, trims, nonblank, short, padded⟩ := gives
  obtain rfl := trims.eq
  have filled : Bytes32.pad (Bytes.ofText (trimText line)) short = payload := Bytes32.ext padded.symm
  have taken := propose_of_payload (dif_pos short) c
  rw [filled] at taken
  rw [feed, if_neg (mt String.isEmpty_iff.mp nonblank), run_bind_ok (run_attempt _ _), submit, taken]

/-! ## Lines one after another -/

theorem feedAll_of_fed {made : List Block} {d : Controller} (fed : (feed line).run c = (.ok made, d))
    (rest : List (Option String)) (blocks : List Block) :
    feedAll (some line :: rest) blocks c = feedAll rest (blocks ++ made) d := by
  rw [feedAll, fed]

theorem feedAll_of_silent (silent : Silent line) (rest : List (Option String)) (blocks : List Block)
    (c : Controller) : feedAll (some line :: rest) blocks c = feedAll rest blocks c := by
  rw [feedAll_of_fed (feed_of_silent silent c), List.append_nil]

theorem feedAll_of_sifted {lines kept : List String} (sifted : Sifted lines kept)
    (blocks : List Block) (c : Controller) :
    feedAll (kept.map some) blocks c = feedAll (lines.map some) blocks c := by
  induction sifted generalizing blocks c with
  | nil => rfl
  | keep line rest ih =>
      rw [List.map_cons, List.map_cons, feedAll, feedAll]
      rcases (feed line).run c with ⟨e | made, d⟩
      · rfl
      · exact ih (blocks ++ made) d
  | drop silent rest ih =>
      rw [ih, List.map_cons, feedAll_of_silent silent]

theorem run_of_sifted {lines kept : List String} (sifted : Sifted lines kept) (genesisData : String)
    (c : Controller) : run genesisData (kept.map some) c = run genesisData (lines.map some) c := by
  unfold run
  simp only [feedAll_of_sifted sifted]

theorem feed_of_serving (serving : Serving orderly c tip []) (gives : Gives line payload)
    (room : tip.height.toNat + 1 < UInt64.size)
    (absent : c.table.get? (Key.block (tip.successor payload c.clock.now).id) = none) :
    ∃ d, (feed line).run c = (.ok [(tip.successor payload c.clock.now).asAccepted], d) ∧
      d.table = c.table.accepting (tip.successor payload c.clock.now) ∧ d.clock = c.clock.tick ∧
      Serving orderly d (tip.successor payload c.clock.now).asAccepted [] := by
  have lacks : c.table.Lacks [tip.successor payload c.clock.now] := by
    refine ⟨List.nodup_cons.mpr ⟨List.not_mem_nil, List.nodup_nil⟩, fun block member => ?_⟩
    rw [List.mem_singleton.mp member]
    exact absent
  obtain ⟨d, run, -, settles, serving'⟩ := (serving.submitted payload).drain_of_lacks room lacks
  exact ⟨d, (feed_of_gives gives c).trans run, settles.table, settles.clock, serving'⟩

/-- What a node that stands on a block makes of lines. -/
theorem feedAll_of_serving (serving : Serving orderly c tip []) {lines : List String}
    (room : tip.height.toNat + (payloads lines).length < UInt64.size)
    (lacks : c.table.Lacks (tip.plan c.clock (payloads lines))) (blocks : List Block) :
    ∃ d, feedAll (lines.map some) blocks c =
        (⟨blocks ++ (tip.plan c.clock (payloads lines)).map Block.asAccepted, none⟩, d) ∧
      d.table = c.table.acceptingAll (tip.plan c.clock (payloads lines)) ∧
      Serving orderly d
        (((tip.plan c.clock (payloads lines)).map Block.asAccepted).getLastD tip) [] := by
  induction lines generalizing c tip blocks with
  | nil =>
      have nothing : feedAll [] blocks c = (⟨blocks ++ [], none⟩, c) := by
        rw [List.append_nil]
        rfl
      exact ⟨c, nothing, rfl, serving⟩
  | cons line rest ih =>
      cases there : payload? line with
      | none =>
          have same : payloads (line :: rest) = payloads rest := List.filterMap_cons_none there
          rw [same] at room lacks ⊢
          obtain ⟨d, run, rest'⟩ := ih serving room lacks blocks
          exact ⟨d, (feedAll_of_silent (payload?_eq_none_iff.mp there) _ blocks c).trans run, rest'⟩
      | some payload =>
          have more : payloads (line :: rest) = payload :: payloads rest :=
            List.filterMap_cons_some there
          rw [more, List.length_cons] at room
          rw [more, Block.plan] at lacks ⊢
          obtain ⟨absent, lacks'⟩ := Table.lacks_of_cons lacks
          obtain ⟨m, run, table, clock, serving'⟩ :=
            feed_of_serving serving (payload?_eq_some_iff.mp there) (by omega) absent
          have height : (tip.successor payload c.clock.now).asAccepted.height.toNat =
              tip.height.toNat + 1 := toNat_height_succ (height_ne_maxHeight (by omega))
          -- The induction plans the rest above the block as it is stored, at the times behind the line.
          rw [← table, ← Block.plan_asAccepted, ← clock] at lacks'
          obtain ⟨d, runs, table', serving''⟩ := ih serving' (by omega) lacks'
            (blocks ++ [(tip.successor payload c.clock.now).asAccepted])
          rw [Block.plan_asAccepted, clock] at runs table' serving''
          refine ⟨d, ?_, ?_, ?_⟩
          · rw [List.append_assoc] at runs
            exact (feedAll_of_fed run _ blocks).trans runs
          · rw [table', table]
            rfl
          · rw [List.map_cons, List.getLastD_cons]
            exact serving''

end TimestampChain.Node
