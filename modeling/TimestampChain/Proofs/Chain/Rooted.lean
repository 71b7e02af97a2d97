import TimestampChain.Proofs.Chain.Invariant

/-!
# Blocks above the chain

A block is verified only above one that is stored or verified already, so none is verified before the
chain is set up, and none can be built.
-/

namespace TimestampChain.Controller

variable {c d e : Controller}

/-! ## Courses of events -/

def Leads (c d : Controller) : Prop := ∃ events, c.Orderly events ∧ d = c.follow events

theorem Leads.refl (c : Controller) : c.Leads c := ⟨[], trivial, rfl⟩

theorem Leads.trans (first : c.Leads d) (second : d.Leads e) : c.Leads e := by
  obtain ⟨earlier, orderly, rfl⟩ := first
  obtain ⟨later, orderly', rfl⟩ := second
  refine ⟨earlier ++ later, orderly_append.mpr ⟨orderly, orderly'⟩, ?_⟩
  simp [follow]

theorem leads_afterEvent (event : Event) (ordered : c.InOrder event) :
    c.Leads (c.afterEvent event) :=
  ⟨[event], ⟨ordered, trivial⟩, rfl⟩

theorem leads_of_call {α : Type} {x : Step α} {f : α → Reply} (call : Call)
    (performed : call.perform = f <$> x) (ordered : c.InOrder (.call call)) :
    c.Leads (x.run c).2 := by
  rw [← afterCall_eq performed]
  exact leads_afterEvent (.call call) ordered

theorem Leads.of_run {α : Type} {x : Step α} {r : Except ControllerError α}
    (leads : c.Leads (x.run d).2) (run : x.run d = (r, e)) : c.Leads e := by
  rw [run] at leads
  exact leads

theorem Reached.leads (reached : c.Reached) (leads : c.Leads d) : d.Reached := by
  obtain ⟨b, channel, clock, events, empty, orderly, rfl⟩ := reached
  obtain ⟨later, orderly', rfl⟩ := leads
  refine ⟨b, channel, clock, events ++ later, empty, orderly_append.mpr ⟨orderly, orderly'⟩, ?_⟩
  simp [follow]

/-! ## Verified blocks -/

def Rooted (c : Controller) : Prop :=
  ∀ key block, c.verified.get? key = some block → (c.table.get? Key.initialized).isSome

/-- A table with any record has the marker. -/
theorem marker_of_record {t : Table Bytes} {key value : Bytes} (sound : t.Sound)
    (record : t.get? key = some value) : (t.get? Key.initialized).isSome := by
  cases marker : (t.get? Key.initialized).isSome with
  | true => rfl
  | false =>
      rw [sound.eq_empty marker] at record
      cases record

theorem marker_of_find {id : BlockId} {block : Block} (settled : c.Settled) (rooted : c.Rooted)
    (found : c.find id = .ok block) : (c.table.get? Key.initialized).isSome := by
  unfold find at found
  cases known : c.verified? id with
  | some kept => exact rooted _ _ known
  | none =>
      rw [known] at found
      obtain ⟨value, read, rest⟩ := bind_eq_ok_iff.mp (mapError_eq_ok_iff.mp found)
      rw [ChainState.lookup_of_open (ChainState.open_of_lookup read) settled.tidy.quiet] at read
      cases value with
      | none => cases rest
      | some bytes => exact marker_of_record settled.sound (Except.ok.inj read)

theorem Rooted.idle (settled : c.Settled) (rooted : c.Rooted) (idle : c.Idle d) : d.Rooted := by
  have table := idle.table_eq
  intro key block found
  rw [table]
  cases idle with
  | kept _ verified => exact rooted key block (verified key block found)
  | closed _ => exact rooted key block found
  | @remembered new n judged =>
      obtain ⟨-, -, parent, parent_found, -⟩ := verification_eq_ok_true judged
      exact marker_of_find settled rooted (mapError_eq_ok_iff.mp parent_found)

theorem Rooted.outcome {call : Call} (settled : c.Settled) (rooted : c.Rooted)
    (h : c.Outcome call d) : d.Rooted := by
  cases h with
  | idle idle => exact rooted.idle settled idle
  | @accepted new d _ _ _ wrote _ =>
      have written := table_of_accepted wrote
      have table : (d.adopting new.id).table = c.table.accepting new := written
      have kept : (d.adopting new.id).verified = c.verified.erase new.id.toBytes := by
        obtain ⟨n, -, rfl⟩ := wrote
        rfl
      intro key block found
      rw [kept] at found
      rw [table, Table.marker_accepting]
      exact rooted key block (Table.get?_of_erase found).2
  | @founded data genesis recorded d n preferred _ _ record wrote =>
      have table := table_of_founded settled.tidy.quiet record wrote
      have marker := Table.marker_founding c.table genesis
      rw [← table] at marker
      intro key block found
      exact Option.isSome_iff_exists.mpr ⟨_, marker⟩

theorem Rooted.afterEvent (settled : c.Settled) (rooted : c.Rooted) (event : Event) :
    (c.afterEvent event).Rooted := by
  cases event with
  | call call => exact rooted.outcome settled (afterCall_outcome call settled.tidy.quiet)
  | restart channel clock =>
      intro key block found
      cases found
  | surround channel clock faults => exact rooted

/-- The controller is settled, and its verified blocks stand on a chain. -/
structure Based (c : Controller) : Prop where
  settled : c.Settled
  rooted : c.Rooted

theorem based_ofBackend {b : Backend} (sound : b.table.Sound) (channel : Channel) (clock : Clock) :
    (ofBackend b channel clock).Based := by
  refine ⟨⟨tidy_ofBackend b channel clock, sound⟩, ?_⟩
  intro key block found
  cases found

theorem Based.leads (based : c.Based) (leads : c.Leads d) : d.Based := by
  obtain ⟨events, orderly, rfl⟩ := leads
  refine follow_induction (fun c event ordered based => ?_) orderly based
  exact ⟨based.settled.afterEvent ordered, based.rooted.afterEvent based.settled event⟩

theorem Reached.based (reached : c.Reached) : c.Based := by
  obtain ⟨b, channel, clock, events, empty, orderly, rfl⟩ := reached
  exact (based_ofBackend (Or.inl empty) channel clock).leads ⟨events, orderly, rfl⟩

/-- Whatever can be found stands on a chain that has been set up. -/
theorem Based.marker_of_find {id : BlockId} {block : Block} (based : c.Based)
    (found : c.find id = .ok block) : (c.table.get? Key.initialized).isSome :=
  Controller.marker_of_find based.settled based.rooted found

end TimestampChain.Controller
