import TimestampChain.Proofs.Frames
import TimestampChain.Proofs.Refusals

/-!
# Payloads and signals that wait

Only queueing and building touch the payloads that wait. Whatever else is asked of a controller, the
same payloads wait in the same order behind it, and the same signals, whether the call succeeds or
fails and whatever the backend holds.
-/

namespace TimestampChain

open TimestampChain.Action

namespace Controller

structure SameWork (c d : Controller) : Prop where
  mempool : d.mempool = c.mempool
  channel : d.channel = c.channel

variable {c d e : Controller}

theorem SameWork.refl (c : Controller) : c.SameWork c := ⟨rfl, rfl⟩

theorem SameWork.trans (first : c.SameWork d) (second : d.SameWork e) : c.SameWork e :=
  ⟨second.mempool.trans first.mempool, second.channel.trans first.channel⟩

instance : Std.Refl SameWork := ⟨SameWork.refl⟩

instance : Trans SameWork SameWork SameWork := ⟨SameWork.trans⟩

theorem SameWork.of_unchanged (same : Unchanged c d) : c.SameWork d := by
  obtain ⟨n, rfl⟩ := same
  exact ⟨rfl, rfl⟩

theorem sameWork_of_unchanged {α : Type} {x : Step α} (h : Keeps Unchanged x) : Keeps SameWork x :=
  fun c => .of_unchanged (h c)

theorem onStore_sameWork {α : Type} (x : ChainState.Step α) : Keeps SameWork (onStore x) :=
  fun _ => ⟨rfl, rfl⟩

theorem setPreference_sameWork (id : BlockId) : Keeps SameWork (setPreference id) :=
  fun _ => ⟨rfl, rfl⟩

theorem setState_sameWork (state : EngineState) : Keeps SameWork (setState state) :=
  fun _ => ⟨rfl, rfl⟩

theorem verify_sameWork (block : Block) : Keeps SameWork (verify block) := by
  intro c
  rcases verify_cases block c with ⟨n, same⟩ | ⟨-, n, done⟩
  · rw [same]
    exact ⟨rfl, rfl⟩
  · rw [done]
    exact ⟨rfl, rfl⟩

theorem reject_sameWork (block : Block) : Keeps SameWork (reject block) := by
  intro c
  obtain ⟨n, same | forgot⟩ := reject_cases block c
  · rw [same]
    exact ⟨rfl, rfl⟩
  · rw [forgot]
    exact ⟨rfl, rfl⟩

/-! ## Accepting -/

theorem checkExtension_sameWork (block : Block) : Keeps SameWork (checkExtension block) := by
  refine Keeps.bind ((sameWork_of_unchanged (getBlock_unchanged _)).mapError _) fun parent => ?_
  refine Keeps.bind (keeps_ofExcept _) fun _ => ?_
  refine Keeps.bind (onStore_sameWork _) fun last => ?_
  split
  · exact keeps_pure _
  · exact keeps_fail _

theorem stageAccept_sameWork (block : Block) : Keeps SameWork (stageAccept block) := by
  have stage : Keeps SameWork (stageLast block) :=
    Keeps.bind (onStore_sameWork _) fun _ => Keeps.bind (onStore_sameWork _) fun _ => keeps_pure _
  refine Keeps.bind (keeps_ofExcept _) fun changed => ?_
  cases changed with
  | false => exact keeps_pure _
  | true =>
      refine Keeps.bind (onStore_sameWork _) fun initialized => ?_
      cases initialized with
      | false => exact stage
      | true => exact Keeps.bind (checkExtension_sameWork block) fun _ => stage

theorem commitAccept_sameWork (block : Block) : Keeps SameWork (commitAccept block) := by
  refine Keeps.bind (stageAccept_sameWork block) fun changed => ?_
  cases changed with
  | false => exact keeps_pure _
  | true => exact Keeps.bind (onStore_sameWork _) fun _ => keeps_pure _

theorem abandon_sameWork {α : Type} (e : ControllerError) : Keeps SameWork (abandon e : Step α) :=
  fun _ => ⟨rfl, rfl⟩

end Controller

namespace Decision

def SameWork (d d' : Decision) : Prop := d.controller.SameWork d'.controller

instance : Std.Refl SameWork := ⟨fun d => .refl d.controller⟩

instance : Trans SameWork SameWork SameWork := ⟨Controller.SameWork.trans⟩

theorem onController_sameWork {α : Type} {x : Controller.Step α} (h : Keeps Controller.SameWork x) :
    Keeps SameWork (onController x) := by
  intro d
  rw [run_onController]
  exact h d.controller

theorem transition_sameWork (target : Status) : Keeps SameWork (transition target) :=
  fun d => .refl d.controller

theorem finishAccept_sameWork : Keeps SameWork finishAccept :=
  Keeps.bind (transition_sameWork .accepted) fun _ => keeps_state fun _ => ⟨rfl, rfl⟩

theorem isStoredElsewhere_sameWork : Keeps SameWork isStoredElsewhere := by
  refine keeps_state fun d => ?_
  split
  · exact onController_sameWork (Controller.onStore_sameWork _) d
  · exact Std.Refl.refl d

theorem accept_sameWork : Keeps SameWork accept := by
  refine Keeps.bind isStoredElsewhere_sameWork fun stored => keeps_state fun d => ?_
  cases stored with
  | true =>
      have forgets : Keeps SameWork (onController (Controller.forget d.block.id)) :=
        fun _ => ⟨rfl, rfl⟩
      exact Keeps.bind (transition_sameWork .accepted) (fun _ => forgets) d
  | false =>
      have commits := onController_sameWork (Controller.commitAccept_sameWork d.block)
      refine Keeps.bind commits.attempt (fun outcome => ?_) d
      split
      · exact finishAccept_sameWork
      · exact keeps_pure _
      · exact onController_sameWork (Controller.abandon_sameWork _)

end Decision

namespace Controller

theorem deciding_sameWork {x : Decision.Step Unit} (h : Keeps Decision.SameWork x) (block : Block) :
    Keeps SameWork (Decision.deciding block x) :=
  fun c => h ⟨block, c⟩

theorem accept_sameWork (block : Block) : Keeps SameWork (accept block) :=
  deciding_sameWork Decision.accept_sameWork block

/-! ## Setting the chain up -/

theorem commitGenesis_sameWork (genesis : Block) : Keeps SameWork (commitGenesis genesis) :=
  Keeps.bind (stageAccept_sameWork genesis) fun _ =>
    Keeps.bind (onStore_sameWork _) fun _ => onStore_sameWork _

theorem initGenesis_sameWork (data : Bytes) : Keeps SameWork (initGenesis data) := by
  refine Keeps.bind (onStore_sameWork _) fun initialized => ?_
  split
  · exact keeps_pure _
  · split
    · exact keeps_fail _
    · refine Keeps.bind (keeps_ofExcept _) fun genesis => ?_
      refine Keeps.bind (commitGenesis_sameWork genesis).attempt fun outcome => ?_
      split
      · exact abandon_sameWork _
      · have finishes := deciding_sameWork Decision.finishAccept_sameWork genesis
        exact Keeps.bind finishes fun _ => keeps_pure _

theorem bootstrap_sameWork (data : Bytes) : Keeps SameWork (bootstrap data) := by
  refine Keeps.bind (initGenesis_sameWork data) fun _ => ?_
  exact Keeps.bind (onStore_sameWork _) fun last => setPreference_sameWork last

end Controller

end TimestampChain
