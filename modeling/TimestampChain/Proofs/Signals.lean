import TimestampChain.Signal

/-!
# Signals of several senders

Any number of senders share a channel, and they may be copied and dropped in any order while the receiver
looks for signals. A signal that finds the channel full is dropped, but then others wait, so whoever has
signalled can rely on the receiver to find a signal. As long as there is a receiver no other signal is lost.
-/

namespace TimestampChain

/-! ## Deeds -/

inductive Deed where
  | notify (sender : Nat)
  | clone (sender : Nat)
  | drop (sender : Nat)
  | receive
  | dropReceiver
deriving DecidableEq

/-- What is seen of a deed. Nothing is told by a sender that has been dropped. -/
inductive Sight where
  | sent (delivered : Option Bool)
  | copied (sender : Nat)
  | received (found : Option Received)
  | done
deriving DecidableEq

namespace Endpoints

variable {e : Endpoints} {deed : Deed} {deeds : List Deed} {sender depth : Nat}

def perform (e : Endpoints) : Deed → Sight × Endpoints
  | .notify sender => (.sent (e.notify sender).1, (e.notify sender).2)
  | .clone sender => (.copied (e.clone sender).1, (e.clone sender).2)
  | .drop sender => (.done, e.drop sender)
  | .receive => (.received e.receive.1, e.receive.2)
  | .dropReceiver => (.done, e.dropReceiver)

def follow (e : Endpoints) (deeds : List Deed) : Endpoints :=
  deeds.foldl (fun e deed => (e.perform deed).2) e

def sights : Endpoints → List Deed → List Sight
  | _, [] => []
  | e, deed :: deeds => (e.perform deed).1 :: (e.perform deed).2.sights deeds

def delivered (e : Endpoints) (deeds : List Deed) : Nat := (e.sights deeds).count (.sent (some true))

def taken (e : Endpoints) (deeds : List Deed) : Nat :=
  (e.sights deeds).count (.received (some .signal))

/-! ## One deed -/

theorem notify_of_live (live : e.isLive sender = true) :
    e.notify sender = (some e.channel.notify.1, { e with channel := e.channel.notify.2 }) :=
  if_pos live

theorem notify_of_dropped (dropped : e.isLive sender = false) : e.notify sender = (none, e) :=
  if_neg (Bool.eq_false_iff.mp dropped)

theorem receive_of_receiving (there : e.channel.receiving = true) :
    e.receive = (some e.channel.receive.1, { e with channel := e.channel.receive.2 }) :=
  if_pos there

theorem receive_of_alone (alone : e.channel.receiving = false) : e.receive = (none, e) :=
  if_neg (Bool.eq_false_iff.mp alone)

def Tallied (e : Endpoints) : Prop := e.channel.senders = e.live.count true

theorem tallied_ofDepth (depth : Nat) : (ofDepth depth).Tallied := rfl

theorem getElem_of_live (live : e.isLive sender = true) :
    ∃ bound : sender < e.live.length, e.live[sender] = true := by
  rw [isLive, List.getD_eq_getElem?_getD] at live
  cases found : e.live[sender]? with
  | none =>
      rw [found] at live
      cases live
  | some there =>
      rw [found] at live
      obtain ⟨bound, here⟩ := List.getElem?_eq_some_iff.mp found
      exact ⟨bound, here.trans live⟩

theorem not_live_of_tallied (tallied : e.Tallied) :
    e.channel.senders = 0 ↔ ∀ sender, e.isLive sender = false := by
  rw [tallied, List.count_eq_zero]
  constructor
  · intro none sender
    cases live : e.isLive sender with
    | false => rfl
    | true =>
        obtain ⟨bound, here⟩ := getElem_of_live live
        exact absurd (here ▸ List.getElem_mem bound) none
  · intro none member
    obtain ⟨sender, bound, here⟩ := List.mem_iff_getElem.mp member
    have live : e.isLive sender = true := by
      rw [isLive, List.getD_eq_getElem?_getD, List.getElem?_eq_getElem bound, here]
      rfl
    rw [none sender] at live
    cases live

theorem Tallied.clone (tallied : e.Tallied) (sender : Nat) : (e.clone sender).2.Tallied := by
  unfold Endpoints.clone
  split
  · have counted : e.channel.senders + 1 = (e.live ++ [true]).count true := by
      rw [List.count_append, tallied]
      rfl
    exact counted
  · have counted : e.channel.senders = (e.live ++ [false]).count true := by
      rw [List.count_append, tallied]
      rfl
    exact counted

theorem Tallied.drop (tallied : e.Tallied) (sender : Nat) : (e.drop sender).Tallied := by
  unfold Endpoints.drop
  split
  · next live =>
    obtain ⟨bound, here⟩ := getElem_of_live live
    have counted : e.channel.senders - 1 = (e.live.set sender false).count true := by
      rw [List.count_set bound, here, tallied]
      rfl
    exact counted
  · exact tallied

/-- What a deed does to the channel, whoever does it. The balance of a deed is that every signal that waits
behind it has been waiting or has just been delivered, unless it has been received. -/
structure Handles (e : Endpoints) (deed : Deed) : Prop where
  depth : (e.perform deed).2.channel.depth = e.channel.depth
  receiving : deed ≠ .dropReceiver → (e.perform deed).2.channel.receiving = e.channel.receiving
  alone : e.channel.receiving = false → (e.perform deed).2.channel.receiving = false
  tallied : e.Tallied → (e.perform deed).2.Tallied
  balance : deed ≠ .dropReceiver →
    e.channel.waiting + [(e.perform deed).1].count (.sent (some true)) =
      [(e.perform deed).1].count (.received (some .signal)) + (e.perform deed).2.channel.waiting

theorem handles_notify (e : Endpoints) (sender : Nat) : e.Handles (.notify sender) := by
  cases live : e.isLive sender with
  | false =>
      have same : e.perform (.notify sender) = (.sent none, e) := by
        rw [perform, notify_of_dropped live]
      constructor <;> simp [same]
  | true =>
      have sent : e.perform (.notify sender) =
          (.sent (some e.channel.notify.1), { e with channel := e.channel.notify.2 }) := by
        rw [perform, notify_of_live live]
      have waiting := e.channel.waiting_notify
      constructor
      case balance =>
        intro
        rw [sent, waiting]
        cases e.channel.notify.1 <;> simp
      all_goals simp [sent, Tallied]

theorem handles_receive (e : Endpoints) : e.Handles .receive := by
  cases there : e.channel.receiving with
  | false =>
      have same : e.perform .receive = (.received none, e) := by
        rw [perform, receive_of_alone there]
      constructor <;> simp [same]
  | true =>
      have looked : e.perform .receive =
          (.received (some e.channel.receive.1), { e with channel := e.channel.receive.2 }) := by
        rw [perform, receive_of_receiving there]
      have found := e.channel.receive_fst_eq_signal_iff
      constructor
      case balance =>
        intro
        rw [looked]
        by_cases waits : 0 < e.channel.waiting
        · simp [found.mpr waits]
          omega
        · simp [mt found.mp waits]
          omega
      all_goals simp [looked, Tallied, there]

theorem handles (e : Endpoints) (deed : Deed) : e.Handles deed := by
  cases deed with
  | notify sender => exact handles_notify e sender
  | receive => exact handles_receive e
  | clone sender =>
      constructor
      case tallied => exact fun tallied => tallied.clone sender
      all_goals
        simp only [perform, Endpoints.clone]
        split <;> simp [Channel.addSender]
  | drop sender =>
      constructor
      case tallied => exact fun tallied => tallied.drop sender
      all_goals
        simp only [perform, Endpoints.drop]
        split <;> simp [Channel.dropSender]
  | dropReceiver =>
      constructor <;> simp [perform, dropReceiver, Channel.dropReceiver, Tallied]

/-! ## Deeds one after another -/

/-- What every one of the deeds keeps holds behind all of them. -/
theorem follow_invariant {P : Endpoints → Prop}
    (keeps : ∀ deed ∈ deeds, ∀ e, P e → P (e.perform deed).2) (start : P e) : P (e.follow deeds) := by
  induction deeds generalizing e with
  | nil => exact start
  | cons deed deeds ih =>
      obtain ⟨here, later⟩ := List.forall_mem_cons.mp keeps
      exact ih later (here e start)

theorem depth_follow (deeds : List Deed) (e : Endpoints) :
    (e.follow deeds).channel.depth = e.channel.depth :=
  follow_invariant (fun deed _ e' same => (e'.handles deed).depth.trans same) rfl

theorem Tallied.follow (tallied : e.Tallied) (deeds : List Deed) : (e.follow deeds).Tallied :=
  follow_invariant (fun deed _ e' => (e'.handles deed).tallied) tallied

theorem receiving_follow (kept : .dropReceiver ∉ deeds) :
    (e.follow deeds).channel.receiving = e.channel.receiving := by
  refine follow_invariant (P := fun e' => e'.channel.receiving = e.channel.receiving)
    (fun deed member e' same => ?_) rfl
  have here : deed ≠ .dropReceiver := fun dropped => kept (dropped ▸ member)
  exact ((e'.handles deed).receiving here).trans same

theorem alone_follow (alone : e.channel.receiving = false) (deeds : List Deed) :
    (e.follow deeds).channel.receiving = false :=
  follow_invariant (fun deed _ e' => (e'.handles deed).alone) alone

theorem alone_of_dropped (dropped : .dropReceiver ∈ deeds) (e : Endpoints) :
    (e.follow deeds).channel.receiving = false := by
  induction deeds generalizing e with
  | nil => cases dropped
  | cons deed deeds ih =>
      rcases List.mem_cons.mp dropped with rfl | later
      · exact alone_follow rfl deeds
      · exact ih later _

/-- The receiver is there as long as it has not been dropped. -/
theorem receiving_follow_iff (depth : Nat) (deeds : List Deed) :
    ((ofDepth depth).follow deeds).channel.receiving = true ↔ .dropReceiver ∉ deeds := by
  constructor
  · intro there dropped
    rw [alone_of_dropped dropped] at there
    cases there
  · exact fun kept => receiving_follow kept

/-- While there is a receiver, what waits is what has been delivered and not been received. -/
theorem waiting_follow (kept : .dropReceiver ∉ deeds) (e : Endpoints) :
    e.channel.waiting + e.delivered deeds = e.taken deeds + (e.follow deeds).channel.waiting := by
  induction deeds generalizing e with
  | nil => exact Nat.add_comm _ _
  | cons deed deeds ih =>
      have now := (e.handles deed).balance (Ne.symm (List.ne_of_not_mem_cons kept))
      have behind := ih (List.not_mem_of_not_mem_cons kept) (e.perform deed).2
      have split (sight : Sight) : (e.sights (deed :: deeds)).count sight =
          [(e.perform deed).1].count sight + ((e.perform deed).2.sights deeds).count sight := by
        change ([(e.perform deed).1] ++ (e.perform deed).2.sights deeds).count sight = _
        exact List.count_append
      unfold delivered taken at behind ⊢
      rw [split, split]
      change _ = _ + ((e.perform deed).2.follow deeds).channel.waiting
      omega

/-! ## What a signal is good for -/

theorem perform_ne_received (unlooked : deed ≠ .receive) (e : Endpoints) (found : Option Received) :
    (e.perform deed).1 ≠ .received found := by
  cases deed with
  | receive => exact absurd rfl unlooked
  | notify sender => exact nofun
  | clone sender => exact nofun
  | drop sender => exact nofun
  | dropReceiver => exact nofun

/-- Signals that wait are there until the receiver looks. -/
theorem waiting_le_follow (unlooked : ∀ deed ∈ deeds, deed ≠ .receive ∧ deed ≠ .dropReceiver)
    (e : Endpoints) : e.channel.waiting ≤ (e.follow deeds).channel.waiting := by
  refine follow_invariant (P := fun e' => e.channel.waiting ≤ e'.channel.waiting)
    (fun deed member e' waits => ?_) (Nat.le_refl _)
  obtain ⟨unlooked, kept⟩ := unlooked deed member
  have untaken : [(e'.perform deed).1].count (.received (some .signal)) = 0 :=
    List.count_eq_zero.mpr fun seen =>
      perform_ne_received unlooked e' _ (List.mem_singleton.mp seen).symm
  have now := (e'.handles deed).balance kept
  omega

/-- Behind a signal, delivered or not, the receiver finds one when it looks next. -/
theorem receive_of_notified (live : e.isLive sender = true) (there : e.channel.receiving = true)
    (room : 0 < e.channel.depth) (unlooked : ∀ deed ∈ deeds, deed ≠ .receive ∧ deed ≠ .dropReceiver) :
    ((e.notify sender).2.follow deeds).receive.1 = some .signal := by
  have kept : .dropReceiver ∉ deeds := fun dropped => (unlooked _ dropped).2 rfl
  have waits : 0 < (e.notify sender).2.channel.waiting := by
    rw [notify_of_live live]
    exact Channel.waiting_notify_pos there room
  have there' : (e.notify sender).2.channel.receiving = true := by
    rw [notify_of_live live]
    exact (Channel.receiving_notify _).trans there
  rw [receive_of_receiving ((receiving_follow kept).trans there')]
  have still := waiting_le_follow unlooked (e.notify sender).2
  exact congrArg some ((Channel.receive_fst_eq_signal_iff _).mpr (by omega))

/-- What waits outlives its senders: it is received first, and only then is the receiver told that nobody
is left. -/
theorem sights_receive (there : e.channel.receiving = true) (unsent : e.channel.senders = 0) (n : Nat) :
    e.sights (List.replicate n .receive) =
      List.replicate (min n e.channel.waiting) (.received (some .signal)) ++
        List.replicate (n - e.channel.waiting) (.received (some .disconnected)) := by
  induction n generalizing e with
  | zero => simp [sights]
  | succ n ih =>
      have looked : e.perform .receive =
          (.received (some e.channel.receive.1), { e with channel := e.channel.receive.2 }) := by
        rw [perform, receive_of_receiving there]
      have behind := ih (e := (e.perform .receive).2) (by simp [looked, there]) (by simp [looked, unsent])
      rw [List.replicate_succ, sights, behind, looked]
      dsimp only
      rw [Channel.waiting_receive]
      cases waiting : e.channel.waiting with
      | zero =>
          have gone : e.channel.receive.1 = .disconnected :=
            (Channel.receive_fst_eq_disconnected_iff _).mpr ⟨waiting, unsent⟩
          rw [gone, Nat.zero_sub, Nat.min_zero, Nat.min_zero]
          rfl
      | succ k =>
          have found : e.channel.receive.1 = .signal :=
            (Channel.receive_fst_eq_signal_iff _).mpr (by omega)
          rw [found, Nat.add_sub_cancel, Nat.add_min_add_right, Nat.add_sub_add_right]
          rfl

theorem silent_perform (roomless : e.channel.depth = 0) (deed : Deed) :
    (e.perform deed).1 ≠ .sent (some true) ∧ (e.perform deed).1 ≠ .received (some .signal) := by
  have silent : e.channel.waiting = 0 := Nat.le_zero.mp (roomless ▸ e.channel.waiting_le)
  cases deed with
  | notify sender =>
      refine ⟨?_, nofun⟩
      cases live : e.isLive sender with
      | true =>
          rw [perform, notify_of_live live]
          intro sent
          have delivered := (Channel.notify_fst_iff _).mp (Option.some.inj (Sight.sent.inj sent))
          omega
      | false => simp [perform, notify_of_dropped live]
  | receive =>
      refine ⟨nofun, ?_⟩
      cases there : e.channel.receiving with
      | true => simp [perform, receive_of_receiving there, (Channel.receive_of_silent silent).1]
      | false => simp [perform, receive_of_alone there]
  | clone sender => exact ⟨nofun, nofun⟩
  | drop sender => exact ⟨nofun, nofun⟩
  | dropReceiver => exact ⟨nofun, nofun⟩

/-- A channel without room delivers nothing. -/
theorem silent_of_roomless (roomless : e.channel.depth = 0) (deeds : List Deed) :
    .sent (some true) ∉ e.sights deeds ∧ .received (some .signal) ∉ e.sights deeds := by
  induction deeds generalizing e with
  | nil => exact ⟨nofun, nofun⟩
  | cons deed deeds ih =>
      obtain ⟨unsent, unheard⟩ := silent_perform roomless deed
      obtain ⟨unsent', unheard'⟩ := ih ((e.handles deed).depth.trans roomless)
      exact ⟨List.not_mem_cons_of_ne_of_not_mem (Ne.symm unsent) unsent',
        List.not_mem_cons_of_ne_of_not_mem (Ne.symm unheard) unheard'⟩

/-! ## Any order of deeds -/

/-- What the holders of a channel can rely on behind the deeds, whatever these have been. -/
structure Reliable (depth : Nat) (deeds : List Deed) (e : Endpoints) : Prop where
  bounded : e.channel.waiting ≤ depth
  notified : ∀ sender, e.isLive sender = true → ∃ delivered, (e.notify sender).1 = some delivered ∧
    (delivered = true ↔ .dropReceiver ∉ deeds ∧ e.channel.waiting < depth)
  balanced : .dropReceiver ∉ deeds →
    (ofDepth depth).delivered deeds = (ofDepth depth).taken deeds + e.channel.waiting
  roused : 1 ≤ depth → .dropReceiver ∉ deeds → ∀ sender later, e.isLive sender = true →
    (∀ deed ∈ later, deed ≠ .receive ∧ deed ≠ .dropReceiver) →
    ((e.notify sender).2.follow later).receive.1 = some .signal
  outliving : .dropReceiver ∉ deeds → (∀ sender, e.isLive sender = false) → ∀ n,
    e.sights (List.replicate n .receive) =
      List.replicate (min n e.channel.waiting) (.received (some .signal)) ++
        List.replicate (n - e.channel.waiting) (.received (some .disconnected))
  disconnected : .dropReceiver ∉ deeds → (e.receive.1 = some .disconnected ↔
    e.channel.waiting = 0 ∧ ∀ sender, e.isLive sender = false)
  unheard : .dropReceiver ∈ deeds → ∀ sender, (e.notify sender).1 ≠ some true
  roomless : depth = 0 → .sent (some true) ∉ (ofDepth depth).sights deeds ∧
    .received (some .signal) ∉ (ofDepth depth).sights deeds

/-- Whatever senders and receiver do in whatever order, no more signals wait than there is room for, none
is lost that was delivered, and whoever signals is heard when the receiver looks next. -/
theorem signals_reliable (depth : Nat) (deeds : List Deed) :
    Reliable depth deeds ((ofDepth depth).follow deeds) := by
  have room : ((ofDepth depth).follow deeds).channel.depth = depth := depth_follow deeds _
  have tallied := (tallied_ofDepth depth).follow deeds
  have there := receiving_follow_iff depth deeds
  constructor
  case bounded => exact Nat.le_trans (Channel.waiting_le _) (Nat.le_of_eq room)
  case notified =>
    intro sender live
    rw [notify_of_live live]
    refine ⟨_, rfl, ?_⟩
    rw [Channel.notify_fst_iff, there, room]
  case balanced =>
    intro kept
    have balance := waiting_follow kept (ofDepth depth)
    rwa [show (ofDepth depth).channel.waiting = 0 from rfl, Nat.zero_add] at balance
  case roused =>
    intro some_room kept sender later live unlooked
    exact receive_of_notified live (there.mpr kept) (by omega) unlooked
  case outliving =>
    intro kept dropped n
    exact sights_receive (there.mpr kept) ((not_live_of_tallied tallied).mpr dropped) n
  case disconnected =>
    intro kept
    rw [receive_of_receiving (there.mpr kept), Option.some.injEq,
      Channel.receive_fst_eq_disconnected_iff, not_live_of_tallied tallied]
  case unheard =>
    intro dropped sender delivered
    have alone := alone_of_dropped dropped (ofDepth depth)
    cases live : ((ofDepth depth).follow deeds).isLive sender with
    | true =>
        rw [notify_of_live live, Option.some.injEq, Channel.notify_fst_iff, alone] at delivered
        cases delivered.1
    | false =>
        rw [notify_of_dropped live] at delivered
        cases delivered
  case roomless =>
    rintro rfl
    exact silent_of_roomless rfl deeds

/-- A copy signals behind its original. Its signal is dropped, and still the receiver finds one once both
are gone, before it is told that they are. -/
theorem dropped_signal_heard :
    let e := (ofDepth 1).follow [.clone 0, .notify 0]
    (e.notify 1).1 = some false ∧
      ((e.notify 1).2.follow [.drop 0, .drop 1]).receive.1 = some .signal ∧
      ((ofDepth 1).follow [.clone 0, .notify 0, .drop 0, .drop 1]).sights [.receive, .receive] =
        [.received (some .signal), .received (some .disconnected)] := by
  have reliable := signals_reliable 1 [.clone 0, .notify 0]
  have dropped := signals_reliable 1 [.clone 0, .notify 0, .drop 0, .drop 1]
  have live : ((ofDepth 1).follow [.clone 0, .notify 0]).isLive 1 = true := by decide
  have gone : ∀ sender, ((ofDepth 1).follow [.clone 0, .notify 0, .drop 0, .drop 1]).isLive sender =
      false
    | 0 | 1 | _ + 2 => rfl
  obtain ⟨delivered, notified, full⟩ := reliable.notified 1 live
  refine ⟨?_, ?_, ?_⟩
  · rw [notified, Bool.eq_false_iff.mpr fun yes => absurd (full.mp yes).2 (by decide)]
  · exact reliable.roused (by decide) (by decide) 1 [.drop 0, .drop 1] live (by decide)
  · exact dropped.outliving (by decide) gone 2

end Endpoints

end TimestampChain
