/-!
# Work signals

The channel on which the controller tells an engine that work is pending. A signal carries no more
than that, so one that finds the channel full is dropped. A channel without room delivers nothing.
-/

namespace TimestampChain

inductive Received where
  | signal
  | nothing
  | disconnected
deriving DecidableEq

/-- A bounded channel: its room, the signals that wait, the live senders, and whether there is a
receiver. -/
structure Channel where
  depth : Nat
  waiting : Nat
  senders : Nat
  receiving : Bool
  waiting_le : waiting ≤ depth

namespace Channel

def ofDepth (depth : Nat) : Channel := ⟨depth, 0, 1, true, Nat.zero_le _⟩

def defaultDepth : Nat := 1

/-- Send a signal without waiting, and tell whether it was delivered. -/
def notify (c : Channel) : Bool × Channel :=
  if h : c.receiving = true ∧ c.waiting < c.depth then
    (true, { c with waiting := c.waiting + 1, waiting_le := h.2 })
  else (false, c)

/-- Look for a signal without waiting. Signals outlive their senders. -/
def receive (c : Channel) : Received × Channel :=
  if 0 < c.waiting then
    (.signal, { c with
      waiting := c.waiting - 1
      waiting_le := Nat.le_trans (Nat.sub_le _ _) c.waiting_le })
  else if c.senders = 0 then (.disconnected, c)
  else (.nothing, c)

def addSender (c : Channel) : Channel := { c with senders := c.senders + 1 }

def dropSender (c : Channel) : Channel := { c with senders := c.senders - 1 }

/-- Drop the receiver. What waited is lost. -/
def dropReceiver (c : Channel) : Channel :=
  { c with waiting := 0, receiving := false, waiting_le := Nat.zero_le _ }

def takeAll (c : Channel) : Nat × Channel :=
  (c.waiting, { c with waiting := 0, waiting_le := Nat.zero_le _ })

/-! ## Laws -/

theorem notify_fst_iff (c : Channel) :
    c.notify.1 = true ↔ c.receiving = true ∧ c.waiting < c.depth := by
  unfold notify
  split <;> simp_all

theorem waiting_notify (c : Channel) :
    c.notify.2.waiting = if c.notify.1 then c.waiting + 1 else c.waiting := by
  unfold notify
  split <;> simp

@[simp] theorem depth_notify (c : Channel) : c.notify.2.depth = c.depth := by
  unfold notify
  split <;> rfl

@[simp] theorem receiving_notify (c : Channel) : c.notify.2.receiving = c.receiving := by
  unfold notify
  split <;> rfl

@[simp] theorem senders_notify (c : Channel) : c.notify.2.senders = c.senders := by
  unfold notify
  split <;> rfl

theorem waiting_notify_pos {c : Channel} (receiving : c.receiving = true) (room : 0 < c.depth) :
    0 < c.notify.2.waiting := by
  rw [waiting_notify]
  split
  · omega
  · next lost =>
    have full : ¬ c.waiting < c.depth := fun less => lost (c.notify_fst_iff.mpr ⟨receiving, less⟩)
    omega

theorem receive_fst_eq_signal_iff (c : Channel) : c.receive.1 = .signal ↔ 0 < c.waiting := by
  unfold receive
  split
  · simp_all
  · split <;> simp_all

theorem receive_fst_eq_disconnected_iff (c : Channel) :
    c.receive.1 = .disconnected ↔ c.waiting = 0 ∧ c.senders = 0 := by
  unfold receive
  split
  · next waits => exact iff_of_false nofun fun none => by omega
  · next silent =>
    split
    · next gone => exact iff_of_true rfl ⟨by omega, gone⟩
    · next there => exact iff_of_false nofun fun none => there none.2

@[simp] theorem waiting_receive (c : Channel) : c.receive.2.waiting = c.waiting - 1 := by
  unfold receive
  split
  · rfl
  · have none_waits : c.waiting = 0 := by omega
    split <;> simp [none_waits]

@[simp] theorem depth_receive (c : Channel) : c.receive.2.depth = c.depth := by
  unfold receive
  split
  · rfl
  · split <;> rfl

@[simp] theorem receiving_receive (c : Channel) : c.receive.2.receiving = c.receiving := by
  unfold receive
  split
  · rfl
  · split <;> rfl

@[simp] theorem senders_receive (c : Channel) : c.receive.2.senders = c.senders := by
  unfold receive
  split
  · rfl
  · split <;> rfl

theorem receive_of_silent {c : Channel} (silent : c.waiting = 0) :
    c.receive.1 ≠ .signal ∧ c.receive.2 = c := by
  constructor
  · rw [ne_eq, receive_fst_eq_signal_iff]
    omega
  · unfold receive
    rw [if_neg (by omega)]
    split <;> rfl

end Channel

/-! ## Several senders -/

/-- A channel with numbered senders, each live or dropped. -/
structure Endpoints where
  channel : Channel
  live : List Bool

namespace Endpoints

def ofDepth (depth : Nat) : Endpoints := ⟨Channel.ofDepth depth, [true]⟩

def isLive (e : Endpoints) (sender : Nat) : Bool := e.live.getD sender false

def notify (e : Endpoints) (sender : Nat) : Option Bool × Endpoints :=
  if e.isLive sender then
    let (delivered, channel) := e.channel.notify
    (some delivered, { e with channel := channel })
  else (none, e)

/-- Copy a sender, and tell the number of the copy. The copy of a dropped sender is dropped. -/
def clone (e : Endpoints) (sender : Nat) : Nat × Endpoints :=
  if e.isLive sender then (e.live.length, ⟨e.channel.addSender, e.live ++ [true]⟩)
  else (e.live.length, { e with live := e.live ++ [false] })

def drop (e : Endpoints) (sender : Nat) : Endpoints :=
  if e.isLive sender then ⟨e.channel.dropSender, e.live.set sender false⟩ else e

/-- Look for a signal. Without a receiver there is nobody to look. -/
def receive (e : Endpoints) : Option Received × Endpoints :=
  if e.channel.receiving then
    let (received, channel) := e.channel.receive
    (some received, { e with channel := channel })
  else (none, e)

def dropReceiver (e : Endpoints) : Endpoints := { e with channel := e.channel.dropReceiver }

end Endpoints

end TimestampChain
