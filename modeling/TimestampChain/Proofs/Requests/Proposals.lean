import TimestampChain.Proofs.Controller.PayloadOrder
import TimestampChain.Proofs.Requests.Texts

/-!
# Proposals

To propose a text is to propose the data that it denotes: with the same answer, the same payload at the back
of the queue and the same signal. A text that denotes nothing is refused before anything has happened, and
data that are too long are refused as they are without the detour.
-/

namespace TimestampChain

open TimestampChain.Action TimestampChain.Service

namespace Controller

variable {c d : Controller} {text : String} {data : Bytes} {e : HexError}

theorem propose_of_fitting (fits : data.length ≤ Payload.size) (c : Controller) :
    (propose data).run c = (.ok (), c.proposing (Bytes32.pad data fits)) :=
  propose_of_payload (dif_pos fits) c

theorem propose_of_excess (excess : Payload.size < data.length) (c : Controller) :
    (propose data).run c = (.error (.badPayload data.length Payload.size), c) :=
  propose_of_long (dif_neg (Nat.not_le.mpr excess)) c

theorem service_propose_of_denotes (denoted : Denotes text data) (c : Controller) :
    (Service.propose text).run c =
      (((propose data).run c).1.map fun _ => ⟨true⟩, ((propose data).run c).2) :=
  run_service_propose (decodeText_eq_ok_iff.mpr denoted) c

theorem service_propose_of_unreadable (unreadable : Unreadable text e) (c : Controller) :
    (Service.propose text).run c =
      (.error (.badRequest s!"couldn't decode data: {e.message}"), c) := by
  unfold Service.propose
  rw [decodeText_of_unreadable unreadable]
  rfl

/-- A proposal that is accepted denotes data that fit, and these wait behind all others. -/
theorem exists_of_proposal {reply : ProposalReply}
    (accepted : (Service.propose text).run c = (.ok reply, d)) :
    ∃ data, ∃ fits : data.length ≤ Payload.size, Denotes text data ∧ reply = ⟨true⟩ ∧
      d = c.proposing (Bytes32.pad data fits) := by
  by_cases readable : ∃ data, Denotes text data
  · obtain ⟨data, denoted⟩ := readable
    rw [service_propose_of_denotes denoted] at accepted
    by_cases fits : data.length ≤ Payload.size
    · rw [propose_of_fitting fits] at accepted
      cases accepted
      exact ⟨data, fits, denoted, rfl, rfl⟩
    · rw [propose_of_excess (Nat.lt_of_not_le fits)] at accepted
      cases accepted
  · obtain ⟨e, unreadable⟩ := exists_unreadable readable
    rw [service_propose_of_unreadable unreadable] at accepted
    cases accepted

structure ServesProposals (c : Controller) : Prop where
  encoded : ∀ data, (Service.propose (encodePayload data)).run c =
    (((propose data).run c).1.map fun _ => ⟨true⟩, ((propose data).run c).2)
  recased : ∀ data text, text.toList.map Char.toLower = (encodePayload data).toList →
    (Service.propose text).run c =
      (((propose data).run c).1.map fun _ => ⟨true⟩, ((propose data).run c).2)
  marked : ∀ data text, text.toList.map Char.toLower = (encodePayload data).toList →
    (Service.propose ("0x" ++ text)).run c =
      (((propose data).run c).1.map fun _ => ⟨true⟩, ((propose data).run c).2)
  long : ∀ data, 32 < data.length → (propose data).run c = (.error (.badPayload data.length 32), c)
  short : ∀ data, data.length ≤ 32 → ∃ payload : Payload,
    payload.toBytes = data ++ List.replicate (32 - data.length) 0 ∧
      (propose data).run c = (.ok (), { c with
        mempool := ⟨c.mempool.queue ++ [payload]⟩, channel := c.channel.notify.2 })
  unreadable : ∀ text,
    ¬ ((unmarked text).length % 2 = 0 ∧ ∀ char ∈ unmarked text, Hex.IsDigit char.toNat) →
      ∃ detail, (Service.propose text).run c = (.error (.badRequest detail), c)
  accepted : ∀ text reply d, (Service.propose text).run c = (.ok reply, d) →
    ∃ data, ∃ payload : Payload, Denotes text data ∧
      payload.toBytes = data ++ List.replicate (32 - data.length) 0 ∧
        d.mempool.queue = c.mempool.queue ++ [payload]

/-- Digits of either case, with or without a mark, are as good as the data themselves. -/
theorem proposals_like_data (c : Controller) : c.ServesProposals := by
  constructor
  case encoded => exact fun data => service_propose_of_denotes (denotes_encode data).1 c
  case recased => exact fun data text same => service_propose_of_denotes (denotes_of_recased same).1 c
  case marked => exact fun data text same => service_propose_of_denotes (denotes_of_recased same).2 c
  case long => exact fun data long => propose_of_excess long c
  case short => exact fun data fits => ⟨Bytes32.pad data fits, rfl, propose_of_fitting fits c⟩
  case unreadable =>
    intro text undenoted
    obtain ⟨e, unreadable⟩ := exists_unreadable (mt exists_denotes_iff.mp undenoted)
    exact ⟨_, service_propose_of_unreadable unreadable c⟩
  case accepted =>
    intro text reply d accepted
    obtain ⟨data, fits, denoted, -, rfl⟩ := exists_of_proposal accepted
    exact ⟨data, Bytes32.pad data fits, denoted, rfl, rfl⟩

/-- A byte in digits of both cases behind a mark is queued like the byte, thirty-three bytes are too many
in digits too, and a mark behind a mark is no digit. -/
theorem mixed_digits_queued :
    (Service.propose "0xaB").run Sample.start =
        (.ok ⟨true⟩, ((propose [171]).run Sample.start).2) ∧
      ((Service.propose "0xaB").run Sample.start).2.mempool.queue = [Sample.payload 171] ∧
      (Service.propose (encodePayload (List.replicate 33 1))).run Sample.start =
        (.error (.badPayload 33 32), Sample.start) ∧
      ∃ detail, (Service.propose "0x0xab").run Sample.start =
        (.error (.badRequest detail), Sample.start) := by
  have serves := proposals_like_data Sample.start
  have queued := serves.marked [171] "aB" (by decide +kernel)
  obtain ⟨payload, filled, run⟩ := serves.short [171] (by decide)
  have named : payload = Sample.payload 171 := Bytes32.ext filled
  have long := serves.encoded (List.replicate 33 1)
  rw [serves.long _ (by decide)] at long
  rw [run] at queued
  have stray : 'x' ∈ Service.unmarked "0x0xab" := by decide +kernel
  have undenoted := serves.unreadable "0x0xab" fun digits => absurd (digits.2 'x' stray) (by decide)
  refine ⟨queued.trans (by rw [run]; rfl), ?_, long, undenoted⟩
  rw [show "0xaB" = "0x" ++ "aB" from rfl, queued, named]
  rfl

end Controller

end TimestampChain
