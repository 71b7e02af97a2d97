import TimestampChain.Proofs.Chain.Lookups
import TimestampChain.Proofs.Engine.Delivery
import TimestampChain.Proofs.Lineage

/-!
# Reading a block wherever it is

A block that is read from its bytes has the digest of these bytes as its identifier. Where it is known, among
the verified blocks or by its record, the known instance is returned, and else a new one. Unless the digest
clashes, both have the fields that the bytes spell, so a block can be read back at any later time.
-/

namespace TimestampChain

open TimestampChain.Action

/-! ## Bytes that cannot be read -/

namespace Contents

variable {bytes : Bytes} {cause : BlockError}

theorem read_error {count : Nat} (failed : read count bytes = .error cause) : cause = .endOfData := by
  unfold read at failed
  split at failed <;> cases failed
  rfl

theorem readUInt16_error (failed : readUInt16 bytes = .error cause) : cause = .endOfData := by
  obtain short | ⟨_, -, done⟩ := bind_eq_error failed
  · exact read_error short
  · cases done

theorem readUInt64_error (failed : readUInt64 bytes = .error cause) : cause = .endOfData := by
  obtain short | ⟨_, -, done⟩ := bind_eq_error failed
  · exact read_error short
  · cases done

theorem readBytes32_error (failed : readBytes32 bytes = .error cause) : cause = .endOfData := by
  unfold readBytes32 at failed
  split at failed <;> cases failed
  rfl

/-- Bytes are no block since they are malformed or of another version. -/
theorem decode_error_cases (failed : decode bytes = .error cause) :
    (∃ detail, cause = .malformed detail) ∨ ∃ version, cause = .unsupportedVersion version := by
  unfold decode at failed
  obtain short | ⟨⟨found, bytes⟩, -, failed⟩ := bind_eq_error failed
  · exact Or.inl ⟨_, readUInt16_error short⟩
  dsimp only at failed
  split at failed
  · cases failed
    exact Or.inr ⟨found, rfl⟩
  obtain short | ⟨⟨parent, bytes⟩, -, failed⟩ := bind_eq_error failed
  · exact Or.inl ⟨_, readBytes32_error short⟩
  obtain short | ⟨⟨height, bytes⟩, -, failed⟩ := bind_eq_error failed
  · exact Or.inl ⟨_, readUInt64_error short⟩
  obtain short | ⟨⟨timestamp, bytes⟩, -, failed⟩ := bind_eq_error failed
  · exact Or.inl ⟨_, readUInt64_error short⟩
  obtain short | ⟨⟨payload, bytes⟩, -, failed⟩ := bind_eq_error failed
  · exact Or.inl ⟨_, readBytes32_error short⟩
  dsimp only at failed
  split at failed <;> cases failed
  exact Or.inl ⟨_, rfl⟩

end Contents

namespace Controller

variable {c : Controller} {id : BlockId} {written : Bytes} {contents : Contents} {block : Block}
  {met : Bytes → Prop}

theorem run_parseBlock_of_undecodable {cause : BlockError}
    (failed : Contents.decode written = .error cause) (c : Controller) :
    (parseBlock written).run c = (.error (.codec cause), c) := by
  rw [parseBlock, Block.parse_eq_error_iff.mpr failed]
  obtain ⟨detail, rfl⟩ | ⟨version, rfl⟩ := Contents.decode_error_cases failed <;> rfl

/-! ## Known blocks -/

def Known (c : Controller) (id : BlockId) : Prop :=
  (c.verified? id).isSome ∨ (c.table.get? (0 :: id.toBytes)).isSome

/-- While every record is that of its block, what is known is found. -/
theorem find_of_known (tidy : c.Tidy) (genuine : c.table.Genuine) (opened : c.store.closed = false)
    (known : c.Known id) : ∃ block, c.find id = .ok block := by
  rcases known with verified | stored
  · obtain ⟨block, there⟩ := Option.isSome_iff_exists.mp verified
    refine ⟨block, ?_⟩
    rw [find, there]
  · obtain ⟨bytes, record⟩ := Option.isSome_iff_exists.mp stored
    obtain ⟨block, rfl, rfl⟩ := genuine id bytes record
    exact ⟨_, find_of_record tidy opened record⟩

theorem find_of_unknown (tidy : c.Tidy) (opened : c.store.closed = false) (unknown : ¬ c.Known id) :
    c.find id = .error (.notFound id) := by
  obtain ⟨unverified, unstored⟩ := not_or.mp unknown
  have unverified := Option.not_isSome_iff_eq_none.mp unverified
  have absent := Option.not_isSome_iff_eq_none.mp unstored
  exact find_of_unrecorded unverified opened tidy.quiet absent

theorem getBlock_of_works (tidy : c.Tidy) (readable : c.store.Readable (Key.block id)) :
    ((getBlock id).run c).1 = c.find id := by
  obtain ⟨opened, works⟩ := readable
  have unstaged : c.store.layers.staged (Key.block id) = none := by
    show c.store.staged.get? _ = none
    rw [tidy.quiet]
    rfl
  exact getBlock_of_readable tidy.quiet opened (works unstaged)

/-- What is read from bytes: the instance that is known under their digest, or a new one. -/
structure Parses (c : Controller) (written : Bytes) (block : Block) : Prop where
  returned : ((parseBlock written).run c).1 = .ok block
  id : block.id = Sha256.hash written
  known : c.Known (Sha256.hash written) → ((getBlock (Sha256.hash written)).run c).1 = .ok block
  fresh : ¬ c.Known (Sha256.hash written) → Block.parse written = .ok block

theorem parses_of_decode (tidy : c.Tidy) (genuine : c.table.Genuine)
    (decoded : Contents.decode written = .ok contents)
    (readable : c.store.Readable (Key.block (Sha256.hash written))) :
    ∃ block, c.Parses written block := by
  have parsed := Block.parse_of_decode decoded
  have named : (Block.ofContents contents).id = Sha256.hash written :=
    congrArg Sha256.hash (Contents.encode_of_decode decoded)
  have looked := getBlock_of_works tidy readable
  have run := congrArg Prod.fst (run_parseBlock parsed c)
  rw [named, looked] at run
  by_cases known : c.Known (Sha256.hash written)
  · obtain ⟨block, found⟩ := find_of_known tidy genuine readable.1 known
    rw [found] at run looked
    exact ⟨block, run, id_of_find tidy found, fun _ => looked, fun unknown => absurd known unknown⟩
  · rw [find_of_unknown tidy readable.1 known] at run
    exact ⟨_, run, named, fun there => absurd there known, fun _ => parsed⟩

/-! ## What is read is what was written -/

theorem Parses.bytes_met (parses : c.Parses written block) (tidy : c.Tidy) (traced : c.Traced met) :
    block.bytes = written ∨ met block.bytes := by
  by_cases known : c.Known (Sha256.hash written)
  · have found := (getBlock_answers _ c).eq_of_ok (parses.known known)
    exact Or.inr (traced.met_of_find tidy found)
  · exact Or.inl (Block.parse_eq_ok_iff.mp (parses.fresh known)).1

/-- Unless the digest clashes, what is returned has the written form that was given. -/
theorem Parses.bytes_eq (parses : c.Parses written block) (tidy : c.Tidy) (traced : c.Traced met)
    (unclashing : Unclashing fun bytes => bytes = written ∨ met bytes) : block.bytes = written :=
  unclashing _ _ (parses.bytes_met tidy traced) (Or.inl rfl) (block.id_eq.symm.trans parses.id)

theorem contents_of_bytes (decoded : Contents.decode written = .ok contents)
    (same : block.bytes = written) : block.contents = contents := by
  rw [← same, block.bytes_eq, Contents.decode_encode] at decoded
  exact Except.ok.inj decoded

structure SameFields (left right : Block) : Prop where
  id : left.id = right.id
  parent : left.parent = right.parent
  height : left.height = right.height
  timestamp : left.timestamp = right.timestamp
  payload : left.payload = right.payload
  bytes : left.bytes = right.bytes

theorem sameFields_of_bytes {left right : Block} (same : left.bytes = right.bytes) :
    SameFields left right := by
  have decoded : Contents.decode right.bytes = .ok right.contents := by
    rw [right.bytes_eq, Contents.decode_encode]
  have contents := contents_of_bytes decoded same
  have id : left.id = right.id := by
    rw [left.id_eq, same, ← right.id_eq]
  exact ⟨id, congrArg Contents.parent contents, congrArg Contents.height contents,
    congrArg Contents.timestamp contents, congrArg Contents.payload contents, same⟩

/-- Behind any events over a backend that started empty, bytes that cannot be read are refused, and all
others are read as the block under their digest, be it known or new. Unless the digest clashes, it has the
contents that the bytes spell, so whatever was built at some time can be read from its bytes ever after. -/
theorem parse_keeps_identity {b : Backend} {channel : Channel} {clock : Clock} {events : List Event}
    (empty : b.table = .empty) (reached : c = (ofBackend b channel clock).follow events) :
    (∀ written cause, Contents.decode written = .error cause →
        ∀ d : Controller, (parseBlock written).run d = (.error (.codec cause), d)) ∧
      (∀ written contents, Contents.decode written = .ok contents →
        c.store.Readable (0 :: (Sha256.hash written).toBytes) →
          ∃ block, c.Parses written block ∧
            (Unclashing (fun bytes => bytes = written ∨ Met b.table events bytes) →
              block.contents = contents ∧ block.bytes = written)) ∧
      ∀ earlier later built, events = earlier ++ .call .build :: later →
        (build.run ((ofBackend b channel clock).follow earlier)).1 = .ok built →
        Unclashing (fun bytes => bytes = built.bytes ∨ Met b.table events bytes) →
        c.store.Readable (0 :: built.id.toBytes) →
          ∃ block, ((parseBlock built.bytes).run c).1 = .ok block ∧ SameFields block built := by
  have tidy : c.Tidy := reached ▸ tidy_follow b channel clock events
  have traced : c.Traced (Met b.table events) := reached ▸ traced_follow b channel clock events
  have genuine : c.table.Genuine := Reachable.genuine ⟨b, channel, clock, events, empty, reached⟩
  refine ⟨fun written cause failed => run_parseBlock_of_undecodable failed, ?_, ?_⟩
  · intro written contents decoded readable
    obtain ⟨block, parses⟩ := parses_of_decode tidy genuine decoded readable
    refine ⟨block, parses, fun unclashing => ?_⟩
    have same := parses.bytes_eq tidy traced unclashing
    exact ⟨contents_of_bytes decoded same, same⟩
  · intro earlier later built split made unclashing readable
    have decoded : Contents.decode built.bytes = .ok built.contents := by
      rw [built.bytes_eq, Contents.decode_encode]
    rw [built.id_eq] at readable
    obtain ⟨block, parses⟩ := parses_of_decode tidy genuine decoded readable
    exact ⟨block, parses.returned, sameFields_of_bytes (parses.bytes_eq tidy traced unclashing)⟩

end Controller

end TimestampChain

/-! ## A block that is read at two moments -/

namespace TimestampChain.Sample

def offspring : Block := genesis.successor (payload 2) 1000

def ancestry : List Event := [.call (.bootstrap [1]), .call (.propose [2])]

def descent : List Event := [
  .call (.verify offspring), .call (.verify sibling), .call (.accept offspring),
  .call (.reject sibling), .restart (.ofDepth 1) (.still 30), .call (.bootstrap [1]),
  .surround (.ofDepth 1) (.still 30) .never]

def course : List Event := ancestry ++ .call .build :: descent

theorem unclashing_course :
    Unclashing fun bytes => bytes = offspring.bytes ∨ Met (Backend.ofTable .empty).table course bytes := by
  have apart : ∀ left ∈ course.flatMap Event.blocks, ∀ right ∈ course.flatMap Event.blocks,
      Sha256.hash left.bytes = Sha256.hash right.bytes → left.bytes = right.bytes := by
    decide +kernel
  have among : offspring ∈ course.flatMap Event.blocks := by decide +kernel
  refine unclashing_of_blocks apart fun bytes met => ?_
  rcases met with rfl | met
  · exact ⟨offspring, among, rfl⟩
  · exact exists_block_of_met met

end TimestampChain.Sample

namespace TimestampChain.Controller

open TimestampChain.Action

/-- Once its block has been accepted and the controller has been started again, what was built is read. -/
theorem offspring_read_back :
    ∃ block, ((parseBlock Sample.offspring.bytes).run (Sample.unset.follow Sample.course)).1 = .ok block ∧
      SameFields block Sample.offspring := by
  have made : (build.run (Sample.unset.follow Sample.ancestry)).1 = .ok Sample.offspring := by
    decide +kernel
  have reached : Sample.unset.follow Sample.course =
      (ofBackend (.ofTable .empty) (.ofDepth 1) (.still 1000)).follow Sample.course := rfl
  obtain ⟨-, -, read⟩ := parse_keeps_identity (b := .ofTable .empty) rfl reached
  have opened : (Sample.unset.follow Sample.course).store.closed = false := by decide +kernel
  exact read Sample.ancestry Sample.descent Sample.offspring rfl made Sample.unclashing_course
    ⟨opened, fun _ => rfl⟩

end TimestampChain.Controller
