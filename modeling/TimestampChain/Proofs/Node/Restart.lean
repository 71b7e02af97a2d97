import TimestampChain.Proofs.Node.Printing
import TimestampChain.Proofs.Node.Reopening
import TimestampChain.Proofs.Node.Sessions

/-!
# Nodes that are launched again

A node that is launched again over the same database goes on where the one before it has ended. Two
launches print, and leave behind, what a single one does that reads all the lines, provided that the blocks
are built at the same times.
-/

namespace TimestampChain

open TimestampChain.Node

variable {w w₀ w₁ w₂ w' : Workspace} {place : Place} {t : Table Bytes} {tip : Block}
  {settings settings₁ settings₂ : Settings} {lines lines₁ lines₂ : List String}
  {clock clock₁ clock₂ : Clock} {o o₁ o₂ : Outcome}

/-! ## What is printed -/

/-- A node has ended well and printed one block for each line with a payload, in the order of the lines,
one block on another above the tip. -/
structure Outcome.Prints (o : Outcome) (tip : Block) (lines : List String) : Prop where
  ended : o.code = 0 ∧ o.failure = none ∧ o.text = ""
  carries : Carries tip lines o.blocks
  shown : List.Forall₂ Block.ShownBy o.blocks o.blockLines

theorem Node.Carries.prints {transcript : Transcript} (carries : Carries tip lines transcript.blocks)
    (succeeds : transcript.failure = none) : (Outcome.ofTranscript transcript).Prints tip lines := by
  refine ⟨⟨?_, succeeds, rfl⟩, carries, Outcome.shown_blockLines carries.accepted⟩
  rw [Outcome.ofTranscript, succeeds]
  rfl

/-! ## Launches -/

def Input.Reads (input : Bytes) (lines : List String) : Prop :=
  (Input.lines input).map Input.text? = lines.map some

instance (input : Bytes) (lines : List String) : Decidable (Input.Reads input lines) :=
  inferInstanceAs (Decidable (_ = _))

namespace Workspace

/-- A node is launched with settings under which its database is kept, and reads the lines. -/
inductive Launches (w : Workspace) (settings : Settings) (lines : List String) (clock : Clock) :
    Outcome → Workspace → Prop
  | intro {words : List String} {environment : List (String × String)} {input : Bytes}
      (planned : Launch.plan w.file? words environment = .run settings)
      (kept : settings.clearOnStart = false) (named : settings.databasePath ≠ "")
      (reads : Input.Reads input lines) :
      Launches w settings lines clock (w.launch words environment input clock).1
        (w.launch words environment input clock).2

/-- What a launch prints and leaves behind is a matter of the table that it opens. -/
theorem Launches.eq (launches : w.Launches settings lines clock o w')
    (found : w.openDatabase settings.databasePath = (some (place, t), w₀)) :
    o = .ofTranscript (session settings.genesisData lines clock t).1 ∧
      w' = w₀.put place (.directory (some (session settings.genesisData lines clock t).2)) := by
  cases launches with
  | @intro words environment input planned kept named reads =>
      have launched : w.launch words environment input clock =
          w₀.runAt place t settings.genesisData input clock := by
        rw [launch, planned]
        dsimp only
        rw [run, kept, if_neg Bool.false_ne_true]
        dsimp only
        rw [if_neg named, found]
      have reads : (Input.lines input).map Input.text? = lines.map some := reads
      rw [launched, runAt, reads]
      exact ⟨rfl, rfl⟩

/-- Two launches one after another over the same database print together what a single launch with all the
lines prints, and leave the same workspace behind, if its blocks are built at the same times. There must
be room for the blocks, and none may clash with another. Lines that are blank or too long have no effect. -/
theorem launches_join (left : Left t)
    (found : w.openDatabase settings₁.databasePath = (some (place, t), w₀))
    (path : settings₂.databasePath = settings₁.databasePath)
    (short : (Bytes.ofText settings₁.genesisData).length ≤ Payload.size)
    (first : w.Launches settings₁ lines₁ clock₁ o₁ w₁)
    (second : w₁.Launches settings₂ lines₂ clock₂ o₂ w₂)
    (whole : w.Launches settings₁ (lines₁ ++ lines₂) clock o w')
    (agrees₁ : clock₁.Agrees clock (payloads lines₁).length)
    (agrees₂ : clock₂.Agrees (clock.forward (payloads lines₁).length) (payloads lines₂).length)
    (affords : (t.grounded (Bytes.ofText settings₁.genesisData)).Affords clock
      (payloads (lines₁ ++ lines₂))) :
    o.blockLines = o₁.blockLines ++ o₂.blockLines ∧ w' = w₂ ∧
      (∃ tip t', (t.grounded (Bytes.ofText settings₁.genesisData)).storedChain.getLast? = some tip ∧
        o₁.Prints tip lines₁ ∧ o₂.Prints (o₁.blocks.getLastD tip) lines₂ ∧
        o.Prints tip (lines₁ ++ lines₂) ∧
        w'.openDatabase settings₁.databasePath = (some (place, t'), w') ∧ Left t' ∧
        t'.storedChain =
          (t.grounded (Bytes.ofText settings₁.genesisData)).storedChain ++ o.blocks) ∧
      ∀ kept, Sifted (lines₁ ++ lines₂) kept → ∀ o' w'', w.Launches settings₁ kept clock o' w'' →
        o' = o ∧ w'' = w' := by
  obtain ⟨rfl, rfl⟩ := first.eq found
  obtain ⟨rfl, rfl⟩ := whole.eq found
  -- The second launch opens what the first one has left behind.
  have again := openDatabase_again found (session settings₁.genesisData lines₁ clock₁ t).2
  rw [← path] at again
  obtain ⟨rfl, rfl⟩ := second.eq again
  obtain ⟨tip, final, joins⟩ :=
    session_append settings₂.genesisData left.sound (Or.inr short) affords agrees₁ agrees₂
  obtain ⟨succeeds₁, succeeds₂, succeeds⟩ := joins.succeed
  refine ⟨?_, ?_, ⟨tip, _, final, joins.front.prints succeeds₁, joins.back.prints succeeds₂,
    joins.together.prints succeeds, openDatabase_again found _, left.session .., joins.chain⟩, ?_⟩
  · rw [Outcome.blockLines, Outcome.ofTranscript, joins.blocks, List.map_append]
    rfl
  · rw [put_put, joins.table]
  · intro kept sifted o' w'' filtered
    obtain ⟨rfl, rfl⟩ := filtered.eq found
    rw [session_of_sifted sifted]
    exact ⟨rfl, rfl⟩

end Workspace

end TimestampChain

/-! ## Three lines in two launches -/

namespace TimestampChain.Sample

open Node

def environment (genesisData : String) : List (String × String) :=
  [("TSVM_DATABASE_PATH", "d"), ("TSVM_GENESIS_DATA", genesisData)]

def settings (genesisData : String) : Settings :=
  { Settings.default with databasePath := "d", genesisData := genesisData }

def times : Clock := ⟨fun n => 1000 + UInt64.ofNat n, 0⟩

def laterTimes : Clock := times.forward (payloads [" a ", ""]).length

def launched : Outcome × Workspace :=
  (Workspace.ofFiles []).launch [] (environment "") (Bytes.ofText " a \n\n") times

/-- A second launch, which is told to set the chain up in another way. -/
def relaunched : Outcome × Workspace :=
  launched.2.launch [] (environment "other") (Bytes.ofText "b\nc") laterTimes

def launchedOnce : Outcome × Workspace :=
  (Workspace.ofFiles []).launch [] (environment "") (Bytes.ofText " a \n\nb\nc") times

def launchedTersely : Outcome × Workspace :=
  (Workspace.ofFiles []).launch [] (environment "") (Bytes.ofText " a \nb\nc") times

def printed : String :=
  "\x7b\"id\":\"d67035383d5e84eff2161e9718c45874e57c9e71b75dbae769b168c3991fe51c\"," ++
    "\"parent_id\":\"10cc3c382b13ad9246b74708d03528d294522c558727bd2ed4a242bfb7cf0c3f\"," ++
    "\"height\":1,\"timestamp\":1000," ++
    "\"data\":\"6100000000000000000000000000000000000000000000000000000000000000\"," ++
    "\"status\":\"Accepted\"\x7d"

variable {genesisData : String}

theorem planned
    (loaded : Settings.ofSources [SettingSource.ofEnvironment (environment genesisData)] =
      .ok (settings genesisData)) (file? : String → Option String) :
    Launch.plan file? [] (environment genesisData) = .run (settings genesisData) := by
  have filter : LogFilter.check (settings genesisData).logFilter = .ok () := by
    show LogFilter.check Settings.default.logFilter = .ok ()
    decide +kernel
  have unset : (environment genesisData).find? (fun entry => entry.1 = "RUST_LOG") = none := by
    simp [environment]
  have loaded : Settings.load file? [] (environment genesisData) = .ok (settings genesisData) := loaded
  rw [Launch.plan, show Invocation.parse? [] = some (.run []) from rfl]
  dsimp only
  rw [loaded]
  dsimp only
  rw [Launch.goOn, unset]
  dsimp only
  rw [Launch.judge, filter]

theorem launches {input : Bytes} {lines : List String}
    (loaded : Settings.ofSources [SettingSource.ofEnvironment (environment genesisData)] =
      .ok (settings genesisData)) (reads : Input.Reads input lines) (w : Workspace) (clock : Clock) :
    w.Launches (settings genesisData) lines clock
      (w.launch [] (environment genesisData) input clock).1
      (w.launch [] (environment genesisData) input clock).2 := by
  have named : (settings genesisData).databasePath ≠ "" := by
    show "d" ≠ ""
    decide
  exact .intro (planned loaded _) rfl named reads

theorem steps_plain : Place.steps "./d" = [".", "d"] := by
  rw [Place.steps, String.splitOn, if_neg (by decide)]
  rw [String.splitOnAux, if_neg (by decide), if_neg (by decide)]
  rw [String.splitOnAux, if_neg (by decide), if_pos (by decide)]
  dsimp only
  rw [if_pos (by decide)]
  rw [String.splitOnAux, if_neg (by decide), if_neg (by decide)]
  rw [String.splitOnAux, if_pos (by decide)]
  decide +kernel

theorem plain_path : Place.plain "d" = "./d" := by
  have steps : Place.steps "d" = ["d"] := by
    rw [Place.steps, String.splitOn, if_neg (by decide)]
    rw [String.splitOnAux, if_neg (by decide), if_neg (by decide)]
    rw [String.splitOnAux, if_pos (by decide)]
    decide +kernel
  rw [Place.plain, steps]
  decide +kernel

theorem opened : (Workspace.ofFiles []).openDatabase "d" =
    (some (["d"], .empty), (Workspace.ofFiles []).put ["d"] (.directory none)) := by
  have isPath : Place.isPath "./d" = true := by decide +kernel
  have start : Place.start "./d" = [] := by decide +kernel
  have stay : (Workspace.ofFiles []).step? [] "." = some [] := by decide +kernel
  have enter : (Workspace.ofFiles []).step? [] "d" = some ["d"] := by decide +kernel
  have here : (Workspace.ofFiles []).item? [] = some (.directory none) := rfl
  have missing : (Workspace.ofFiles []).item? ["d"] = none := by
    simp [Workspace.item?, Workspace.ofFiles, Place.isGiven]
  have there : ((Workspace.ofFiles []).put ["d"] (.directory none)).item? ["d"] =
      some (.directory none) := by
    rw [Workspace.item?_put, if_pos rfl]
  simp only [Workspace.openDatabase, plain_path, isPath, steps_plain, start, Workspace.enter, stay, enter,
    here, missing, there, if_true]

theorem final : (Table.empty.grounded (Bytes.ofText "")).storedChain.getLast? = some root.asAccepted := by
  have made : Block.genesis (Bytes.ofText "") = .ok root := rfl
  rw [Table.grounded_of_made made, (holdsChain_founding made).storedChain_eq]
  rfl

theorem affords : (Table.empty.grounded (Bytes.ofText "")).Affords times
    (payloads ([" a ", ""] ++ ["b", "c"])) := by
  have made : Block.genesis (Bytes.ofText "") = .ok root := rfl
  intro tip last
  cases final.symm.trans last
  rw [Table.grounded_of_made made]
  decide +kernel

theorem found : (Workspace.ofFiles []).openDatabase (settings "").databasePath =
    (some (["d"], .empty), (Workspace.ofFiles []).put ["d"] (.directory none)) := opened

theorem loaded : Settings.ofSources [SettingSource.ofEnvironment (environment "")] =
    .ok (settings "") := by
  decide +kernel

theorem reads : Input.Reads (Bytes.ofText " a \n\n") [" a ", ""] := by decide +kernel

theorem blockLines_launched : launched.1.blockLines = [printed] := by
  obtain ⟨outcome, -⟩ := (launches loaded reads (Workspace.ofFiles []) times).eq found
  rw [launched, outcome]
  decide +kernel

theorem sifted : Sifted ([" a ", ""] ++ ["b", "c"]) [" a ", "b", "c"] := by
  have silent : Silent "" := ⟨"", ⟨⟨[], [], rfl, nofun, nofun⟩, nofun, nofun⟩, .inl rfl⟩
  exact .keep _ (.drop silent (.keep _ (.keep _ .nil)))

end TimestampChain.Sample

namespace TimestampChain.Workspace

open Node

/-- The second launch goes on where the first one has ended, and the blank line makes no difference. -/
theorem relaunched_joins :
    Sample.launched.1.blockLines = [Sample.printed] ∧
      Sample.launchedOnce.1.blockLines = Sample.printed :: Sample.relaunched.1.blockLines ∧
      Sample.launchedOnce.2 = Sample.relaunched.2 ∧
      Sample.launched.1.Prints Sample.root.asAccepted [" a ", ""] ∧
      Sample.launchedOnce.1.Prints Sample.root.asAccepted ([" a ", ""] ++ ["b", "c"]) ∧
      Sample.launchedTersely.1 = Sample.launchedOnce.1 ∧
      Sample.launchedTersely.2 = Sample.launchedOnce.2 := by
  have loaded' : Settings.ofSources [SettingSource.ofEnvironment (Sample.environment "other")] =
      .ok (Sample.settings "other") := by decide +kernel
  have reads₂ : Input.Reads (Bytes.ofText "b\nc") ["b", "c"] := by decide +kernel
  have reads : Input.Reads (Bytes.ofText " a \n\nb\nc") ([" a ", ""] ++ ["b", "c"]) := by decide +kernel
  have tersely : Input.Reads (Bytes.ofText " a \nb\nc") [" a ", "b", "c"] := by decide +kernel
  have path : (Sample.settings "other").databasePath = (Sample.settings "").databasePath := rfl
  have agrees : Sample.laterTimes.Agrees (Sample.times.forward (payloads [" a ", ""]).length)
      (payloads ["b", "c"]).length := fun _ _ => rfl
  obtain ⟨lines, left, ⟨tip, -, last, first, -, whole, -⟩, spared⟩ :=
    launches_join .none Sample.found path (Nat.zero_le _)
      (Sample.launches Sample.loaded Sample.reads _ Sample.times)
      (Sample.launches loaded' reads₂ _ Sample.laterTimes)
      (Sample.launches Sample.loaded reads _ Sample.times) (fun _ _ => rfl) agrees Sample.affords
  cases Sample.final.symm.trans last
  have lines : Sample.launchedOnce.1.blockLines = Sample.launched.1.blockLines ++
      Sample.relaunched.1.blockLines := lines
  rw [Sample.blockLines_launched] at lines
  exact ⟨Sample.blockLines_launched, lines, left, first, whole,
    spared _ Sample.sifted _ _ (Sample.launches Sample.loaded tersely _ Sample.times)⟩

end TimestampChain.Workspace
