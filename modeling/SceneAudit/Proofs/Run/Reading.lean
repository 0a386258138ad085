import SceneAudit.Proofs.Discovery
import SceneAudit.Proofs.Finding.CrossReference
import SceneAudit.Run

/-!
# What a run reads

Sidecars and sources are read when all dumps have been written, and reading changes
nothing: the sidecars and the findings are functions of the tree (`run_sidecarPhase`,
`run_crossReference`).  An oracle that reads the source it is asked about and nothing
else is given by its verdict on what it reads (`Oracle.reading`); the usual one is of
this kind (`Oracle.ofDisk_eq_reading`), and so is one that answers from memory.
-/

namespace SceneAudit

/-! ## Oracles that read the source -/

namespace Oracle

/-- Gives the verdict on the source at the path, as far as it can be read. -/
def reading {m : Type → Type} [Monad m] [Disk m] (judge : Path → Except DiskError String → OracleAnswer)
    (path : Path) : m OracleAnswer := do
  return judge path (← Disk.readText path)

/-- Whether a source exposes a field, by the tree that a parser makes of it. -/
def judgeTree (parser : CSharp.Parser) (path : Path) : Except DiskError String → OracleAnswer
  | .error cause => .error (.unreadable path (.disk cause))
  | .ok source => (exposedFields parser path source).map fun names => !names.isEmpty

theorem hasExposedField_eq_reading {m : Type → Type} [Monad m] [Disk m] (parser : CSharp.Parser) :
    (hasExposedField parser : Path → m OracleAnswer) = reading (judgeTree parser) := by
  funext path
  unfold hasExposedField reading
  congr 1
  funext answer
  cases answer <;> rfl

/-- Whether a source exposes a field, by its outline. -/
def judgeOutline : Path → Except DiskError String → OracleAnswer :=
  judgeTree CSharp.reader

theorem ofDisk_eq_reading {m : Type → Type} [Monad m] [Disk m] :
    (ofDisk : Path → m OracleAnswer) = reading judgeOutline :=
  hasExposedField_eq_reading CSharp.reader

end Oracle

/-! ## Texts -/

theorem Text.decode_toUTF8 (text : String) : decode text.toUTF8 = .ok text := by
  have htext : String.fromUTF8? text.toUTF8 = some text := by
    unfold String.fromUTF8?
    exact dif_pos text.isValidUTF8
  rw [decode, htext]

namespace Refusals

variable (refusals : Refusals) {tree after : FileTree} {path : Path}

def readText (tree : FileTree) (path : Path) : Except DiskError String :=
  (refusals.read tree path).bind fun bytes => (Text.decode bytes).mapError fun _ => .notText

/-- The files among some that are text, as far as the disk lets them be read. -/
def readable (tree : FileTree) (paths : List Path) : List TextFile :=
  paths.filterMap fun path => (refusals.readText tree path).toOption.map (TextFile.mk path)

/-- The outcomes of reading some sidecars. -/
def sidecarOutcomes (tree : FileTree) (paths : List Path) : List (Path × Except DiskError Sidecar) :=
  paths.map fun path => (path, (refusals.readText tree path).map (Sidecar.ofText path))

theorem readText_congr (h : refusals.read after path = refusals.read tree path) :
    refusals.readText after path = refusals.readText tree path := by
  rw [readText, readText, h]

theorem sidecarOutcomes_congr {paths : List Path}
    (h : ∀ path ∈ paths, refusals.read after path = refusals.read tree path) :
    refusals.sidecarOutcomes after paths = refusals.sidecarOutcomes tree paths := by
  apply List.map_congr_left
  intro path hpath
  rw [refusals.readText_congr (h path hpath)]

theorem achieved_sidecarOutcomes (tree : FileTree) (paths : List Path) :
    Run.achieved (refusals.sidecarOutcomes tree paths) =
      (refusals.readable tree paths).map fun sidecar => Sidecar.ofText sidecar.path sidecar.text := by
  unfold Run.achieved sidecarOutcomes readable
  rw [List.filterMap_map, List.map_filterMap]
  apply List.filterMap_congr
  intro path _
  rw [Function.comp_apply]
  cases refusals.readText tree path <;> rfl

theorem mem_readable_iff {paths : List Path} {file : TextFile} :
    file ∈ refusals.readable tree paths ↔
      file.path ∈ paths ∧ refusals.readText tree file.path = .ok file.text := by
  unfold readable
  rw [List.mem_filterMap]
  constructor
  · rintro ⟨path, hpath, hsome⟩
    obtain ⟨text, htext, rfl⟩ := Option.map_eq_some_iff.mp hsome
    refine ⟨hpath, ?_⟩
    cases hread : refusals.readText tree path with
    | error error => simp [hread, Except.toOption] at htext
    | ok read =>
        rw [hread] at htext
        rw [Option.some.inj htext]
  · rintro ⟨hpath, hread⟩
    refine ⟨file.path, hpath, ?_⟩
    rw [hread]
    rfl

end Refusals

/-! ## Findings -/

theorem crossReference_id (registry : FrozenRegistry) (oracle : Path → OracleAnswer)
    (sidecars : List Sidecar) :
    crossReference (m := Id) registry oracle sidecars =
      Finding.sort (sidecars.filterMap (Sidecar.classify (m := Id) registry oracle)) :=
  crossReference_pure (m := Id) registry oracle sidecars

/-- The findings depend on which scripts are used and on the answers about the sources of
script assets. -/
theorem crossReference_congr {registry other : FrozenRegistry} {oracle answers : Path → OracleAnswer}
    {sidecars : List Sidecar} (hregistry : ∀ guid, other.contains guid = registry.contains guid)
    (hanswers : ∀ sidecar ∈ sidecars, sidecar.isScriptAsset = true →
      answers sidecar.sourcePath = oracle sidecar.sourcePath) :
    crossReference (m := Id) other answers sidecars = crossReference (m := Id) registry oracle sidecars := by
  have hclassify : sidecars.filterMap (Sidecar.classify (m := Id) other answers) =
      sidecars.filterMap (Sidecar.classify (m := Id) registry oracle) := by
    apply List.filterMap_congr
    intro sidecar hsidecar
    have hstanding : sidecar.standing other = sidecar.standing registry :=
      Sidecar.standing_congr fun guid _ => hregistry guid
    unfold Sidecar.classify
    rw [hstanding]
    cases hused : sidecar.standing registry with
    | settled => rfl
    | reported finding => rfl
    | used guid =>
        have hasset : sidecar.isScriptAsset = true := by
          by_contra hother
          rw [Sidecar.standing, if_neg hother] at hused
          exact absurd hused (by simp)
        exact congrArg (sidecar.findingOfAnswer guid) (hanswers sidecar hsidecar hasset)
  rw [crossReference_id, crossReference_id, hclassify]

/-! ## Reading changes nothing -/

namespace Restricted

variable {refusals : Refusals}

theorem run_sidecarPhase (sidecars : List Path) (tree : FileTree) :
    (Run.sidecarPhase sidecars : Restricted refusals _).run tree =
      (refusals.sidecarOutcomes tree sidecars, tree) := by
  unfold Run.sidecarPhase
  apply run_mapM
  intro path
  rfl

theorem run_classify (registry : FrozenRegistry) (judge : Path → Except DiskError String → OracleAnswer)
    (sidecar : Sidecar) (tree : FileTree) :
    (sidecar.classify registry (Oracle.reading judge) : Restricted refusals _).run tree =
      (sidecar.classify (m := Id) registry (fun path => judge path (refusals.readText tree path)),
        tree) := by
  unfold Sidecar.classify
  cases sidecar.standing registry with
  | settled => rfl
  | reported finding => rfl
  | used guid => rfl

theorem run_crossReference (registry : FrozenRegistry)
    (judge : Path → Except DiskError String → OracleAnswer) (sidecars : List Sidecar) (tree : FileTree) :
    (crossReference registry (Oracle.reading judge) sidecars : Restricted refusals _).run tree =
      (crossReference (m := Id) registry (fun path => judge path (refusals.readText tree path)) sidecars,
        tree) := by
  unfold crossReference
  rw [run_bind, run_filterMapM fun sidecar => run_classify registry judge sidecar tree]
  exact congrArg (·, tree) (crossReference_id registry _ sidecars).symm

end Restricted

end SceneAudit
