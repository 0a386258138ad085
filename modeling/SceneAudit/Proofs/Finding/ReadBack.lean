import SceneAudit.Proofs.Csv.Grammar
import SceneAudit.Proofs.Reference
import SceneAudit.Proofs.Run.Reading
import SceneAudit.Proofs.Run.Writing

/-!
# Reading the report back

The text of a report gives its findings back, whatever commas, quotes and line ends are in
their paths and reasons (`reportText_readsBack`): read as comma-separated rows it has one
row of four fields for each finding, in order, and the fields of a row determine the
finding (`ofColumns?_columns`).

An empty first field stands for an absent guid, so no guid may be empty; none that a
sidecar gives is (`hasNoEmptyGuid_of_mem_findingsOf`).

The text of some findings and more is the text of these behind the text of those, so a
report that is appended to stays a report, of all findings so far (`kept_of_writeReports`).
-/

namespace SceneAudit

/-! ## A finding from its row -/

/-- The verdict with a label and a reason; only an inconclusive one has a reason. -/
def Verdict.ofLabel? (category reason : String) : Option Verdict :=
  if category = "inconclusive" then some (.inconclusive reason)
  else if reason ≠ "" then none
  else if category = "never_instantiated" then some .neverInstantiated
  else if category = "no_exposed_state" then some .noExposedState
  else none

/-- The finding that a row of four fields stands for. -/
def Finding.ofColumns? : List String → Option Finding
  | [guid, path, category, reason] =>
    (Verdict.ofLabel? category reason).map fun verdict =>
      ⟨if guid = "" then none else some ⟨guid⟩, ⟨path⟩, verdict⟩
  | _ => none

/-- A guid that is given is not empty. -/
def Finding.HasNoEmptyGuid (finding : Finding) : Prop :=
  ∀ guid ∈ finding.guid, guid.text ≠ ""

instance (finding : Finding) : Decidable finding.HasNoEmptyGuid :=
  inferInstanceAs (Decidable (∀ guid ∈ finding.guid, guid.text ≠ ""))

theorem Verdict.ofLabel?_category (verdict : Verdict) :
    ofLabel? verdict.category (verdict.reason?.getD "") = some verdict := by
  cases verdict with
  | neverInstantiated => decide
  | noExposedState => decide
  | inconclusive reason => rfl

/-- A finding is recovered from its columns. -/
theorem Finding.ofColumns?_columns {finding : Finding} (hguid : finding.HasNoEmptyGuid) :
    ofColumns? finding.columns = some finding := by
  obtain ⟨guid, path, verdict⟩ := finding
  unfold columns ofColumns?
  simp only [Verdict.ofLabel?_category, Option.map_some]
  cases guid with
  | none => rfl
  | some guid =>
      have hne : guid.text ≠ "" := hguid guid rfl
      simp [hne]

/-! ## Findings from a text -/

/-- The row has four fields and stands for the finding. -/
structure Finding.IsRow (row : List String) (finding : Finding) : Prop where
  length : row.length = 4
  recovered : ofColumns? row = some finding

/-- As comma-separated rows the text can be read in one way only, and then its rows stand for
the findings, one after the other. -/
def ReadsBack (text : String) (findings : List Finding) : Prop :=
  ∃ rows, (∀ other, Csv.IsText text.toList other ↔ other = rows) ∧
    List.Forall₂ Finding.IsRow rows findings

/-- A text does not stand for two lists of findings. -/
theorem ReadsBack.unique {text : String} {findings others : List Finding}
    (h : ReadsBack text findings) (hother : ReadsBack text others) : findings = others := by
  obtain ⟨rows, hrows, hfindings⟩ := h
  obtain ⟨rows', hrows', hothers⟩ := hother
  obtain rfl : rows = rows' := (hrows' rows).mp ((hrows rows).mpr rfl)
  have hrecovered : ∀ {found : List Finding}, List.Forall₂ Finding.IsRow rows found →
      rows.map Finding.ofColumns? = found.map some := by
    intro found hfound
    rw [← List.forall₂_eq_eq_eq, List.forall₂_map_left_iff, List.forall₂_map_right_iff]
    exact hfound.imp fun _ _ hrow => hrow.recovered
  exact List.map_injective_iff.mpr (Option.some_injective Finding)
    ((hrecovered hfindings).symm.trans (hrecovered hothers))

theorem readsBack_reportText {findings : List Finding}
    (hguids : ∀ finding ∈ findings, finding.HasNoEmptyGuid) :
    ReadsBack (reportText findings) findings := by
  refine ⟨findings.map Finding.columns, ?_, ?_⟩
  · intro other
    apply Csv.isText_encode_iff
    intro row hrow
    obtain ⟨finding, -, rfl⟩ := List.mem_map.mp hrow
    exact List.cons_ne_nil _ _
  · rw [List.forall₂_map_left_iff, List.forall₂_same]
    intro finding hfinding
    exact ⟨rfl, Finding.ofColumns?_columns (hguids finding hfinding)⟩

theorem reportText_append (findings more : List Finding) :
    reportText (findings ++ more) = reportText findings ++ reportText more := by
  rw [reportText, reportText, reportText, List.map_append, Csv.encode_append]

/-! ## Guids of sidecars -/

theorem Sidecar.guid_of_mem_findingOfAnswer {sidecar : Sidecar} {guid : Guid}
    {answer : OracleAnswer} {finding : Finding} (h : finding ∈ sidecar.findingOfAnswer guid answer) :
    finding.guid = some guid := by
  rcases answer with error | (_ | _)
  · rw [← Option.mem_some_iff.mp h]
  · rw [← Option.mem_some_iff.mp h]
  · exact absurd h (Option.not_mem_none finding)

theorem Sidecar.hasNoEmptyGuid_of_mem_finding? {registry : FrozenRegistry}
    {oracle : Path → OracleAnswer} {path : Path} {text : String} {finding : Finding}
    (h : finding ∈ (ofText path text).finding? registry oracle) : finding.HasNoEmptyGuid := by
  unfold finding? at h
  by_cases hasset : (ofText path text).isScriptAsset = true
  · cases hguid : (ofText path text).guid with
    | unresolved cause =>
        rw [classify_of_unresolved hasset hguid, Option.mem_some_iff] at h
        rw [← h]
        exact fun guid hnone => absurd hnone (Option.not_mem_none guid)
    | resolved guid =>
        have hne : guid.text ≠ "" :=
          Reference.ne_empty_of_guid_eq_resolved ((guid_ofText path text).symm.trans hguid)
        have hgiven : finding.guid = some guid := by
          by_cases hused : registry.contains guid = true
          · rw [classify_of_contains hasset hguid hused] at h
            exact guid_of_mem_findingOfAnswer h
          · rw [classify_of_not_contains hasset hguid hused, Option.mem_some_iff] at h
            rw [← h]
        intro own hown
        rw [hgiven, Option.mem_some_iff] at hown
        rwa [← hown]
  · rw [classify_of_not_isScriptAsset hasset] at h
    exact absurd h (Option.not_mem_none finding)

/-- The guids of findings on sidecars come from their texts. -/
theorem hasNoEmptyGuid_of_mem_findingsOf {registry : FrozenRegistry} {oracle : Path → OracleAnswer}
    {sidecars : List TextFile} {finding : Finding}
    (h : finding ∈ findingsOf registry oracle
      (sidecars.map fun sidecar => Sidecar.ofText sidecar.path sidecar.text)) :
    finding.HasNoEmptyGuid := by
  rw [(findingsOf_perm registry oracle _).mem_iff] at h
  obtain ⟨sidecar, hsidecar, hfinding⟩ := List.mem_filterMap.mp h
  obtain ⟨file, -, rfl⟩ := List.mem_map.mp hsidecar
  exact Sidecar.hasNoEmptyGuid_of_mem_finding? hfinding

/-! ## A report that grows -/

section

open Refusals (kept)

variable {refusals : Refusals} {path : Path}

theorem kept_of_writeReport {tree after : FileTree} {findings : List Finding}
    (h : (Run.writeReport path .append findings : Restricted refusals _).run tree = (.ok (), after)) :
    kept false (after.read path) = kept false (tree.read path) ++ (reportText findings).toUTF8 := by
  rw [Run.run_writeReport, Prod.mk.injEq, Run.reportOutcome_eq_ok_iff] at h
  obtain ⟨hwritten, rfl⟩ := h
  rw [Run.truncates] at hwritten ⊢
  rw [Refusals.read_of_rewritten hwritten]
  rfl

/-- Reports that were appended stand behind what the file held, as the report of all their
findings. -/
theorem kept_of_writeReports {runs : List (List Finding)} {tree after : FileTree}
    {outcomes : List (Except RunError Unit)}
    (hrun : (runs.mapM (Run.writeReport path .append) : Restricted refusals _).run tree =
      (outcomes, after))
    (hok : ∀ outcome ∈ outcomes, outcome = .ok ()) :
    kept false (after.read path) =
      kept false (tree.read path) ++ (reportText runs.flatten).toUTF8 := by
  induction runs generalizing tree outcomes with
  | nil =>
      obtain ⟨-, rfl⟩ := Prod.mk.inj hrun
      exact ByteArray.append_empty.symm
  | cons findings runs ih =>
      rw [List.mapM_cons, Restricted.run_bind, Restricted.run_bind] at hrun
      generalize hfirst : (Run.writeReport path .append findings : Restricted refusals _).run tree =
        first at hrun
      generalize hrest : (runs.mapM (Run.writeReport path .append) : Restricted refusals _).run
        first.2 = rest at hrun
      obtain ⟨rfl, rfl⟩ := Prod.mk.inj hrun
      obtain ⟨hhead, htail⟩ := List.forall_mem_cons.mp hok
      have hmiddle := kept_of_writeReport (hfirst.trans (Prod.ext hhead rfl))
      calc kept false (rest.2.read path)
          _ = kept false (first.2.read path) ++ (reportText runs.flatten).toUTF8 := ih hrest htail
          _ = kept false (tree.read path) ++
                ((reportText findings).toUTF8 ++ (reportText runs.flatten).toUTF8) := by
              rw [hmiddle, ByteArray.append_assoc]
          _ = kept false (tree.read path) ++ (reportText (findings :: runs).flatten).toUTF8 := by
              rw [List.flatten_cons, reportText_append]
              exact congrArg _ String.toByteArray_append.symm

end

/-- What a report says of its findings, and of further ones. -/
structure IsReport (text : String) (findings : List Finding) : Prop where
  readsBack : ReadsBack text findings
  /-- No other findings have the same report. -/
  injective : ∀ others : List Finding, (∀ finding ∈ others, finding.HasNoEmptyGuid) →
    reportText others = text → others = findings
  append : ∀ more, reportText (findings ++ more) = text ++ reportText more
  /-- Where a file holds this report and others are appended, it holds a report of all findings. -/
  grows : ∀ (refusals : Refusals) (path : Path) (tree after : FileTree) (runs : List (List Finding))
    (outcomes : List (Except RunError Unit)),
    Refusals.kept false (tree.read path) = text.toUTF8 →
      (∀ more ∈ runs, ∀ finding ∈ more, finding.HasNoEmptyGuid) →
        (runs.mapM (Run.writeReport path .append) : Restricted refusals _).run tree =
            (outcomes, after) →
          (∀ outcome ∈ outcomes, outcome = .ok ()) →
            ∃ grown, Text.decode (Refusals.kept false (after.read path)) = .ok grown ∧
              ReadsBack grown (findings ++ runs.flatten)

/-- **The report can be read back.**  If no guid is empty, as none of a sidecar is, the text
gives the findings back, and does so in a file that further reports are appended to. -/
theorem reportText_readsBack {findings : List Finding}
    (hguids : ∀ finding ∈ findings, finding.HasNoEmptyGuid) :
    IsReport (reportText findings) findings ∧
      ∀ (registry : FrozenRegistry) (oracle : Path → OracleAnswer) (sidecars : List TextFile),
        ∀ finding ∈ findingsOf registry oracle
            (sidecars.map fun sidecar => Sidecar.ofText sidecar.path sidecar.text),
          finding.HasNoEmptyGuid := by
  refine ⟨⟨readsBack_reportText hguids, ?_, reportText_append findings, ?_⟩, ?_⟩
  · intro others hothers htext
    have hback : ReadsBack (reportText findings) others := by
      rw [← htext]
      exact readsBack_reportText hothers
    exact hback.unique (readsBack_reportText hguids)
  · intro refusals path tree after runs outcomes hheld hmore hrun hok
    have hall : ∀ finding ∈ findings ++ runs.flatten, finding.HasNoEmptyGuid := by
      intro finding hfinding
      rcases List.mem_append.mp hfinding with hfirst | hlater
      · exact hguids finding hfirst
      · obtain ⟨more, hmem, hin⟩ := List.mem_flatten.mp hlater
        exact hmore more hmem finding hin
    refine ⟨reportText (findings ++ runs.flatten), ?_, readsBack_reportText hall⟩
    have hbytes : Refusals.kept false (after.read path) =
        (reportText (findings ++ runs.flatten)).toUTF8 := by
      rw [kept_of_writeReports hrun hok, hheld, reportText_append]
      exact String.toByteArray_append.symm
    rw [hbytes, Text.decode_toUTF8]
  · intro registry oracle sidecars finding hfinding
    exact hasNoEmptyGuid_of_mem_findingsOf hfinding

/-! ## Paths and reasons with separators in them -/

namespace OddNames

/-- The path has a comma and a quote in it, the reason a quote and both line ends. -/
def findings : List Finding :=
  [⟨some ⟨"0fe9"⟩, ⟨"Scripts/A,\"B\".cs.meta"⟩, .neverInstantiated⟩,
    ⟨none, ⟨"Scripts/,.meta"⟩, .inconclusive "said \"no\",\r\nthen\nnothing\r"⟩]

theorem readBack :
    (∀ finding ∈ findings, finding.HasNoEmptyGuid) ∧ IsReport (reportText findings) findings := by
  have hguids : ∀ finding ∈ findings, finding.HasNoEmptyGuid := by decide
  exact ⟨hguids, (reportText_readsBack hguids).1⟩

end OddNames

end SceneAudit
