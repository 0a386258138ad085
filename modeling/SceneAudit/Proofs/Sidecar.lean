import SceneAudit.Proofs.Finding.CrossReference
import SceneAudit.Proofs.Reference.LeftmostMatch
import SceneAudit.Proofs.Text.LineEnding
import Mathlib.Data.List.Induction
import Mathlib.Logic.Relation

/-!
# What is read off a sidecar

A sidecar is read by the lines that do not start with a blank, and of these by two kinds only:
the lines that name the importer of scripts (`IsImporterLine`), of which it matters whether there
is one, and the first `guid:` line (`IsGuidLine`), whether or not a guid can be read from it
(`ofText_isReadOff`).  So a line that starts with a blank can be put in or taken out anywhere, and
an importer line can be moved anywhere (`LineEdit`).

The guid is read from the line as it stands: the blanks at its end, which are cut off first, are
no part of any match (`guid_trimEnd`).
-/

namespace SceneAudit

open Text

/-! ## Blanks at the end of a value -/

namespace Text

theorem exists_blanks_trimEnd (cs : List Char) :
    ∃ blanks, cs = trimEnd cs ++ blanks ∧ ∀ c ∈ blanks, isBlank c = true := by
  refine ⟨(cs.reverse.takeWhile isBlank).reverse, ?_, fun c hc => ?_⟩
  · rw [trimEnd, ← List.reverse_append, List.takeWhile_append_dropWhile, List.reverse_reverse]
  · exact List.mem_takeWhile_imp (List.mem_reverse.mp hc)

theorem trim_append_blanks (cs : List Char) {blanks : List Char}
    (hblanks : ∀ c ∈ blanks, isBlank c = true) : trim (cs ++ blanks) = trim cs := by
  induction blanks using List.reverseRecOn with
  | nil => rw [List.append_nil]
  | append_singleton blanks c ih =>
      rw [← List.append_assoc, trim_concat_of_blank (hblanks c (by simp)),
        ih fun other hother => hblanks other (by simp [hother])]

theorem trim_trimEnd (cs : List Char) : trim (trimEnd cs) = trim cs := by
  obtain ⟨blanks, hsplit, hblanks⟩ := exists_blanks_trimEnd cs
  conv_rhs => rw [hsplit]
  exact (trim_append_blanks _ hblanks).symm

end Text

namespace Reference

/-- A match ends with a hexadecimal digit, so no blank at the end of a text belongs to it. -/
theorem matchesAt_append_blanks_iff {keyword : String} {cs front token blanks : List Char}
    (hblanks : ∀ c ∈ blanks, isBlank c = true) :
    MatchesAt keyword IsHexRun (cs ++ blanks) front token ↔
      MatchesAt keyword IsHexRun cs front token := by
  constructor
  · rintro ⟨written, between, after, hsplit, hwritten, hbetween, htoken⟩
    have hparts : (front ++ (written ++ (between ++ token))) ++ after = cs ++ blanks := by
      simp [hsplit]
    rcases List.append_eq_append_iff.mp hparts with ⟨beyond, hcs, -⟩ | ⟨beyond, hbeyond, hend⟩
    · exact ⟨written, between, beyond, by simp [hcs], hwritten, hbetween, htoken⟩
    · -- what the match has beyond the text is blank, but its last character is a digit
      obtain rfl : beyond = [] := by
        by_contra hne
        obtain ⟨last, hlast⟩ : ∃ last, beyond.getLast? = some last :=
          ⟨_, List.getLast?_eq_some_getLast hne⟩
        have hdigit : token.getLast? = some last := by
          have hends := congrArg List.getLast? hbeyond
          rw [List.getLast?_append_of_ne_nil cs hne, hlast] at hends
          rwa [List.getLast?_append_of_ne_nil _ (by simp [htoken.1]),
            List.getLast?_append_of_ne_nil _ (by simp [htoken.1]),
            List.getLast?_append_of_ne_nil _ htoken.1] at hends
        have hmem : last ∈ token := List.mem_of_getLast? hdigit
        have hblank : isBlank last = true :=
          hblanks last (hend ▸ List.mem_append_left _ (List.mem_of_getLast? hlast))
        rw [isBlank_of_isHexDigit (htoken.2 last hmem)] at hblank
        exact absurd hblank (by simp)
      exact ⟨written, between, [], by simpa using hbeyond.symm, hwritten, hbetween, htoken⟩
  · rintro ⟨written, between, after, rfl, hwritten, hbetween, htoken⟩
    exact ⟨written, between, after ++ blanks, by simp, hwritten, hbetween, htoken⟩

theorem isReadOff_guid (value : Option String) :
    IsReadOff "guid:" IsHexRun Guid.ofText value (guid value) :=
  isReadOff_read readsLongest_hexToken? Guid.ofText value

theorem guid_trimEnd (value : String) :
    guid (some (String.ofList (trimEnd value.toList))) = guid (some value) := by
  obtain ⟨blanks, hsplit, hblanks⟩ := exists_blanks_trimEnd value.toList
  have hmatches : ∀ front token, MatchesAt "guid:" IsHexRun (trimEnd value.toList) front token ↔
      MatchesAt "guid:" IsHexRun value.toList front token := by
    intro front token
    conv_rhs => rw [hsplit]
    exact (matchesAt_append_blanks_iff hblanks).symm
  have hcut := isReadOff_guid (some (String.ofList (trimEnd value.toList)))
  have hwhole := isReadOff_guid (some value)
  cases hguid : guid (some value) with
  | resolved target =>
      obtain ⟨text, htext, front, token, hmatch, htarget⟩ := (hwhole.resolved_iff target).mp hguid
      obtain rfl : value = text := Option.some.inj htext
      refine (hcut.resolved_iff target).mpr ⟨_, rfl, front, token, ⟨?_, ?_, ?_⟩, htarget⟩
      · rw [String.toList_ofList, hmatches]
        exact hmatch.matchesAt
      · intro otherFront other hother
        rw [String.toList_ofList, hmatches] at hother
        exact hmatch.leftmost otherFront other hother
      · intro other hother
        rw [String.toList_ofList, hmatches] at hother
        exact hmatch.longest other hother
  | unresolved cause =>
      cases cause with
      | absent => exact absurd (hwhole.absent_iff.mp hguid) (by simp)
      | noPattern quoted =>
          obtain ⟨text, htext, hnone, rfl⟩ := (hwhole.noPattern_iff quoted).mp hguid
          obtain rfl : value = text := Option.some.inj htext
          refine (hcut.noPattern_iff _).mpr ⟨_, rfl, fun front token hmatch => ?_, ?_⟩
          · rw [String.toList_ofList, hmatches] at hmatch
            exact hnone front token hmatch
          · rw [String.toList_ofList, trim_trimEnd]

end Reference

namespace Sidecar

/-! ## The lines that count -/

/-- A line that does not start with a blank and names the importer of scripts. -/
def IsImporterLine (line : String) : Prop :=
  isIndented line.toList = false ∧ trimEnd line.toList = scriptImporter.toList

/-- A line that starts with `guid:`, and so with no blank. -/
def IsGuidLine (line : String) : Prop :=
  guidKey.toList <+: line.toList

instance (line : String) : Decidable (IsImporterLine line) :=
  inferInstanceAs (Decidable (_ ∧ _))

instance (line : String) : Decidable (IsGuidLine line) :=
  inferInstanceAs (Decidable (_ <+: _))

theorem IsGuidLine.isIndented_eq {line : String} (h : IsGuidLine line) :
    isIndented line.toList = false := by
  obtain ⟨rest, hrest⟩ := h
  rw [← hrest]
  rfl

theorem IsGuidLine.topLevel?_eq {line : String} (h : IsGuidLine line) :
    topLevel? line = some (String.ofList (trimEnd line.toList)) := by
  rw [topLevel?, h.isIndented_eq]
  rfl

theorem IsGuidLine.prefix_trimEnd {line : String} (h : IsGuidLine line) :
    guidKey.toList <+: trimEnd line.toList := by
  obtain ⟨rest, hrest⟩ := h
  have hcolon : trimEnd ("guid".toList ++ ':' :: rest) = "guid".toList ++ ':' :: trimEnd rest :=
    trimEnd_append_cons (by decide) _ _
  exact ⟨trimEnd rest, by rw [← hrest]; exact hcolon.symm⟩

theorem IsImporterLine.not_isGuidLine {line : String} (h : IsImporterLine line) :
    ¬ IsGuidLine line := by
  intro hguid
  have hprefix := hguid.prefix_trimEnd
  rw [h.2] at hprefix
  exact absurd hprefix (by decide)

theorem guidLine?_eq (text : String) :
    guidLine? text = ((lines text).find? fun line => IsGuidLine line).map
      fun line => String.ofList (trimEnd line.toList) := by
  have htest : ∀ line : String,
      (topLevel? line).any (fun line => guidKey.toList.isPrefixOf line.toList) =
        decide (IsGuidLine line) := by
    intro line
    rw [Bool.eq_iff_iff, decide_eq_true_iff]
    constructor
    · intro htop
      obtain ⟨top, htop, hprefix⟩ := (Option.any_eq_true _ _).mp htop
      obtain ⟨-, heq⟩ := Option.ite_none_left_eq_some.mp htop
      rw [← Option.some.inj heq, String.toList_ofList, List.isPrefixOf_iff_prefix] at hprefix
      exact hprefix.trans ( trimEnd_prefix _)
    · intro hguid
      rw [hguid.topLevel?_eq]
      simpa using hguid.prefix_trimEnd
  rw [guidLine?, topLevel, List.find?_filterMap]
  simp only [htest]
  cases hfind : (lines text).find? fun line => IsGuidLine line with
  | none => rfl
  | some line =>
      have hguid : IsGuidLine line := by simpa using List.find?_some hfind
      rw [Option.bind_some, hguid.topLevel?_eq, Option.map_some]

/-- The guid is that of the first `guid:` line. -/
theorem guidOf_eq (text : String) :
    guidOf text = Reference.guid ((lines text).find? fun line => IsGuidLine line) := by
  rw [guidOf, guidLine?_eq]
  cases (lines text).find? fun line => IsGuidLine line with
  | none => rfl
  | some line => exact Reference.guid_trimEnd line

/-! ## Edits that change nothing -/

/-- A line that starts with a blank is put in or taken out, or an importer line is moved. -/
inductive LineEdit : List String → List String → Prop
  | insert {before after : List String} {line : String} (hindented : isIndented line.toList = true) :
      LineEdit (before ++ after) (before ++ line :: after)
  | delete {before after : List String} {line : String} (hindented : isIndented line.toList = true) :
      LineEdit (before ++ line :: after) (before ++ after)
  | move {before after before' after' : List String} {line : String} (himporter : IsImporterLine line)
      (hothers : before ++ after = before' ++ after') :
      LineEdit (before ++ line :: after) (before' ++ line :: after')

theorem not_isGuidLine_of_isIndented {line : String} (h : isIndented line.toList = true) :
    ¬ IsGuidLine line := by
  intro hguid
  rw [hguid.isIndented_eq] at h
  exact absurd h (by simp)

theorem find?_append_cons_of_not {p : String → Bool} {line : String} (hline : p line = false)
    (before after : List String) :
    (before ++ line :: after).find? p = (before ++ after).find? p := by
  rw [List.find?_append, List.find?_append, List.find?_cons_of_neg (by simp [hline])]

variable {old new : List String}

theorem LineEdit.find?_eq (h : LineEdit old new) :
    (new.find? fun line => IsGuidLine line) = old.find? fun line => IsGuidLine line := by
  cases h with
  | insert hindented =>
      exact find?_append_cons_of_not (by simpa using not_isGuidLine_of_isIndented hindented) _ _
  | delete hindented =>
      exact (find?_append_cons_of_not (by simpa using not_isGuidLine_of_isIndented hindented) _ _).symm
  | @move _ _ _ _ line himporter hothers =>
      have hline : decide (IsGuidLine line) = false := by simpa using himporter.not_isGuidLine
      rw [find?_append_cons_of_not hline, find?_append_cons_of_not hline, hothers]

theorem LineEdit.exists_importer_iff (h : LineEdit old new) :
    (∃ line ∈ new, IsImporterLine line) ↔ ∃ line ∈ old, IsImporterLine line := by
  cases h with
  | insert hindented => simp [IsImporterLine, hindented, or_and_right, exists_or]
  | delete hindented => simp [IsImporterLine, hindented, or_and_right, exists_or]
  | move himporter _ => exact iff_of_true ⟨_, by simp, himporter⟩ ⟨_, by simp, himporter⟩

/-- Any number of edits keeps the first `guid:` line and whether there is an importer line. -/
theorem edits_keep (h : Relation.ReflTransGen LineEdit old new) :
    ((new.find? fun line => IsGuidLine line) = old.find? fun line => IsGuidLine line) ∧
      ((∃ line ∈ new, IsImporterLine line) ↔ ∃ line ∈ old, IsImporterLine line) := by
  induction h with
  | refl => exact ⟨rfl, Iff.rfl⟩
  | tail _ hedit ih => exact ⟨hedit.find?_eq.trans ih.1, hedit.exists_importer_iff.trans ih.2⟩

/-! ## What is read -/

/-- What a sidecar at `path` with the given lines must be. -/
structure IsReadOff (path : Path) (lines : List String) (sidecar : Sidecar) : Prop where
  path_eq : sidecar.path = path
  isScriptAsset_iff : sidecar.isScriptAsset = true ↔ ∃ line ∈ lines, IsImporterLine line
  guid_of_first : ∀ before line after, lines = before ++ line :: after →
    (∀ other ∈ before, ¬ IsGuidLine other) → IsGuidLine line →
    sidecar.guid = Reference.guid (some line)
  absent_iff : sidecar.guid = .unresolved .absent ↔ ∀ line ∈ lines, ¬ IsGuidLine line

theorem isReadOff_ofText (path : Path) (text : String) :
    IsReadOff path (lines text) (ofText path text) where
  path_eq := path_ofText path text
  isScriptAsset_iff := isScriptAsset_ofText_iff path text
  guid_of_first before line after hsplit hbefore hline := by
    have hfind : (lines text).find? (fun line => IsGuidLine line) = some line := by
      rw [hsplit, List.find?_append, List.find?_cons_of_pos (by simpa using hline),
        List.find?_eq_none.mpr (by simpa using hbefore), Option.none_or]
    rw [guid_ofText, guidOf_eq, hfind]
  absent_iff := by
    rw [guid_ofText, guidOf_eq, (Reference.isReadOff_guid _).absent_iff]
    simp

/-- **A sidecar is what its top-level lines say**: whether there is an importer line among them,
and the reference in the first `guid:` line.  Lines that start with a blank can come and go, and
the importer line can stand anywhere. -/
theorem ofText_isReadOff (path : Path) (text : String) :
    IsReadOff path (lines text) (ofText path text) ∧
      ∀ other, Relation.ReflTransGen LineEdit (lines text) (lines other) →
        ofText path other = ofText path text := by
  refine ⟨isReadOff_ofText path text, fun other hedits => ?_⟩
  obtain ⟨hfirst, himporter⟩ := edits_keep hedits
  have hguid : (ofText path other).guid = (ofText path text).guid := by
    rw [guid_ofText, guid_ofText, guidOf_eq, guidOf_eq, hfirst]
  have hasset : (ofText path other).isScriptAsset = (ofText path text).isScriptAsset := by
    rw [Bool.eq_iff_iff, isScriptAsset_ofText_iff, isScriptAsset_ofText_iff]
    exact himporter
  exact Sidecar.ext hguid (by rw [path_ofText, path_ofText]) hasset

/-- A `guid:` line that is no good is not passed over for a better one. -/
example : ofText ⟨"Door.cs.meta"⟩ "guid: lost\n  guid: 12\nMonoImporter: \nguid: 34" =
    ⟨.unresolved (.noPattern "guid: lost"), ⟨"Door.cs.meta"⟩, true⟩ := by
  decide

end Sidecar

end SceneAudit
