import SceneAudit.Proofs.Text.LetterCase
import SceneAudit.Proofs.Text.Trim
import SceneAudit.Reference

/-!
# Reading references as they are written

Reading looks for the leftmost place where a keyword, blanks and a token match.
Where nothing in front can be taken for the start of the keyword, this is the
place where the keyword stands (`leftmost?_append`).  So the file identifier is
found behind `fileID: ` and the guid behind `guid: `, whatever follows the token
and cannot be read as a part of it.
-/

namespace SceneAudit

open Text

/-! ## ASCII digits -/

namespace Text

variable {c : Char}

theorem toNat_of_isDigit (h : c.isDigit = true) : 48 ≤ c.toNat ∧ c.toNat ≤ 57 := by
  simp only [Char.isDigit, Bool.and_eq_true, decide_eq_true_eq] at h
  exact ⟨UInt32.le_iff_toNat_le.mp h.1, UInt32.le_iff_toNat_le.mp h.2⟩

theorem isBlank_of_isDigit (h : c.isDigit = true) : isBlank c = false := by
  obtain ⟨hlow, hhigh⟩ := toNat_of_isDigit h
  simp only [isBlank, Bool.or_eq_false_iff, Bool.and_eq_false_iff, decide_eq_false_iff_not,
    beq_eq_false_iff_ne]
  omega

theorem toLower_of_isDigit (h : c.isDigit = true) : c.toLower = c :=
  toLower_of_isDecimalDigit (isDecimalDigit_of_isDigit h)

/-- At least one ASCII digit and nothing else. -/
def IsPlainRun (cs : List Char) : Prop :=
  cs ≠ [] ∧ ∀ c ∈ cs, c.isDigit = true

instance (cs : List Char) : Decidable (IsPlainRun cs) :=
  decidable_of_iff ((!cs.isEmpty && cs.all Char.isDigit) = true) (by simp [IsPlainRun])

/-- A run of ASCII digits, with or without a minus sign in front. -/
def IsPlainNumeral (cs : List Char) : Prop :=
  IsPlainRun cs ∨ cs.head? = some '-' ∧ IsPlainRun cs.tail

instance (cs : List Char) : Decidable (IsPlainNumeral cs) :=
  inferInstanceAs (Decidable (_ ∨ _ ∧ _))

theorem IsPlainRun.isDigitRun {cs : List Char} (h : IsPlainRun cs) : IsDigitRun cs :=
  ⟨h.1, fun c hc => isDecimalDigit_of_isDigit (h.2 c hc)⟩

theorem IsPlainNumeral.isNumeral {cs : List Char} (h : IsPlainNumeral cs) : IsNumeral cs := by
  rcases h with hrun | ⟨hminus, hrun⟩
  · exact .inl hrun.isDigitRun
  · obtain ⟨run, rfl⟩ := List.head?_eq_some_iff.mp hminus
    exact .inr ⟨run, rfl, hrun.isDigitRun⟩

theorem IsPlainNumeral.minus_or_isDigit {cs : List Char} (h : IsPlainNumeral cs) :
    ∀ c ∈ cs, c = '-' ∨ c.isDigit = true := by
  intro c hc
  rcases h with hrun | ⟨hminus, hrun⟩
  · exact .inr (hrun.2 c hc)
  · obtain ⟨run, rfl⟩ := List.head?_eq_some_iff.mp hminus
    exact (List.mem_cons.mp hc).imp_right (hrun.2 c)

theorem IsPlainNumeral.isBlank_eq_false {cs : List Char} (h : IsPlainNumeral cs) :
    ∀ c ∈ cs, isBlank c = false := by
  intro c hc
  rcases h.minus_or_isDigit c hc with rfl | hdigit
  · decide
  · exact isBlank_of_isDigit hdigit

theorem IsPlainNumeral.toLower_eq {cs : List Char} (h : IsPlainNumeral cs) :
    ∀ c ∈ cs, c.toLower = c := by
  intro c hc
  rcases h.minus_or_isDigit c hc with rfl | hdigit
  · decide
  · exact toLower_of_isDigit hdigit

theorem IsPlainNumeral.ne_nil {cs : List Char} (h : IsPlainNumeral cs) : cs ≠ [] := by
  rcases h with hrun | ⟨hminus, -⟩
  · exact hrun.1
  · rintro rfl
    simp at hminus

/-- A text that does not start with a blank loses nothing at its start. -/
theorem trimStart_append_of_not_blank {cs : List Char} (hne : cs ≠ [])
    (hblank : ∀ c ∈ cs, isBlank c = false) (after : List Char) :
    trimStart (cs ++ after) = cs ++ after := by
  obtain ⟨first, more, rfl⟩ := List.exists_cons_of_ne_nil hne
  simp [trimStart, hblank first List.mem_cons_self]

end Text

namespace Reference

variable {keyword : List Char} {token? : List Char → Option (List Char)}

/-! ## The leftmost place -/

/-- A keyword that starts with `first` starts nowhere in the text. -/
def Avoids (first : Char) (front : List Char) : Prop :=
  ∀ c ∈ front, c.toLower ≠ first

instance (first : Char) (front : List Char) : Decidable (Avoids first front) :=
  decidable_of_iff (front.all (fun c => c.toLower != first) = true) (by simp [Avoids])

theorem afterKeyword?_append {written : List Char} (hwritten : written.map Char.toLower = keyword)
    (after : List Char) : afterKeyword? keyword (written ++ after) = some after := by
  induction written generalizing keyword with
  | nil =>
      subst hwritten
      simp [afterKeyword?]
  | cons c written ih =>
      subst hwritten
      simp only [List.map_cons, List.cons_append, afterKeyword?]
      exact ih rfl

theorem leftmost?_of_tokenHere? {cs token : List Char}
    (h : tokenHere? keyword token? cs = some token) : leftmost? keyword token? cs = some token := by
  cases cs with
  | nil => exact h
  | cons c cs => rw [leftmost?, h]

/-- What cannot be the start of the keyword is passed over. -/
theorem leftmost?_append {first : Char} {front : List Char} (hfront : Avoids first front)
    (cs : List Char) :
    leftmost? (first :: keyword) token? (front ++ cs) = leftmost? (first :: keyword) token? cs := by
  induction front with
  | nil => rfl
  | cons c front ih =>
      have hhere : tokenHere? (first :: keyword) token? (c :: (front ++ cs)) = none := by
        rw [tokenHere?, afterKeyword?, if_neg (hfront c List.mem_cons_self)]
        rfl
      rw [List.cons_append, leftmost?, hhere]
      exact ih fun other hother => hfront other (List.mem_cons_of_mem _ hother)

/-- The token behind the keyword and one space. -/
theorem leftmost?_eq_some {first : Char} {front written token after : List Char}
    (hfront : Avoids first front)
    (hwritten : written.map Char.toLower = first :: keyword) (hne : token ≠ [])
    (hblank : ∀ c ∈ token, isBlank c = false) (htoken : token? (token ++ after) = some token) :
    leftmost? (first :: keyword) token? (front ++ (written ++ ' ' :: (token ++ after))) =
      some token := by
  rw [leftmost?_append hfront]
  refine leftmost?_of_tokenHere? ?_
  rw [tokenHere?, afterKeyword?_append hwritten, Option.bind_some]
  have hspace : trimStart (' ' :: (token ++ after)) = token ++ after := by
    rw [trimStart_cons_of_blank (by decide), trimStart_append_of_not_blank hne hblank]
  rw [hspace, htoken]

/-- What is found is a token of some rest of the text. -/
theorem exists_token?_of_leftmost? {cs token : List Char}
    (h : leftmost? keyword token? cs = some token) : ∃ rest, token? rest = some token := by
  have hhere : ∀ {cs : List Char}, tokenHere? keyword token? cs = some token →
      ∃ rest, token? rest = some token := by
    intro cs hcs
    obtain ⟨rest, -, hrest⟩ := Option.bind_eq_some_iff.mp hcs
    exact ⟨trimStart rest, hrest⟩
  induction cs with
  | nil => exact hhere h
  | cons c cs ih =>
      unfold leftmost? at h
      cases hfirst : tokenHere? keyword token? (c :: cs) with
      | none =>
          rw [hfirst] at h
          exact ih h
      | some first =>
          rw [hfirst] at h
          rw [Option.some.inj h] at hfirst
          exact hhere hfirst

/-- A reference that resolves was made from a token that was found. -/
theorem exists_of_read_eq_resolved {α : Type} {find? : List Char → Option (List Char)}
    {make : String → α} {value : Option String} {target : α}
    (h : read find? make value = .resolved target) :
    ∃ text token, value = some text ∧ find? text.toList = some token ∧
      make (String.ofList token) = target := by
  unfold read at h
  cases value with
  | none => exact absurd h (by simp)
  | some text =>
      cases hfound : find? text.toList with
      | none => simp [hfound] at h
      | some token =>
          simp only [hfound] at h
          exact ⟨text, token, rfl, hfound, Reference.resolved.inj h⟩

/-! ## File identifiers and guids -/

/-- A guid that was read is not empty. -/
theorem ne_empty_of_guid_eq_resolved {value : Option String} {target : Guid}
    (h : guid value = .resolved target) : target.text ≠ "" := by
  obtain ⟨text, token, -, hfound, rfl⟩ := exists_of_read_eq_resolved h
  obtain ⟨rest, hrest⟩ := exists_token?_of_leftmost? hfound
  have htoken : token ≠ [] := by
    rintro rfl
    unfold hexToken? at hrest
    split at hrest
    · exact absurd hrest (by simp)
    · rename_i hne
      exact hne (Option.some.inj hrest)
  simpa [Guid.ofText] using htoken

/-- The numeral behind `fileID: ` is the file identifier. -/
theorem fileId_eq_resolved {id : FileId} (hid : IsPlainNumeral id.text.toList)
    {front after : List Char} (hfront : Avoids 'f' front) (hafter : NoDigitFirst after)
    {value : String}
    (hvalue : value.toList =
      front ++ ("fileID:".toList ++ ' ' :: (id.text.toList ++ after))) :
    fileId (some value) = .resolved id := by
  have htoken : numeralToken? (id.text.toList ++ after) = some id.text.toList := by
    rw [numeralToken?, numeral?_eq_some_iff.mpr ⟨rfl, hid.isNumeral, hafter⟩]
    rfl
  have hfound : leftmost? "fileid:".toList numeralToken? value.toList = some id.text.toList := by
    rw [hvalue]
    exact leftmost?_eq_some hfront (by decide) hid.ne_nil hid.isBlank_eq_false htoken
  rw [fileId, read, hfound]
  simp

/-- A hexadecimal digit in lower case. -/
def IsLowerHex (c : Char) : Prop :=
  c.isDigit = true ∨ 'a' ≤ c ∧ c ≤ 'f'

instance (c : Char) : Decidable (IsLowerHex c) :=
  inferInstanceAs (Decidable (_ ∨ _ ∧ _))

theorem toNat_of_isLowerHex {c : Char} (h : IsLowerHex c) :
    (48 ≤ c.toNat ∧ c.toNat ≤ 57) ∨ (97 ≤ c.toNat ∧ c.toNat ≤ 102) := by
  rcases h with hdigit | ⟨hlow, hhigh⟩
  · exact .inl (toNat_of_isDigit hdigit)
  · have hfirst : 'a'.toNat ≤ c.toNat := UInt32.le_iff_toNat_le.mp (Char.le_def.mp hlow)
    have hlast : c.toNat ≤ 'f'.toNat := UInt32.le_iff_toNat_le.mp (Char.le_def.mp hhigh)
    exact .inr ⟨hfirst, hlast⟩

theorem isHexDigit_of_isLowerHex {c : Char} (h : IsLowerHex c) : isHexDigit c = true := by
  rcases h with hdigit | hletter
  · simp [isHexDigit, hdigit]
  · simp [isHexDigit, hletter]

theorem isBlank_of_isLowerHex {c : Char} (h : IsLowerHex c) : isBlank c = false := by
  have hrange := toNat_of_isLowerHex h
  simp only [isBlank, Bool.or_eq_false_iff, Bool.and_eq_false_iff, decide_eq_false_iff_not,
    beq_eq_false_iff_ne]
  omega

theorem toLower_of_isLowerHex {c : Char} (h : IsLowerHex c) : c.toLower = c := by
  have hrange := toNat_of_isLowerHex h
  rcases toLower_cases c with heq | ⟨hlow, hhigh, -⟩
  · exact heq
  · omega

/-- The hexadecimal digits behind `guid: ` are the guid. -/
theorem guid_eq_resolved {target : Guid} (hne : target.text.toList ≠ [])
    (hhex : ∀ c ∈ target.text.toList, IsLowerHex c) {front after : List Char}
    (hfront : Avoids 'g' front) (hafter : ∀ c ∈ after.head?, isHexDigit c = false)
    {value : String}
    (hvalue : value.toList =
      front ++ ("guid:".toList ++ ' ' :: (target.text.toList ++ after))) :
    guid (some value) = .resolved target := by
  have htoken : hexToken? (target.text.toList ++ after) = some target.text.toList := by
    rw [hexToken?, takeWhile_append_eq (fun c hc => isHexDigit_of_isLowerHex (hhex c hc)) hafter]
    split
    · rename_i hnil
      exact absurd hnil hne
    · rfl
  have hfound : leftmost? "guid:".toList hexToken? value.toList = some target.text.toList := by
    rw [hvalue]
    exact leftmost?_eq_some hfront (by decide) hne
      (fun c hc => isBlank_of_isLowerHex (hhex c hc)) htoken
  have hlower : target.text.toList.map Char.toLower = target.text.toList := by
    rw [List.map_congr_left fun c hc => toLower_of_isLowerHex (hhex c hc), List.map_id']
  rw [guid, read, hfound]
  simp [Guid.ofText, hlower]

end Reference

end SceneAudit
