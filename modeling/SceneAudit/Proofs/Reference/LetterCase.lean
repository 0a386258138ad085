import SceneAudit.Proofs.Reference

/-!
# Reading references in any letter case

A reference is found in a text and in the same text with other letter case at the same place,
since nothing that the search looks at depends on the case of a letter: blanks and decimal
digits are no letters, hexadecimal digits come in both cases, and the keyword is compared in
lower case.  So the search commutes with lower-casing (`leftmost?_toLower`).

What is found there is the same file identifier, which has no letters, and the same guid,
which is kept in lower case.  Only a reference that does not resolve shows the case, in the
text that it quotes (`Reference.lowered`).
-/

namespace SceneAudit

open Text

/-! ## The search -/

namespace Reference

variable {keyword : List Char} {token? : List Char → Option (List Char)}

theorem isHexDigit_iff (c : Char) :
    isHexDigit c = true ↔
      48 ≤ c.toNat ∧ c.toNat ≤ 57 ∨ 97 ≤ c.toNat ∧ c.toNat ≤ 102 ∨ 65 ≤ c.toNat ∧ c.toNat ≤ 70 := by
  simp only [isHexDigit, Char.isDigit, Bool.or_eq_true, Bool.and_eq_true, decide_eq_true_eq, or_assoc]
  rfl

theorem isHexDigit_toLower (c : Char) : isHexDigit c.toLower = isHexDigit c := by
  rw [Bool.eq_iff_iff, isHexDigit_iff, isHexDigit_iff]
  rcases toLower_cases c with heq | ⟨hlow, hhigh, hlower⟩
  · rw [heq]
  · omega

theorem afterKeyword?_toLower (keyword cs : List Char) :
    afterKeyword? keyword (cs.map Char.toLower) =
      (afterKeyword? keyword cs).map (List.map Char.toLower) := by
  induction keyword generalizing cs with
  | nil => simp [afterKeyword?]
  | cons k keyword ih =>
      cases cs with
      | nil => simp [afterKeyword?]
      | cons c cs =>
          rw [List.map_cons, afterKeyword?, afterKeyword?, toLower_toLower, apply_ite (Option.map _), ih]
          rfl

theorem tokenHere?_toLower
    (htoken : ∀ cs, token? (cs.map Char.toLower) = (token? cs).map (List.map Char.toLower))
    (cs : List Char) :
    tokenHere? keyword token? (cs.map Char.toLower) =
      (tokenHere? keyword token? cs).map (List.map Char.toLower) := by
  rw [tokenHere?, tokenHere?, afterKeyword?_toLower]
  cases afterKeyword? keyword cs with
  | none => rfl
  | some rest =>
      rw [Option.map_some, Option.bind_some, Option.bind_some, trimStart_map_toLower, htoken]

/-- The search finds the same place in a text and in its lower case. -/
theorem leftmost?_toLower
    (htoken : ∀ cs, token? (cs.map Char.toLower) = (token? cs).map (List.map Char.toLower))
    (cs : List Char) :
    leftmost? keyword token? (cs.map Char.toLower) =
      (leftmost? keyword token? cs).map (List.map Char.toLower) := by
  induction cs with
  | nil => exact tokenHere?_toLower htoken []
  | cons c cs ih =>
      have hhere : tokenHere? keyword token? (c.toLower :: cs.map Char.toLower) =
          (tokenHere? keyword token? (c :: cs)).map (List.map Char.toLower) :=
        tokenHere?_toLower htoken (c :: cs)
      rw [List.map_cons, leftmost?, hhere, leftmost?]
      cases tokenHere? keyword token? (c :: cs) with
      | none => exact ih
      | some token => rfl

/-! ## Tokens -/

theorem hexToken?_toLower (cs : List Char) :
    hexToken? (cs.map Char.toLower) = (hexToken? cs).map (List.map Char.toLower) := by
  rw [hexToken?, takeWhile_map_toLower isHexDigit_toLower, hexToken?]
  cases cs.takeWhile isHexDigit with
  | nil => rfl
  | cons c run => rfl

theorem digits?_toLower (cs : List Char) :
    digits? (cs.map Char.toLower) =
      (digits? cs).map (Prod.map (List.map Char.toLower) (List.map Char.toLower)) := by
  rw [digits?, takeWhile_map_toLower isDecimalDigit_toLower,
    dropWhile_map_toLower isDecimalDigit_toLower, digits?]
  cases cs.takeWhile isDecimalDigit with
  | nil => rfl
  | cons c run => rfl

theorem toLower_eq_minus_iff (c : Char) : c.toLower = '-' ↔ c = '-' := by
  rcases toLower_cases c with heq | ⟨hlow, hhigh, hlower⟩
  · rw [heq]
  · constructor
    · intro h
      rw [h] at hlower
      simp at hlower
      omega
    · rintro rfl
      simp at hlow

theorem numeral?_cons_of_ne {c : Char} (hc : c ≠ '-') (cs : List Char) :
    numeral? (c :: cs) = digits? (c :: cs) := by
  unfold numeral?
  split
  · rename_i heq
    exact absurd (List.cons.inj heq).1 hc
  · rfl

theorem numeral?_toLower (cs : List Char) :
    numeral? (cs.map Char.toLower) =
      (numeral? cs).map (Prod.map (List.map Char.toLower) (List.map Char.toLower)) := by
  cases cs with
  | nil => exact digits?_toLower []
  | cons c cs =>
      by_cases hc : c = '-'
      · subst hc
        have hminus : ('-' :: cs).map Char.toLower = '-' :: cs.map Char.toLower := rfl
        rw [hminus, numeral?, digits?_toLower, numeral?, Option.map_map, Option.map_map]
        rfl
      · have hlower : c.toLower ≠ '-' := mt (toLower_eq_minus_iff c).mp hc
        rw [List.map_cons, numeral?_cons_of_ne hlower, numeral?_cons_of_ne hc, ← List.map_cons,
          digits?_toLower]

theorem numeralToken?_toLower (cs : List Char) :
    numeralToken? (cs.map Char.toLower) = (numeralToken? cs).map (List.map Char.toLower) := by
  rw [numeralToken?, numeral?_toLower, numeralToken?, Option.map_map, Option.map_map]
  rfl

/-- A numeral has no letters. -/
theorem map_toLower_of_numeralToken? {cs token : List Char} (h : numeralToken? cs = some token) :
    token.map Char.toLower = token := by
  obtain ⟨⟨numeral, after⟩, hread, rfl⟩ := Option.map_eq_some_iff.mp h
  obtain ⟨-, hrun | ⟨run, rfl, hrun⟩, -⟩ := numeral?_eq_some_iff.mp hread
  · exact map_toLower_of_isDecimalDigit hrun.2
  · have hminus : '-'.toLower = '-' := by decide
    rw [List.map_cons, map_toLower_of_isDecimalDigit hrun.2, hminus]

end Reference

/-! ## References in other letter case -/

/-- The cause with the text that it quotes in lower case. -/
def Unresolved.lowered : Unresolved → Unresolved
  | absent => absent
  | noPattern text => noPattern (Text.lower text)

namespace Reference

variable {α : Type}

/-- The reference with the text that it quotes in lower case. -/
def lowered : Reference α → Reference α
  | resolved target => resolved target
  | unresolved cause => unresolved cause.lowered

theorem lowered_eq_resolved_iff {reference : Reference α} {target : α} :
    reference.lowered = .resolved target ↔ reference = .resolved target := by
  cases reference with
  | resolved own => rfl
  | unresolved cause => simp [lowered]

@[simp] theorem target?_lowered (reference : Reference α) :
    reference.lowered.target? = reference.target? := by
  cases reference <;> rfl

variable {find? : List Char → Option (List Char)} {make : String → α}

/-- Where neither the search nor the target minds the case of letters, reading the text in
lower case is the same as lower-casing what is quoted. -/
theorem lowered_read
    (hfind : ∀ cs, find? (cs.map Char.toLower) = (find? cs).map (List.map Char.toLower))
    (hmake : ∀ cs token, find? cs = some token →
      make (String.ofList (token.map Char.toLower)) = make (String.ofList token))
    (value : Option String) :
    (read find? make value).lowered = read find? make (value.map Text.lower) := by
  cases value with
  | none => rfl
  | some value =>
      have hfound : find? (Text.lower value).toList =
          (find? value.toList).map (List.map Char.toLower) := by
        rw [Text.lower, String.toList_ofList, hfind]
      unfold read
      simp only [Option.map_some, hfound]
      cases hread : find? value.toList with
      | none =>
          have hquote : Text.lower (String.ofList (trim value.toList)) =
              String.ofList (trim (Text.lower value).toList) := by
            rw [Text.lower, Text.lower, String.toList_ofList, String.toList_ofList,
              trim_map_toLower]
          exact congrArg (fun text => Reference.unresolved (.noPattern text)) hquote
      | some token => exact congrArg resolved (hmake _ _ hread).symm

theorem lowered_fileId (value : Option String) :
    (fileId value).lowered = fileId (value.map Text.lower) := by
  apply lowered_read (leftmost?_toLower numeralToken?_toLower)
  intro cs token hfound
  obtain ⟨rest, hrest⟩ := exists_token?_of_leftmost? hfound
  rw [map_toLower_of_numeralToken? hrest]

theorem lowered_guid (value : Option String) :
    (guid value).lowered = guid (value.map Text.lower) := by
  apply lowered_read (leftmost?_toLower hexToken?_toLower)
  intro cs token _
  have htwice : Char.toLower ∘ Char.toLower = Char.toLower := funext toLower_toLower
  unfold Guid.ofText
  rw [String.toList_ofList, String.toList_ofList, List.map_map, htwice]

/-- **The guid does not depend on the case of letters.** -/
theorem guid_eq_resolved_of_sameLetters {value other : String}
    (h : SameLetters value.toList other.toList) {target : Guid}
    (hguid : guid (some value) = .resolved target) : guid (some other) = .resolved target := by
  have hlower : Text.lower value = Text.lower other := Text.lower_eq_lower_iff.mpr h
  rw [← lowered_eq_resolved_iff, lowered_guid, Option.map_some, ← hlower, ← Option.map_some,
    ← lowered_guid, hguid]
  rfl

end Reference

end SceneAudit
