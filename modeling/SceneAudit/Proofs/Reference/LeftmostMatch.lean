import SceneAudit.Proofs.Reference.LetterCase

/-!
# Where a reference is found

A text matches where a keyword stands, in any letter case, and a token follows it with blanks
between them or none (`MatchesAt`).  A keyword alone is no match, so the leftmost match may
well stand behind another keyword.

* The search finds the leftmost match, and of the tokens that match there the longest one
  (`IsLeftmostMatch`, `leftmost?_cases`).  It needs of the reader of tokens only that it goes on
  as long as there is a token (`ReadsLongest`).
* A reference is what is found, and if it does not resolve it says why
  (`reference_isReadOff`).
-/

namespace SceneAudit

open Text

namespace Reference

/-! ## Matches -/

/-- The keyword stands behind `front`, in any letter case, and the token follows it. -/
def MatchesAt (keyword : String) (IsToken : List Char → Prop) (cs front token : List Char) : Prop :=
  ∃ written blanks after, cs = front ++ (written ++ (blanks ++ (token ++ after))) ∧
    SameLetters written keyword.toList ∧ (∀ c ∈ blanks, isBlank c = true) ∧ IsToken token

/-- No match starts further left, and none that starts here goes further. -/
structure IsLeftmostMatch (keyword : String) (IsToken : List Char → Prop) (cs front token : List Char) :
    Prop where
  matchesAt : MatchesAt keyword IsToken cs front token
  leftmost : ∀ otherFront other, MatchesAt keyword IsToken cs otherFront other →
    front.length ≤ otherFront.length
  longest : ∀ other, MatchesAt keyword IsToken cs front other → other <+: token

/-- The token that starts a text is read as far as it goes; no token starts with a blank. -/
structure ReadsLongest (token? : List Char → Option (List Char)) (IsToken : List Char → Prop) : Prop where
  of_eq_some : ∀ cs token, token? cs = some token → token <+: cs ∧ IsToken token
  reaches : ∀ token after, IsToken token →
    ∃ longest, token? (token ++ after) = some longest ∧ token <+: longest
  starts : ∀ token, IsToken token → ∃ c more, token = c :: more ∧ isBlank c = false

section Search

variable {keyword : String} {IsToken : List Char → Prop} {cs front token : List Char}

theorem MatchesAt.front_prefix (h : MatchesAt keyword IsToken cs front token) : front <+: cs := by
  obtain ⟨written, blanks, after, rfl, -⟩ := h
  exact List.prefix_append _ _

theorem matchesAt_cons_iff {c first : Char} :
    MatchesAt keyword IsToken (c :: cs) (first :: front) token ↔
      c = first ∧ MatchesAt keyword IsToken cs front token := by
  unfold MatchesAt
  simp only [List.cons_append, List.cons.injEq, and_assoc, exists_and_left]

/-- There is only one leftmost match. -/
theorem IsLeftmostMatch.token_eq {otherFront other : List Char}
    (h : IsLeftmostMatch keyword IsToken cs front token)
    (hother : IsLeftmostMatch keyword IsToken cs otherFront other) : token = other := by
  have hlength : front.length = otherFront.length :=
    Nat.le_antisymm (h.leftmost _ _ hother.matchesAt) (hother.leftmost _ _ h.matchesAt)
  obtain rfl : front = otherFront :=
    (List.prefix_of_prefix_length_le h.matchesAt.front_prefix hother.matchesAt.front_prefix
      hlength.le).eq_of_length hlength
  exact (hother.longest _ h.matchesAt).eq_of_length_le (h.longest _ hother.matchesAt).length_le

/-! ## The search -/

theorem afterKeyword?_eq_some_iff {keyword cs rest : List Char} :
    afterKeyword? keyword cs = some rest ↔
      ∃ written, cs = written ++ rest ∧ written.map Char.toLower = keyword := by
  constructor
  · intro h
    induction keyword generalizing cs with
    | nil =>
        rw [afterKeyword?, Option.some.injEq] at h
        exact ⟨[], h, rfl⟩
    | cons k keyword ih =>
        cases cs with
        | nil => exact absurd h (by simp [afterKeyword?])
        | cons c cs =>
            rw [afterKeyword?, Option.ite_none_right_eq_some] at h
            obtain ⟨written, rfl, rfl⟩ := ih h.2
            exact ⟨c :: written, rfl, by rw [List.map_cons, h.1]⟩
  · rintro ⟨written, rfl, hwritten⟩
    exact afterKeyword?_append hwritten rest

variable {token? : List Char → Option (List Char)} (h : ReadsLongest token? IsToken)

include h

/-- A token after a keyword at the start of the text is part of what is found there. -/
theorem exists_tokenHere?_of_matchesAt (hmatch : MatchesAt keyword IsToken cs [] token) :
    ∃ longest, tokenHere? (keyword.toList.map Char.toLower) token? cs = some longest ∧
      token <+: longest := by
  obtain ⟨written, blanks, after, rfl, hwritten, hblanks, htoken⟩ := hmatch
  obtain ⟨c, more, rfl, hc⟩ := h.starts token htoken
  have htrim : trimStart (blanks ++ (c :: more ++ after)) = c :: more ++ after := by
    apply dropWhile_append_eq hblanks
    intro first hfirst
    obtain rfl : c = first := by simpa using hfirst
    exact hc
  obtain ⟨longest, hlongest, hprefix⟩ := h.reaches _ after htoken
  refine ⟨longest, ?_, hprefix⟩
  rw [List.nil_append, tokenHere?, afterKeyword?_append hwritten, Option.bind_some, htrim, hlongest]

theorem isLeftmostMatch_of_tokenHere?
    (hhere : tokenHere? (keyword.toList.map Char.toLower) token? cs = some token) :
    IsLeftmostMatch keyword IsToken cs [] token where
  matchesAt := by
    obtain ⟨rest, hafter, hread⟩ := Option.bind_eq_some_iff.mp hhere
    obtain ⟨written, rfl, hwritten⟩ := afterKeyword?_eq_some_iff.mp hafter
    obtain ⟨⟨after, hsplit⟩, htoken⟩ := h.of_eq_some _ _ hread
    refine ⟨written, rest.takeWhile isBlank, after, ?_, hwritten, fun c hc => List.mem_takeWhile_imp hc,
      htoken⟩
    rw [hsplit, trimStart, List.takeWhile_append_dropWhile, List.nil_append]
  leftmost _ _ _ := Nat.zero_le _
  longest other hother := by
    obtain ⟨longest, hlongest, hprefix⟩ := exists_tokenHere?_of_matchesAt h hother
    rw [hhere, Option.some.injEq] at hlongest
    rwa [hlongest]

theorem not_matchesAt_of_tokenHere?
    (hnone : tokenHere? (keyword.toList.map Char.toLower) token? cs = none) (token : List Char) :
    ¬ MatchesAt keyword IsToken cs [] token := by
  intro hmatch
  obtain ⟨longest, hlongest, -⟩ := exists_tokenHere?_of_matchesAt h hmatch
  exact absurd (hnone.symm.trans hlongest) (by simp)

omit h in
/-- Where nothing matches at the start of a text, the leftmost match is that of the rest. -/
theorem IsLeftmostMatch.cons {c : Char} (hmatch : IsLeftmostMatch keyword IsToken cs front token)
    (hnone : ∀ other, ¬ MatchesAt keyword IsToken (c :: cs) [] other) :
    IsLeftmostMatch keyword IsToken (c :: cs) (c :: front) token where
  matchesAt := matchesAt_cons_iff.mpr ⟨rfl, hmatch.matchesAt⟩
  leftmost otherFront other hother := by
    cases otherFront with
    | nil => exact absurd hother (hnone other)
    | cons first otherFront =>
        exact Nat.succ_le_succ (hmatch.leftmost _ _ (matchesAt_cons_iff.mp hother).2)
  longest other hother := hmatch.longest other (matchesAt_cons_iff.mp hother).2

/-- The search finds the leftmost match, or there is none. -/
theorem leftmost?_cases (keyword : String) (cs : List Char) :
    (leftmost? (keyword.toList.map Char.toLower) token? cs = none ∧
        ∀ front token, ¬ MatchesAt keyword IsToken cs front token) ∨
      ∃ front token, leftmost? (keyword.toList.map Char.toLower) token? cs = some token ∧
        IsLeftmostMatch keyword IsToken cs front token := by
  induction cs with
  | nil =>
      cases hhere : tokenHere? (keyword.toList.map Char.toLower) token? [] with
      | some token => exact .inr ⟨[], token, hhere, isLeftmostMatch_of_tokenHere? h hhere⟩
      | none =>
          refine .inl ⟨hhere, fun front token hmatch => ?_⟩
          obtain rfl : front = [] := List.prefix_nil.mp hmatch.front_prefix
          exact not_matchesAt_of_tokenHere? h hhere token hmatch
  | cons c cs ih =>
      cases hhere : tokenHere? (keyword.toList.map Char.toLower) token? (c :: cs) with
      | some token =>
          exact .inr ⟨[], token, leftmost?_of_tokenHere? hhere, isLeftmostMatch_of_tokenHere? h hhere⟩
      | none =>
          have hnone := not_matchesAt_of_tokenHere? h hhere
          rw [leftmost?, hhere]
          rcases ih with ⟨hrest, hnothing⟩ | ⟨front, token, hrest, hmatch⟩
          · refine .inl ⟨hrest, fun front token hmatch => ?_⟩
            cases front with
            | nil => exact hnone token hmatch
            | cons first front => exact hnothing front token (matchesAt_cons_iff.mp hmatch).2
          · exact .inr ⟨c :: front, token, hrest, hmatch.cons hnone⟩

end Search

/-! ## What is read off a value -/

/-- The reference resolves to what the leftmost match has for a token, and where it does not it
is because there is no match or no value. -/
structure IsReadOff {α : Type} (keyword : String) (IsToken : List Char → Prop) (make : String → α)
    (value : Option String) (reference : Reference α) : Prop where
  resolves_iff : (∃ target, reference = .resolved target) ↔
    ∃ text ∈ value, ∃ front token, MatchesAt keyword IsToken text.toList front token
  resolved_iff : ∀ target, reference = .resolved target ↔
    ∃ text ∈ value, ∃ front token, IsLeftmostMatch keyword IsToken text.toList front token ∧
      target = make (String.ofList token)
  noPattern_iff : ∀ quoted, reference = .unresolved (.noPattern quoted) ↔
    ∃ text ∈ value, (∀ front token, ¬ MatchesAt keyword IsToken text.toList front token) ∧
      quoted = String.ofList (trim text.toList)
  absent_iff : reference = .unresolved .absent ↔ value = none

theorem isReadOff_read {α : Type} {keyword : String} {IsToken : List Char → Prop}
    {token? : List Char → Option (List Char)} (h : ReadsLongest token? IsToken) (make : String → α)
    (value : Option String) :
    IsReadOff keyword IsToken make value
      (read (leftmost? (keyword.toList.map Char.toLower) token?) make value) := by
  cases value with
  | none => constructor <;> simp [read]
  | some text =>
      rw [read]
      rcases leftmost?_cases h keyword text.toList with
        ⟨hfound, hnothing⟩ | ⟨front, token, hfound, hmatch⟩
      · rw [hfound]
        have hnone : ∀ front token, ¬ IsLeftmostMatch keyword IsToken text.toList front token :=
          fun front token hmatch => hnothing front token hmatch.matchesAt
        constructor <;> simp [hnothing, hnone, eq_comm]
      · rw [hfound]
        constructor
        case resolves_iff =>
          simp only [Option.mem_some, resolved.injEq, exists_eq', exists_eq_left', true_iff]
          exact ⟨front, token, hmatch.matchesAt⟩
        case resolved_iff =>
          intro target
          simp only [Option.mem_some, resolved.injEq, exists_eq_left']
          constructor
          · rintro rfl
            exact ⟨front, token, hmatch, rfl⟩
          · rintro ⟨otherFront, other, hother, rfl⟩
            rw [hmatch.token_eq hother]
        case noPattern_iff =>
          intro quoted
          simp only [Option.mem_some, reduceCtorEq, exists_eq_left', false_iff, not_and]
          intro hnothing
          exact absurd hmatch.matchesAt (hnothing front token)
        case absent_iff => simp

/-! ## File identifiers and guids -/

/-- At least one hexadecimal digit and nothing else. -/
def IsHexRun (cs : List Char) : Prop :=
  cs ≠ [] ∧ ∀ c ∈ cs, isHexDigit c = true

theorem isBlank_of_isHexDigit {c : Char} (h : isHexDigit c = true) : isBlank c = false := by
  rw [isHexDigit_iff] at h
  simp only [isBlank, Bool.or_eq_false_iff, Bool.and_eq_false_iff, decide_eq_false_iff_not,
    beq_eq_false_iff_ne]
  omega

theorem isLowerHex_toLower {c : Char} (h : isHexDigit c = true) : IsLowerHex c.toLower := by
  have hascii : ∀ number < 103, isHexDigit (Char.ofNat number) = true →
      IsLowerHex (Char.ofNat number).toLower := by
    decide
  have hnumber : c.toNat < 103 := by
    rw [isHexDigit_iff] at h
    omega
  have hlower := hascii c.toNat hnumber
  rw [Char.ofNat_toNat] at hlower
  exact hlower h

theorem hexToken?_eq_some_iff {cs token : List Char} :
    hexToken? cs = some token ↔ cs.takeWhile isHexDigit = token ∧ token ≠ [] := by
  rw [hexToken?]
  cases cs.takeWhile isHexDigit with
  | nil => simp
  | cons c run =>
      simp only [Option.some.injEq, iff_self_and]
      rintro rfl
      exact List.cons_ne_nil c run

/-! ### Both are read as far as they go -/

theorem readsLongest_numeralToken? : ReadsLongest numeralToken? IsNumeral where
  of_eq_some cs token hread := by
    obtain ⟨⟨numeral, after⟩, hnumeral, rfl⟩ := Option.map_eq_some_iff.mp hread
    obtain ⟨rfl, hnumeral, -⟩ := numeral?_eq_some_iff.mp hnumeral
    exact ⟨List.prefix_append _ _, hnumeral⟩
  reaches token after htoken := by
    -- the token with all the digits that follow it is a numeral, and no digit follows that
    have hread : numeral? (token ++ after) =
        some (token ++ after.takeWhile isDecimalDigit, after.dropWhile isDecimalDigit) := by
      rw [numeral?_eq_some_iff]
      refine ⟨?_, htoken.append fun c hc => List.mem_takeWhile_imp hc, head?_dropWhile_eq_false _ after⟩
      rw [List.append_assoc, List.takeWhile_append_dropWhile]
    exact ⟨_, congrArg (Option.map Prod.fst) hread, List.prefix_append _ _⟩
  starts _ htoken := htoken.exists_first

theorem readsLongest_hexToken? : ReadsLongest hexToken? IsHexRun where
  of_eq_some cs token hread := by
    obtain ⟨rfl, hne⟩ := hexToken?_eq_some_iff.mp hread
    exact ⟨List.takeWhile_prefix _, hne, fun c hc => List.mem_takeWhile_imp hc⟩
  reaches token after htoken := by
    refine ⟨token ++ after.takeWhile isHexDigit, ?_, List.prefix_append _ _⟩
    rw [hexToken?_eq_some_iff, List.takeWhile_append_of_pos htoken.2]
    exact ⟨rfl, List.append_ne_nil_of_left_ne_nil htoken.1 _⟩
  starts token htoken := by
    obtain ⟨c, more, rfl⟩ := List.exists_cons_of_ne_nil htoken.1
    exact ⟨c, more, rfl, isBlank_of_isHexDigit (htoken.2 c List.mem_cons_self)⟩

/-- **A reference is what stands at the leftmost match**, as far as the token goes there, and not
what follows the first keyword; a guid is a run of hexadecimal digits in lower case. -/
theorem reference_isReadOff (value : Option String) :
    IsReadOff "fileID:" IsNumeral FileId.mk value (fileId value) ∧
      IsReadOff "guid:" IsHexRun (fun token => ⟨Text.lower token⟩) value (guid value) ∧
      ∀ target, guid value = .resolved target →
        target.text.toList ≠ [] ∧ ∀ c ∈ target.text.toList, IsLowerHex c := by
  have hfileId : IsReadOff "fileID:" IsNumeral FileId.mk value (fileId value) :=
    isReadOff_read readsLongest_numeralToken? FileId.mk value
  have hguid : IsReadOff "guid:" IsHexRun (fun token => ⟨Text.lower token⟩) value (guid value) :=
    isReadOff_read readsLongest_hexToken? Guid.ofText value
  refine ⟨hfileId, hguid, fun target htarget => ?_⟩
  obtain ⟨text, -, front, token, hmatch, rfl⟩ := (hguid.resolved_iff target).mp htarget
  obtain ⟨-, -, -, -, -, -, hne, hhex⟩ := hmatch.matchesAt
  rw [Text.lower, String.toList_ofList, String.toList_ofList]
  refine ⟨by simpa using hne, fun c hc => ?_⟩
  obtain ⟨digit, hdigit, rfl⟩ := List.mem_map.mp hc
  exact isLowerHex_toLower (hhex digit hdigit)

/-- Neither the first keyword nor the lone minus sign is followed by a numeral. -/
example : fileId (some "fileID:fileid: -, FileID:\n -0۱2x") = .resolved ⟨"-0۱2"⟩ := by decide

end Reference

end SceneAudit
