import SceneAudit.Proofs.Text.Numeral

/-!
# Texts in other letter case

Lower-casing changes the 26 capitals of ASCII and no other character, so what is said of a
character by its being blank or a decimal digit is said of its lower case as well.  Trimming
and taking digits off a text therefore commute with lower-casing.

`SameLetters` compares texts that way, and `lower` is the text in lower case.
-/

namespace SceneAudit.Text

/-! ## Characters -/

/-- Only the 26 capitals have another lower case, and there it is one of the 26 letters that
stand 32 places behind them. -/
theorem toLower_cases (c : Char) :
    c.toLower = c ∨ 65 ≤ c.toNat ∧ c.toNat ≤ 90 ∧ c.toLower.toNat = c.toNat + 32 := by
  unfold Char.toLower
  split
  · rename_i hupper
    have hlow : 65 ≤ c.toNat := UInt32.le_iff_toNat_le.mp hupper.1
    have hhigh : c.toNat ≤ 90 := UInt32.le_iff_toNat_le.mp hupper.2
    refine .inr ⟨hlow, hhigh, ?_⟩
    have hsum : c.val.toNat + 32 < 2 ^ 32 := Nat.lt_of_le_of_lt (Nat.add_le_add_right hhigh 32) (by decide)
    exact (UInt32.toNat_add c.val 32).trans (Nat.mod_eq_of_lt hsum)
  · exact .inl rfl

/-- What holds of no ASCII letter does not tell a character from its lower case. -/
theorem toLower_congr {p : Char → Bool}
    (h : ∀ c : Char, 65 ≤ c.toNat → c.toNat ≤ 122 → p c = false) (c : Char) :
    p c.toLower = p c := by
  rcases toLower_cases c with heq | ⟨hlow, hhigh, hlower⟩
  · rw [heq]
  · rw [h c hlow (by omega), h c.toLower (by omega) (by omega)]

theorem isBlank_toLower (c : Char) : isBlank c.toLower = isBlank c := by
  apply toLower_congr
  intro c hlow hhigh
  simp only [isBlank, Bool.or_eq_false_iff, Bool.and_eq_false_iff, decide_eq_false_iff_not,
    beq_eq_false_iff_ne]
  omega

theorem toLower_toLower (c : Char) : c.toLower.toLower = c.toLower := by
  rcases toLower_cases c with heq | ⟨hlow, hhigh, hlower⟩
  · rw [heq, heq]
  · rcases toLower_cases c.toLower with heq | ⟨-, hhigh', -⟩
    · exact heq
    · omega

theorem isDecimalDigit_of_letter {c : Char} (hlow : 65 ≤ c.toNat) (hhigh : c.toNat ≤ 122) :
    isDecimalDigit c = false := by
  unfold isDecimalDigit
  rw [List.any_eq_false]
  have hruns : ∀ first ∈ digitRuns, first = 48 ∨ 122 < first := by decide
  intro first hfirst
  have hrun := hruns first hfirst
  simp only [Bool.and_eq_true, decide_eq_true_eq, not_and]
  omega

theorem isDecimalDigit_toLower (c : Char) : isDecimalDigit c.toLower = isDecimalDigit c :=
  toLower_congr (fun _ => isDecimalDigit_of_letter) c

theorem toLower_of_isDecimalDigit {c : Char} (h : isDecimalDigit c = true) : c.toLower = c := by
  rcases toLower_cases c with heq | ⟨hlow, hhigh, -⟩
  · exact heq
  · rw [isDecimalDigit_of_letter hlow (by omega)] at h
    exact absurd h (by simp)

theorem map_toLower_of_isDecimalDigit {cs : List Char} (h : ∀ c ∈ cs, isDecimalDigit c = true) :
    cs.map Char.toLower = cs := by
  rw [List.map_congr_left fun c hc => toLower_of_isDecimalDigit (h c hc), List.map_id']

/-! ## Taking the ends off a text -/

section

variable {p : Char → Bool} (hp : ∀ c, p c.toLower = p c)

include hp

theorem takeWhile_map_toLower (cs : List Char) :
    (cs.map Char.toLower).takeWhile p = (cs.takeWhile p).map Char.toLower := by
  rw [List.takeWhile_map]
  have hsame : p ∘ Char.toLower = p := funext hp
  rw [hsame]

theorem dropWhile_map_toLower (cs : List Char) :
    (cs.map Char.toLower).dropWhile p = (cs.dropWhile p).map Char.toLower := by
  rw [List.dropWhile_map]
  have hsame : p ∘ Char.toLower = p := funext hp
  rw [hsame]

end

theorem trimStart_map_toLower (cs : List Char) :
    trimStart (cs.map Char.toLower) = (trimStart cs).map Char.toLower :=
  dropWhile_map_toLower isBlank_toLower cs

theorem trimEnd_map_toLower (cs : List Char) :
    trimEnd (cs.map Char.toLower) = (trimEnd cs).map Char.toLower := by
  unfold trimEnd
  rw [← List.map_reverse, dropWhile_map_toLower isBlank_toLower, ← List.map_reverse]

theorem trim_map_toLower (cs : List Char) :
    trim (cs.map Char.toLower) = (trim cs).map Char.toLower := by
  rw [trim, trimStart_map_toLower, trimEnd_map_toLower, trim]

/-! ## Texts in other letter case -/

/-- The texts are equal but for the case of ASCII letters. -/
def SameLetters (cs ds : List Char) : Prop :=
  cs.map Char.toLower = ds.map Char.toLower

instance (cs ds : List Char) : Decidable (SameLetters cs ds) :=
  inferInstanceAs (Decidable (_ = _))

namespace SameLetters

variable {cs ds : List Char}

theorem append_left (h : SameLetters cs ds) (front : List Char) :
    SameLetters (front ++ cs) (front ++ ds) := by
  unfold SameLetters
  rw [List.map_append, List.map_append, h]

theorem trimEnd (h : SameLetters cs ds) : SameLetters (trimEnd cs) (Text.trimEnd ds) := by
  unfold SameLetters
  rw [← trimEnd_map_toLower, ← trimEnd_map_toLower, h]

theorem trim (h : SameLetters cs ds) : SameLetters (trim cs) (Text.trim ds) := by
  unfold SameLetters
  rw [← trim_map_toLower, ← trim_map_toLower, h]

end SameLetters

/-- The text in lower case. -/
def lower (text : String) : String :=
  String.ofList (text.toList.map Char.toLower)

theorem lower_eq_lower_iff {text other : String} :
    lower text = lower other ↔ SameLetters text.toList other.toList := by
  unfold lower SameLetters
  exact String.ofList_inj

end SceneAudit.Text
