import SceneAudit.Text.Digit
import Mathlib.Data.List.TakeWhile

/-!
# Numerals at the start of a text

`digits?` and `numeral?` read greedily.  Here is what they read, said without
them: `IsDigitRun` and `IsNumeral` are the texts that can be read, and a text
splits into one of these and the rest in one way only if the rest does not go on
with a digit (`NoDigitFirst`).
-/

namespace SceneAudit.Text

/-- At least one decimal digit and nothing else. -/
def IsDigitRun (cs : List Char) : Prop :=
  cs ≠ [] ∧ ∀ c ∈ cs, isDecimalDigit c = true

/-- A run of decimal digits, with or without a minus sign in front. -/
def IsNumeral (cs : List Char) : Prop :=
  IsDigitRun cs ∨ ∃ run, cs = '-' :: run ∧ IsDigitRun run

/-- The text does not start with a decimal digit. -/
def NoDigitFirst (cs : List Char) : Prop :=
  ∀ c ∈ cs.head?, isDecimalDigit c = false

theorem isDecimalDigit_minus : isDecimalDigit '-' = false := by
  decide

theorem noDigitFirst_nil : NoDigitFirst [] := by
  simp [NoDigitFirst]

theorem noDigitFirst_cons {c : Char} (h : isDecimalDigit c = false) (cs : List Char) :
    NoDigitFirst (c :: cs) := by
  simpa [NoDigitFirst] using h

theorem isBlank_of_isDecimalDigit {c : Char} (h : isDecimalDigit c = true) : isBlank c = false := by
  have hruns : ∀ first ∈ digitRuns, ∀ place < 10, isBlank (Char.ofNat (first + place)) = false := by
    decide
  obtain ⟨first, hfirst, hplace⟩ := List.any_eq_true.mp h
  simp only [Bool.and_eq_true, decide_eq_true_eq] at hplace
  have hblank := hruns first hfirst (c.toNat - first) (by omega)
  rwa [Nat.add_sub_cancel' hplace.1, Char.ofNat_toNat] at hblank

theorem IsDigitRun.append {run more : List Char} (h : IsDigitRun run)
    (hmore : ∀ c ∈ more, isDecimalDigit c = true) : IsDigitRun (run ++ more) := by
  refine ⟨List.append_ne_nil_of_left_ne_nil h.1 more, fun c hc => ?_⟩
  exact (List.mem_append.mp hc).elim (h.2 c) (hmore c)

/-- A numeral goes on with more digits. -/
theorem IsNumeral.append {cs more : List Char} (h : IsNumeral cs)
    (hmore : ∀ c ∈ more, isDecimalDigit c = true) : IsNumeral (cs ++ more) := by
  rcases h with hrun | ⟨run, rfl, hrun⟩
  · exact .inl (hrun.append hmore)
  · exact .inr ⟨run ++ more, rfl, hrun.append hmore⟩

theorem IsNumeral.exists_first {cs : List Char} (h : IsNumeral cs) :
    ∃ first more, cs = first :: more ∧ isBlank first = false := by
  rcases h with ⟨hne, hdigits⟩ | ⟨run, rfl, -⟩
  · obtain ⟨first, more, rfl⟩ := List.exists_cons_of_ne_nil hne
    exact ⟨first, more, rfl, isBlank_of_isDecimalDigit (hdigits first List.mem_cons_self)⟩
  · exact ⟨'-', run, rfl, by decide⟩

/-- The last character of a numeral is a digit. -/
theorem IsNumeral.exists_last {cs : List Char} (h : IsNumeral cs) :
    ∃ front last, cs = front ++ [last] ∧ isDecimalDigit last = true := by
  have hrun : ∀ {run : List Char}, IsDigitRun run →
      ∃ front last, run = front ++ [last] ∧ isDecimalDigit last = true := by
    rintro run ⟨hne, hdigits⟩
    refine ⟨_, _, (List.dropLast_concat_getLast hne).symm, hdigits _ (List.getLast_mem hne)⟩
  rcases h with hrun' | ⟨run, rfl, hrun'⟩
  · exact hrun hrun'
  · obtain ⟨front, last, rfl, hlast⟩ := hrun hrun'
    exact ⟨'-' :: front, last, rfl, hlast⟩

/-! ## Taking a run off a text -/

section TakeWhile

variable {p : Char → Bool} {run after : List Char}

theorem takeWhile_append_eq (hrun : ∀ c ∈ run, p c = true) (hafter : ∀ c ∈ after.head?, p c = false) :
    (run ++ after).takeWhile p = run := by
  rw [List.takeWhile_append_of_pos hrun]
  cases after with
  | nil => simp
  | cons c after =>
      have hstop := hafter c (by simp)
      simp [hstop]

theorem dropWhile_append_eq (hrun : ∀ c ∈ run, p c = true) (hafter : ∀ c ∈ after.head?, p c = false) :
    (run ++ after).dropWhile p = after := by
  rw [List.dropWhile_append_of_pos hrun]
  cases after with
  | nil => simp
  | cons c after =>
      have hstop := hafter c (by simp)
      simp [hstop]

theorem head?_dropWhile_eq_false (p : Char → Bool) (cs : List Char) :
    ∀ c ∈ (cs.dropWhile p).head?, p c = false := by
  intro c hc
  have hstop := List.head?_dropWhile_not p cs
  rw [Option.mem_def.mp hc] at hstop
  simpa using hstop

end TakeWhile

/-! ## Reading -/

theorem digits?_eq_some_iff {cs run after : List Char} :
    digits? cs = some (run, after) ↔ cs = run ++ after ∧ IsDigitRun run ∧ NoDigitFirst after := by
  constructor
  · intro h
    unfold digits? at h
    split at h
    · simp at h
    · rename_i read hne
      obtain ⟨rfl, rfl⟩ := Prod.mk.inj (Option.some.inj h)
      refine ⟨(List.takeWhile_append_dropWhile ..).symm, ⟨hne, fun c hc => ?_⟩, ?_⟩
      · exact List.mem_takeWhile_imp hc
      · exact head?_dropWhile_eq_false _ cs
  · rintro ⟨rfl, ⟨hne, hrun⟩, hafter⟩
    unfold digits?
    rw [takeWhile_append_eq hrun hafter, dropWhile_append_eq hrun hafter]
    split
    · exact absurd rfl hne
    · rfl

theorem numeral?_eq_some_iff {cs numeral after : List Char} :
    numeral? cs = some (numeral, after) ↔
      cs = numeral ++ after ∧ IsNumeral numeral ∧ NoDigitFirst after := by
  constructor
  · intro h
    unfold numeral? at h
    split at h
    · obtain ⟨⟨run, rest⟩, hread, heq⟩ := Option.map_eq_some_iff.mp h
      obtain ⟨rfl, rfl⟩ := Prod.mk.inj heq
      obtain ⟨rfl, hrun, hafter⟩ := digits?_eq_some_iff.mp hread
      exact ⟨rfl, .inr ⟨run, rfl, hrun⟩, hafter⟩
    · obtain ⟨rfl, hrun, hafter⟩ := digits?_eq_some_iff.mp h
      exact ⟨rfl, .inl hrun, hafter⟩
  · rintro ⟨rfl, hrun | ⟨run, rfl, hrun⟩, hafter⟩
    · have hread : digits? (numeral ++ after) = some (numeral, after) :=
        digits?_eq_some_iff.mpr ⟨rfl, hrun, hafter⟩
      unfold numeral?
      split
      · -- a run of digits does not start with a minus sign
        rename_i rest heq
        obtain ⟨hne, hdigits⟩ := hrun
        obtain ⟨first, more, rfl⟩ := List.exists_cons_of_ne_nil hne
        obtain rfl := (List.cons.inj heq).1
        have hminus := hdigits '-' List.mem_cons_self
        rw [isDecimalDigit_minus] at hminus
        exact Bool.noConfusion hminus
      · exact hread
    · have hread : digits? (run ++ after) = some (run, after) :=
        digits?_eq_some_iff.mpr ⟨rfl, hrun, hafter⟩
      simp [numeral?, hread]

end SceneAudit.Text
