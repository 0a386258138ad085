import SceneAudit.Text.Blank

/-!
# Trimming

What trimming leaves of a text is decided at its two ends.  The lemmas here take
one character off an end, or look past everything up to a character that is not
blank.
-/

namespace SceneAudit.Text

/-- The text has no blanks at its ends. -/
def IsTrimmed (cs : List Char) : Prop :=
  trim cs = cs

instance (cs : List Char) : Decidable (IsTrimmed cs) :=
  inferInstanceAs (Decidable (_ = _))

variable {c : Char}

/-! ## The start of a text -/

theorem trimStart_cons_of_blank (hblank : isBlank c = true) (cs : List Char) :
    trimStart (c :: cs) = trimStart cs := by
  simp [trimStart, hblank]

theorem trimStart_cons_of_not_blank (hblank : isBlank c = false) (cs : List Char) :
    trimStart (c :: cs) = c :: cs := by
  simp [trimStart, hblank]

theorem trim_cons_of_blank (hblank : isBlank c = true) (cs : List Char) :
    trim (c :: cs) = trim cs := by
  rw [trim, trimStart_cons_of_blank hblank, trim]

theorem trim_cons_of_not_blank (hblank : isBlank c = false) (cs : List Char) :
    trim (c :: cs) = trimEnd (c :: cs) := by
  rw [trim, trimStart_cons_of_not_blank hblank]

theorem trimStart_append_cons (hblank : isBlank c = false) (front back : List Char) :
    trimStart (front ++ c :: back) = trimStart front ++ c :: back := by
  unfold trimStart
  induction front with
  | nil => simp [hblank]
  | cons first front ih => by_cases hfirst : isBlank first = true <;> simp [hfirst, ih]

/-! ## The end of a text -/

theorem trimEnd_prefix (cs : List Char) : trimEnd cs <+: cs := by
  rw [← List.reverse_suffix, trimEnd, List.reverse_reverse]
  exact List.dropWhile_suffix _

theorem trimEnd_append_cons (hblank : isBlank c = false) (front back : List Char) :
    trimEnd (front ++ c :: back) = front ++ c :: trimEnd back := by
  unfold trimEnd
  rw [List.reverse_append, List.reverse_cons, List.append_assoc, List.dropWhile_append]
  split
  · rename_i hall
    simp only [List.isEmpty_iff] at hall
    simp [hall, hblank]
  · simp

theorem trimEnd_append_singleton (hblank : isBlank c = false) (front : List Char) :
    trimEnd (front ++ [c]) = front ++ [c] := by
  rw [trimEnd_append_cons hblank]
  rfl

theorem trimEnd_append_of_ne_nil {back : List Char} (hback : trimEnd back ≠ [])
    (front : List Char) : trimEnd (front ++ back) = front ++ trimEnd back := by
  unfold trimEnd at hback ⊢
  rw [List.reverse_append, List.dropWhile_append]
  split
  · rename_i hall
    simp only [List.isEmpty_iff] at hall
    simp [hall] at hback
  · simp

/-! ## Trimmed texts -/

theorem isBlank_getLast_of_isTrimmed {cs : List Char} (h : IsTrimmed cs) :
    ∀ c ∈ cs.getLast?, isBlank c = false := by
  intro c hc
  have hlast : (trimEnd (trimStart cs)).getLast? = some c := by
    have heq : trimEnd (trimStart cs) = cs := h
    rw [heq]
    exact hc
  rw [trimEnd, List.getLast?_reverse] at hlast
  have hstop := List.head?_dropWhile_not isBlank (trimStart cs).reverse
  rw [hlast] at hstop
  simpa using hstop

theorem trimEnd_of_isTrimmed {cs : List Char} (h : IsTrimmed cs) : trimEnd cs = cs := by
  rcases List.eq_nil_or_concat cs with rfl | ⟨front, last, rfl⟩
  · rfl
  · rw [List.concat_eq_append] at h ⊢
    exact trimEnd_append_singleton (isBlank_getLast_of_isTrimmed h last (by simp)) front

/-- Blanks in front of a trimmed text are all that trimming takes away, also where
the end was trimmed before. -/
theorem trim_trimEnd_space {cs : List Char} (h : IsTrimmed cs) : trim (trimEnd (' ' :: cs)) = cs := by
  have hspace : isBlank ' ' = true := by decide
  have hend := trimEnd_of_isTrimmed h
  by_cases hempty : cs = []
  · subst hempty
    decide
  · have hfront := trimEnd_append_of_ne_nil (hend.symm ▸ hempty) [' ']
    rw [List.singleton_append, hend] at hfront
    rw [hfront, List.singleton_append, trim_cons_of_blank hspace, h]

end SceneAudit.Text
