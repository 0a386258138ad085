import SceneAudit.Proofs.Text.Line
import SceneAudit.Proofs.Text.Numeral
import Mathlib.Data.List.Basic

/-!
# Texts without line ends

A text that no character of a line end is in can be a line of its own (`IsUnbroken.isLine`).
Numerals and the decimal forms of numbers are such texts, and so is what is put together
from such texts.

A line of a text has no line feed in it (`not_mem_of_mem_lines`); a carriage return it may
have.
-/

namespace SceneAudit.Text

/-- No character of the text belongs to a line end. -/
def IsUnbroken (text : String) : Prop :=
  ∀ c ∈ text.toList, c ≠ '\n' ∧ c ≠ '\r'

instance (text : String) : Decidable (IsUnbroken text) :=
  List.decidableBAll (fun c => c ≠ '\n' ∧ c ≠ '\r') text.toList

theorem IsUnbroken.isLine {text : String} (h : IsUnbroken text) : IsLine text := by
  constructor
  · intro hfeed
    exact (h '\n' hfeed).1 rfl
  · intro hreturn
    exact (h '\r' (List.mem_of_getLast? hreturn)).2 rfl

theorem isUnbroken_append_iff {front back : String} :
    IsUnbroken (front ++ back) ↔ IsUnbroken front ∧ IsUnbroken back := by
  unfold IsUnbroken
  rw [String.toList_append, List.forall_mem_append]

theorem IsUnbroken.intercalate {separator : String} (hseparator : IsUnbroken separator)
    {texts : List String} (htexts : ∀ text ∈ texts, IsUnbroken text) :
    IsUnbroken (separator.intercalate texts) := by
  unfold IsUnbroken at *
  rw [String.toList_intercalate]
  induction texts with
  | nil => simp
  | cons text texts ih =>
      rw [List.forall_mem_cons] at htexts
      have hrest := ih htexts.2
      cases texts with
      | nil =>
          rw [List.map_singleton, List.intercalate_singleton]
          exact htexts.1
      | cons next texts =>
          rw [List.map_cons, List.map_cons, List.intercalate_cons_cons, ← List.map_cons,
            List.forall_mem_append, List.forall_mem_append]
          exact ⟨⟨htexts.1, hseparator⟩, hrest⟩

/-! ## Numbers -/

theorem isDigit_of_mem_toString {number : Nat} {c : Char} (h : c ∈ (toString number).toList) :
    c.isDigit = true := by
  rw [Nat.toString_eq_repr, Nat.toList_repr] at h
  exact Nat.isDigit_of_mem_toDigits (by decide) (by decide) h

theorem isUnbroken_toString (number : Nat) : IsUnbroken (toString number) := by
  intro c hc
  have hdigit := isDigit_of_mem_toString hc
  constructor <;> rintro rfl <;> exact absurd hdigit (by decide)

theorem isUnbroken_of_isDigitRun {text : String} (h : IsDigitRun text.toList) : IsUnbroken text := by
  intro c hc
  have hdigit := h.2 c hc
  constructor <;> rintro rfl <;> exact absurd hdigit (by decide)

theorem isUnbroken_of_isNumeral {text : String} (h : IsNumeral text.toList) : IsUnbroken text := by
  rcases h with hrun | ⟨run, htext, hrun⟩
  · exact isUnbroken_of_isDigitRun hrun
  · intro c hc
    rw [htext, List.mem_cons] at hc
    rcases hc with rfl | hc
    · decide
    · have hdigits : IsDigitRun (String.ofList run).toList := by rwa [String.toList_ofList]
      exact isUnbroken_of_isDigitRun hdigits c (by rwa [String.toList_ofList])

/-! ## Lines of a text -/

theorem not_mem_of_mem_pieces {cs piece : List Char} (h : piece ∈ pieces cs) : '\n' ∉ piece := by
  induction cs generalizing piece with
  | nil =>
      rw [List.mem_singleton.mp h]
      exact List.not_mem_nil
  | cons c cs ih =>
      obtain ⟨first, more, hpieces⟩ := List.exists_cons_of_ne_nil (pieces_ne_nil cs)
      by_cases hc : c = '\n'
      · subst hc
        have hsplit : pieces ('\n' :: cs) = [] :: pieces cs := rfl
        rw [hsplit] at h
        rcases List.mem_cons.mp h with rfl | hrest
        · exact List.not_mem_nil
        · exact ih hrest
      · rw [hpieces, List.forall_mem_cons] at ih
        have hfront : '\n' ∉ [c] := by simpa using Ne.symm hc
        have hsplit := pieces_append_of_not_mem hfront hpieces
        rw [List.singleton_append] at hsplit
        rw [hsplit] at h
        rcases List.mem_cons.mp h with rfl | hrest
        · rw [List.singleton_append, List.mem_cons, not_or]
          exact ⟨Ne.symm hc, ih.1⟩
        · exact ih.2 _ hrest

theorem prefix_of_dropReturn (piece : List Char) : dropReturn piece <+: piece := by
  unfold dropReturn
  split
  · rename_i front hreverse
    rw [← List.reverse_reverse piece, hreverse, List.reverse_cons]
    exact List.prefix_append _ _
  · exact List.prefix_rfl

/-- No line of a text has a line feed in it. -/
theorem not_mem_of_mem_lines {text line : String} (h : line ∈ lines text) : '\n' ∉ line.toList := by
  obtain ⟨cs, hcs, rfl⟩ := List.mem_map.mp h
  rw [String.toList_ofList]
  rcases List.mem_append.mp hcs with hended | hlast
  · obtain ⟨piece, hpiece, rfl⟩ := List.mem_map.mp hended
    intro hfeed
    exact not_mem_of_mem_pieces (List.dropLast_subset _ hpiece)
      ((prefix_of_dropReturn piece).subset hfeed)
  · have hpiece := Option.mem_toList.mp (List.mem_filter.mp hlast).1
    exact not_mem_of_mem_pieces (List.mem_of_getLast? hpiece)

end SceneAudit.Text
