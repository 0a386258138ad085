import SceneAudit.Csv
import SceneAudit.Proofs.Text.Numeral

/-!
# The grammar of comma-separated rows

This is the standard grammar of comma-separated values without a header (`IsText`): a
field stands as it is or between quotes, commas separate the fields of a row, and a row ends
with a line break, which may be missing behind the last one.  A line break may also be a
lone line feed.

The grammar is unambiguous (`IsText.unique`), and what is written for some rows is a text
of exactly these rows (`isText_encode_iff`).

Each part is unique together with what follows it, as long as that starts with something
that ends the part: a field ends before a comma or a line break, a row before a line break,
and what stands between quotes before a quote that no other quote follows.
-/

namespace SceneAudit.Csv

/-! ## The grammar -/

/-- A character that may stand in a field without quotes. -/
def IsPlain (c : Char) : Prop :=
  c ≠ ',' ∧ c ≠ '"' ∧ c ≠ '\r' ∧ c ≠ '\n'

instance (c : Char) : Decidable (IsPlain c) :=
  inferInstanceAs (Decidable (_ ∧ _))

/-- What stands between quotes for a field: every quote of the field stands there twice. -/
inductive IsQuoted : List Char → List Char → Prop where
  | nil : IsQuoted [] []
  | other {c : Char} {written field : List Char} (hc : c ≠ '"') (hrest : IsQuoted written field) :
      IsQuoted (c :: written) (c :: field)
  | quote {written field : List Char} (hrest : IsQuoted written field) :
      IsQuoted ('"' :: '"' :: written) ('"' :: field)

inductive IsField : List Char → String → Prop where
  | bare {field : String} (hplain : ∀ c ∈ field.toList, IsPlain c) : IsField field.toList field
  | quoted {written : List Char} {field : String} (hquoted : IsQuoted written field.toList) :
      IsField ('"' :: (written ++ ['"'])) field

/-- A row has at least one field. -/
inductive IsRow : List Char → List String → Prop where
  | single {written : List Char} {field : String} (hfield : IsField written field) :
      IsRow written [field]
  | more {written rest : List Char} {field : String} {fields : List String}
      (hfield : IsField written field) (hrest : IsRow rest fields) :
      IsRow (written ++ ',' :: rest) (field :: fields)

def IsLineBreak (written : List Char) : Prop :=
  written = ['\n'] ∨ written = ['\r', '\n']

inductive IsText : List Char → List (List String) → Prop where
  | nil : IsText [] []
  /-- The last row may go without a line break, but not without any character. -/
  | last {written : List Char} {row : List String} (hrow : IsRow written row) (hne : written ≠ []) :
      IsText written [row]
  | row {written ending rest : List Char} {row : List String} {rows : List (List String)}
      (hrow : IsRow written row) (hbreak : IsLineBreak ending) (hrest : IsText rest rows) :
      IsText (written ++ (ending ++ rest)) (row :: rows)

/-! ## What may follow -/

/-- A row ends before this: it is empty or starts with a character of a line break. -/
def EndsRow (after : List Char) : Prop :=
  ∀ c ∈ after.head?, c = '\r' ∨ c = '\n'

/-- A field ends before this. -/
def EndsField (after : List Char) : Prop :=
  ∀ c ∈ after.head?, c = ',' ∨ c = '\r' ∨ c = '\n'

theorem EndsRow.endsField {after : List Char} (h : EndsRow after) : EndsField after :=
  fun c hc => .inr (h c hc)

theorem endsField_comma (after : List Char) : EndsField (',' :: after) := by
  intro c hc
  exact .inl (Option.mem_some_iff.mp hc).symm

theorem endsRow_nil : EndsRow [] := by
  intro c hc
  exact absurd hc (Option.not_mem_none c)

theorem IsLineBreak.endsRow {ending : List Char} (h : IsLineBreak ending) (after : List Char) :
    EndsRow (ending ++ after) := by
  rcases h with rfl | rfl <;> simp [EndsRow]

/-! ## Reading in one way only -/

theorem IsQuoted.unique {written written' field field' after after' : List Char}
    (h : IsQuoted written field) (h' : IsQuoted written' field')
    (heq : written ++ '"' :: after = written' ++ '"' :: after')
    (hafter : after.head? ≠ some '"') (hafter' : after'.head? ≠ some '"') :
    field = field' ∧ after = after' := by
  induction h generalizing written' field' with
  | nil =>
      cases h' with
      | nil => exact ⟨rfl, by simpa using heq⟩
      | other hc _ => exact absurd (List.cons.inj heq).1.symm hc
      | quote _ =>
          rw [(List.cons.inj heq).2] at hafter
          exact absurd rfl hafter
  | other hc _ ih =>
      cases h' with
      | nil => exact absurd (List.cons.inj heq).1 hc
      | other _ hrest =>
          obtain ⟨rfl, htail⟩ := List.cons.inj heq
          obtain ⟨rfl, hsame⟩ := ih hrest htail
          exact ⟨rfl, hsame⟩
      | quote _ => exact absurd (List.cons.inj heq).1 hc
  | quote _ ih =>
      cases h' with
      | nil =>
          rw [← (List.cons.inj heq).2] at hafter'
          exact absurd rfl hafter'
      | other hc _ => exact absurd (List.cons.inj heq).1.symm hc
      | quote hrest =>
          obtain ⟨rfl, hsame⟩ := ih hrest (List.cons.inj (List.cons.inj heq).2).2
          exact ⟨rfl, hsame⟩

theorem EndsField.not_isPlain {after : List Char} (h : EndsField after) :
    ∀ c ∈ after.head?, ¬ IsPlain c := by
  rintro c hc ⟨hcomma, -, hreturn, hfeed⟩
  rcases h c hc with heq | heq | heq
  · exact hcomma heq
  · exact hreturn heq
  · exact hfeed heq

theorem EndsField.head?_ne_quote {after : List Char} (h : EndsField after) :
    after.head? ≠ some '"' := by
  intro hquote
  rcases h '"' hquote with heq | heq | heq <;> exact absurd heq (by decide)

/-- A field without quotes does not start like one with quotes. -/
theorem bare_ne_quoted {field after rest : List Char} (hplain : ∀ c ∈ field, IsPlain c)
    (hafter : EndsField after) : field ++ after ≠ '"' :: rest := by
  intro heq
  cases field with
  | nil =>
      rw [List.nil_append] at heq
      exact hafter.head?_ne_quote (by rw [heq, List.head?_cons])
  | cons c field =>
      obtain ⟨rfl, -⟩ := List.cons.inj heq
      exact (hplain '"' List.mem_cons_self).2.1 rfl

theorem IsField.unique {written written' after after' : List Char} {field field' : String}
    (h : IsField written field) (h' : IsField written' field')
    (heq : written ++ after = written' ++ after') (hafter : EndsField after)
    (hafter' : EndsField after') : field = field' ∧ after = after' := by
  cases h with
  | bare hplain =>
      cases h' with
      | bare hplain' =>
          have hrun := Text.takeWhile_append_eq (p := fun c => decide (IsPlain c))
            (fun c hc => decide_eq_true (hplain c hc))
            (fun c hc => decide_eq_false (hafter.not_isPlain c hc))
          have hrun' := Text.takeWhile_append_eq (p := fun c => decide (IsPlain c))
            (fun c hc => decide_eq_true (hplain' c hc))
            (fun c hc => decide_eq_false (hafter'.not_isPlain c hc))
          have hfield : field.toList = field'.toList := by rw [← hrun, heq, hrun']
          obtain rfl := String.toList_injective hfield
          exact ⟨rfl, List.append_cancel_left heq⟩
      | quoted hquoted' => exact absurd heq (bare_ne_quoted hplain hafter)
  | quoted hquoted =>
      cases h' with
      | bare hplain' => exact absurd heq.symm (bare_ne_quoted hplain' hafter')
      | quoted hquoted' =>
          rw [List.cons_append, List.cons_append, List.append_assoc, List.append_assoc] at heq
          have hbetween := (List.cons.inj heq).2
          obtain ⟨hfield, hsame⟩ :=
            hquoted.unique hquoted' hbetween hafter.head?_ne_quote hafter'.head?_ne_quote
          exact ⟨String.toList_injective hfield, hsame⟩

theorem EndsRow.ne_comma {after rest : List Char} (h : EndsRow after) : after ≠ ',' :: rest := by
  rintro rfl
  rcases h ',' rfl with heq | heq <;> exact absurd heq (by decide)

theorem IsRow.unique {written written' after after' : List Char} {row row' : List String}
    (h : IsRow written row) (h' : IsRow written' row')
    (heq : written ++ after = written' ++ after') (hafter : EndsRow after)
    (hafter' : EndsRow after') : row = row' ∧ after = after' := by
  induction h generalizing written' row' with
  | single hfield =>
      cases h' with
      | single hfield' =>
          obtain ⟨rfl, hsame⟩ := hfield.unique hfield' heq hafter.endsField hafter'.endsField
          exact ⟨rfl, hsame⟩
      | more hfield' _ =>
          rw [List.append_assoc, List.cons_append] at heq
          obtain ⟨-, hcomma⟩ := hfield.unique hfield' heq hafter.endsField (endsField_comma _)
          exact absurd hcomma hafter.ne_comma
  | more hfield _ ih =>
      rw [List.append_assoc, List.cons_append] at heq
      cases h' with
      | single hfield' =>
          obtain ⟨-, hcomma⟩ := hfield.unique hfield' heq (endsField_comma _) hafter'.endsField
          exact absurd hcomma.symm hafter'.ne_comma
      | more hfield' hrest' =>
          rw [List.append_assoc, List.cons_append] at heq
          obtain ⟨rfl, hsame⟩ :=
            hfield.unique hfield' heq (endsField_comma _) (endsField_comma _)
          obtain ⟨rfl, hend⟩ := ih hrest' (List.cons.inj hsame).2
          exact ⟨rfl, hend⟩

theorem IsLineBreak.unique {ending ending' after after' : List Char} (h : IsLineBreak ending)
    (h' : IsLineBreak ending') (heq : ending ++ after = ending' ++ after') : after = after' := by
  rcases h with rfl | rfl
  · rcases h' with rfl | rfl
    · exact List.append_cancel_left heq
    · exact absurd (List.cons.inj heq).1 (by decide)
  · rcases h' with rfl | rfl
    · exact absurd (List.cons.inj heq).1 (by decide)
    · exact List.append_cancel_left heq

theorem IsLineBreak.append_ne_nil {ending : List Char} (h : IsLineBreak ending)
    (after : List Char) : ending ++ after ≠ [] := by
  rcases h with rfl | rfl <;> simp

/-- A text can be read in one way only. -/
theorem IsText.unique {written : List Char} {rows rows' : List (List String)}
    (h : IsText written rows) (h' : IsText written rows') : rows = rows' := by
  induction h generalizing rows' with
  | nil =>
      generalize hwritten : ([] : List Char) = written at h'
      cases h' with
      | nil => rfl
      | last _ hne => exact absurd hwritten.symm hne
      | row _ hbreak _ =>
          exact absurd (List.append_eq_nil_iff.mp hwritten.symm).2 (hbreak.append_ne_nil _)
  | @last written row hrow hne =>
      generalize hwritten : written = whole at h'
      cases h' with
      | nil => exact absurd hwritten hne
      | last hrow' _ =>
          have hsame : written ++ [] = whole ++ [] := by rw [hwritten]
          obtain ⟨rfl, -⟩ := hrow.unique hrow' hsame endsRow_nil endsRow_nil
          rfl
      | row hrow' hbreak _ =>
          rw [← List.append_nil written] at hwritten
          obtain ⟨-, hnil⟩ := hrow.unique hrow' hwritten endsRow_nil (hbreak.endsRow _)
          exact absurd hnil.symm (hbreak.append_ne_nil _)
  | @row written ending rest row rows hrow hbreak _ ih =>
      generalize hwritten : written ++ (ending ++ rest) = whole at h'
      cases h' with
      | nil => exact absurd (List.append_eq_nil_iff.mp hwritten).2 (hbreak.append_ne_nil _)
      | last hrow' _ =>
          rw [← List.append_nil whole] at hwritten
          obtain ⟨-, hnil⟩ := hrow.unique hrow' hwritten (hbreak.endsRow _) endsRow_nil
          exact absurd hnil (hbreak.append_ne_nil _)
      | row hrow' hbreak' hrest' =>
          obtain ⟨rfl, hends⟩ := hrow.unique hrow' hwritten (hbreak.endsRow _) (hbreak'.endsRow _)
          obtain rfl := hbreak.unique hbreak' hends
          rw [ih hrest']

/-! ## What is written -/

theorem isQuoted_doubleQuotes (field : List Char) : IsQuoted (doubleQuotes field) field := by
  unfold doubleQuotes
  induction field with
  | nil => exact .nil
  | cons c field ih =>
      rw [List.flatMap_cons]
      by_cases hc : c = '"'
      · subst hc
        exact .quote ih
      · rw [if_neg hc]
        exact .other hc ih

theorem isPlain_of_needsQuotes_eq_false {c : Char} (h : needsQuotes c = false) : IsPlain c := by
  simpa [needsQuotes, IsPlain, and_assoc] using h

theorem isField_encodeField (field : String) : IsField (encodeField field) field := by
  unfold encodeField
  by_cases hany : field.toList.any needsQuotes = true
  · rw [if_pos hany]
    exact .quoted (isQuoted_doubleQuotes field.toList)
  · rw [if_neg hany]
    refine .bare ?_
    intro c hc
    apply isPlain_of_needsQuotes_eq_false
    exact Bool.eq_false_iff.mpr fun hquotes => hany (List.any_eq_true.mpr ⟨c, hc, hquotes⟩)

theorem isRow_intercalate {fields : List String} (hne : fields ≠ []) :
    IsRow ([','].intercalate (fields.map encodeField)) fields := by
  induction fields with
  | nil => exact absurd rfl hne
  | cons field fields ih =>
      cases fields with
      | nil =>
          rw [List.map_singleton, List.intercalate_singleton]
          exact .single (isField_encodeField field)
      | cons next fields =>
          rw [List.map_cons, List.map_cons, List.intercalate_cons_cons, List.append_assoc,
            List.singleton_append, ← List.map_cons]
          exact .more (isField_encodeField field) (ih (List.cons_ne_nil _ _))

/-- What is written for some rows is a text of these rows. -/
theorem isText_encode {rows : List (List String)} (hrows : ∀ row ∈ rows, row ≠ []) :
    IsText (encode rows).toList rows := by
  induction rows with
  | nil => exact .nil
  | cons row rows ih =>
      have hrow := isRow_intercalate (hrows row List.mem_cons_self)
      have hrest := ih fun other hother => hrows other (List.mem_cons_of_mem row hother)
      have hwritten : (encode (row :: rows)).toList =
          [','].intercalate (row.map encodeField) ++ (['\n'] ++ (encode rows).toList) := by
        simp [encode, encodeRow, String.toList_join]
      rw [hwritten]
      exact .row hrow (.inl rfl) hrest

/-- **Rows are read back as they were written**, and in no other way. -/
theorem isText_encode_iff {rows rows' : List (List String)} (hrows : ∀ row ∈ rows, row ≠ []) :
    IsText (encode rows).toList rows' ↔ rows' = rows := by
  constructor
  · intro h
    exact h.unique (isText_encode hrows)
  · rintro rfl
    exact isText_encode hrows

theorem encode_append (rows more : List (List String)) :
    encode (rows ++ more) = encode rows ++ encode more := by
  rw [encode, encode, encode, List.map_append, String.join_append]

end SceneAudit.Csv
