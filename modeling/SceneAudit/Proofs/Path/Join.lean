import SceneAudit.Path
import Mathlib.Data.List.Basic
import Mathlib.Data.List.TakeWhile

/-!
# Paths of entries in a directory

The path of an entry is the path of its directory, a slash unless there is one, and
the entry's name (`toList_join`).  So the name is its last component
(`components_join`) and its file name (`splitFileName?_join`), and what cutting off the
extension leaves is the path of another entry of the same directory
(`withoutExtension_join`).
-/

namespace SceneAudit.Path

/-- A text that leads one step on: it is not empty and has no slash in it. -/
def IsStep (text : String) : Prop :=
  text ≠ "" ∧ '/' ∉ text.toList

/-- A text that can be the name of an entry. -/
def IsName (name : String) : Prop :=
  IsStep name ∧ name ≠ "." ∧ name ≠ ".."

instance (text : String) : Decidable (IsStep text) :=
  inferInstanceAs (Decidable (_ ∧ _))

instance (name : String) : Decidable (IsName name) :=
  inferInstanceAs (Decidable (_ ∧ _))

theorem IsStep.toList_ne_nil {text : String} (h : IsStep text) : text.toList ≠ [] := by
  intro hnil
  exact h.1 (String.toList_eq_nil_iff.mp hnil)

/-! ## Pieces between slashes -/

theorem splitAtSlashes_ne_nil (cs : List Char) : splitAtSlashes cs ≠ [] := by
  cases cs with
  | nil => simp [splitAtSlashes]
  | cons c cs =>
      unfold splitAtSlashes
      rw [List.foldr_cons]
      split <;> simp

theorem splitAtSlashes_of_not_mem {cs : List Char} (hcs : '/' ∉ cs) : splitAtSlashes cs = [cs] := by
  induction cs with
  | nil => rfl
  | cons c cs ih =>
      have hc : c ≠ '/' := fun heq => hcs (heq ▸ List.mem_cons_self)
      have hrest := ih fun hmem => hcs (List.mem_cons_of_mem _ hmem)
      unfold splitAtSlashes at hrest ⊢
      rw [List.foldr_cons, hrest]
      simp

theorem splitAtSlashes_append_slash (front back : List Char) :
    splitAtSlashes (front ++ '/' :: back) = splitAtSlashes front ++ splitAtSlashes back := by
  induction front with
  | nil => rfl
  | cons c front ih =>
      obtain ⟨piece, more, hpieces⟩ := List.exists_cons_of_ne_nil (splitAtSlashes_ne_nil front)
      unfold splitAtSlashes at ih hpieces ⊢
      rw [List.cons_append, List.foldr_cons, List.foldr_cons, ih, hpieces]
      by_cases hc : c = '/'
      · subst hc
        rfl
      · simp

theorem slash_not_mem_of_mem_splitAtSlashes (cs : List Char) :
    ∀ piece ∈ splitAtSlashes cs, '/' ∉ piece := by
  induction cs with
  | nil => simp [splitAtSlashes]
  | cons c cs ih =>
      obtain ⟨first, more, hpieces⟩ := List.exists_cons_of_ne_nil (splitAtSlashes_ne_nil cs)
      rw [hpieces] at ih
      unfold splitAtSlashes at hpieces ⊢
      rw [List.foldr_cons, hpieces]
      by_cases hc : c = '/'
      · subst hc
        simpa using ih
      · simpa [Ne.symm hc] using ih

/-! ## The text of a joined path -/

/-- The text of a directory's path with the slash that leads inside. -/
def inside (path : Path) : List Char :=
  if path.text = "" ∨ path.text.toList.getLast? = some '/' then path.text.toList
  else path.text.toList ++ ['/']

theorem isAbsolute_of_step {step : String} (hstep : IsStep step) : isAbsolute ⟨step⟩ = false := by
  unfold isAbsolute
  rw [beq_eq_false_iff_ne]
  intro hhead
  exact hstep.2 (List.mem_of_head? hhead)

theorem toList_join (path : Path) {step : String} (hstep : IsStep step) :
    (path.join step).text.toList = path.inside ++ step.toList := by
  unfold join inside
  rw [isAbsolute_of_step hstep]
  simp only [Bool.false_eq_true, if_false]
  split <;> simp

theorem join_ofList (path : Path) {step : List Char} (hstep : IsStep (String.ofList step)) :
    path.join (String.ofList step) = ⟨String.ofList (path.inside ++ step)⟩ := by
  have htext := toList_join path hstep
  rw [String.toList_ofList] at htext
  rw [← htext, String.ofList_toList]

/-- What leads inside is nothing for the empty path and otherwise ends with the only
slash that counts. -/
theorem inside_cases (path : Path) :
    path.text = "" ∧ path.inside = [] ∨
      path.text ≠ "" ∧ ∃ front, path.inside = front ++ ['/'] ∧
        (path.text.toList = front ∨ path.text.toList = front ++ ['/']) := by
  unfold inside
  by_cases hempty : path.text = ""
  · left
    simp [hempty]
  · right
    refine ⟨hempty, ?_⟩
    by_cases hslash : path.text.toList.getLast? = some '/'
    · obtain ⟨front, hfront⟩ := List.getLast?_eq_some_iff.mp hslash
      refine ⟨front, ?_, .inr hfront⟩
      rw [if_pos (.inr hslash), hfront]
    · refine ⟨path.text.toList, ?_, .inl rfl⟩
      rw [if_neg (by simp [hempty, hslash])]

/-! ## The pieces and components of a joined path -/

/-- The pieces that are not empty are those of the directory and the step. -/
theorem filter_splitAtSlashes_join (path : Path) {step : String} (hstep : IsStep step) :
    (splitAtSlashes (path.join step).text.toList).filter (· ≠ []) =
      (splitAtSlashes path.text.toList).filter (· ≠ []) ++ [step.toList] := by
  have hpiece : splitAtSlashes step.toList = [step.toList] := splitAtSlashes_of_not_mem hstep.2
  rw [toList_join path hstep]
  obtain ⟨htext, hinside⟩ | ⟨-, front, hinside, htext | htext⟩ := inside_cases path
  · rw [hinside, htext, List.nil_append, hpiece]
    simp [splitAtSlashes, hstep.1]
  · rw [hinside, htext, List.append_assoc, List.singleton_append, splitAtSlashes_append_slash, hpiece]
    simp [hstep.1]
  · rw [hinside, htext, List.append_assoc, List.singleton_append, splitAtSlashes_append_slash, hpiece,
      splitAtSlashes_append_slash]
    simp [splitAtSlashes, hstep.1]

theorem isAbsolute_join (path : Path) {step : String} (hstep : IsStep step) :
    (path.join step).isAbsolute = path.isAbsolute := by
  unfold isAbsolute
  rw [toList_join path hstep]
  obtain ⟨htext, hinside⟩ | ⟨hne, front, hinside, htext | htext⟩ := inside_cases path
  · have hrelative := isAbsolute_of_step hstep
    unfold isAbsolute at hrelative
    rw [hinside, htext, List.nil_append, hrelative]
    rfl
  · have hfront : front ≠ [] := by
      rw [← htext]
      exact fun hnil => hne (String.toList_eq_nil_iff.mp hnil)
    rw [hinside, htext, List.append_assoc, List.head?_append_of_ne_nil _ hfront]
  · rw [hinside, htext, List.head?_append_of_ne_nil _ (by simp)]

theorem head?_splitAtSlashes_join (path : Path) (hpath : path.text ≠ "") {step : String}
    (hstep : IsStep step) :
    (splitAtSlashes (path.join step).text.toList).head? =
      (splitAtSlashes path.text.toList).head? := by
  rw [toList_join path hstep]
  obtain ⟨htext, -⟩ | ⟨-, front, hinside, htext | htext⟩ := inside_cases path
  · exact absurd htext hpath
  · rw [hinside, htext, List.append_assoc, List.singleton_append, splitAtSlashes_append_slash,
      List.head?_append_of_ne_nil _ (splitAtSlashes_ne_nil _)]
  · rw [hinside, htext, List.append_assoc, List.singleton_append, splitAtSlashes_append_slash,
      splitAtSlashes_append_slash, List.head?_append_of_ne_nil _ (splitAtSlashes_ne_nil _),
      List.head?_append_of_ne_nil _ (splitAtSlashes_ne_nil _)]

theorem leadingComponent?_join (path : Path) {name : String} (hname : IsName name) :
    leadingComponent? (path.join name).isAbsolute (splitAtSlashes (path.join name).text.toList) =
      leadingComponent? path.isAbsolute (splitAtSlashes path.text.toList) := by
  obtain ⟨hstep, hdot, -⟩ := hname
  rw [isAbsolute_join path hstep]
  by_cases hpath : path.text = ""
  · -- the name itself comes first, and it is not the one that counts in this place
    have hinside : path.inside = [] := by simp [inside, hpath]
    have hfirst : name.toList ≠ ['.'] := by
      intro heq
      exact hdot (String.toList_injective heq)
    rw [toList_join path hstep, hinside, hpath, List.nil_append, splitAtSlashes_of_not_mem hstep.2]
    simp [leadingComponent?, splitAtSlashes, hfirst]
  · unfold leadingComponent?
    rw [head?_splitAtSlashes_join path hpath hstep]

theorem filterMap_innerComponent? (pieces : List (List Char)) :
    pieces.filterMap innerComponent? = (pieces.filter (· ≠ [])).filterMap innerComponent? := by
  rw [List.filterMap_filter]
  apply List.filterMap_congr
  intro piece _
  by_cases hpiece : piece = []
  · simp [hpiece, innerComponent?]
  · simp [hpiece]

theorem innerComponent?_name {name : String} (hname : IsName name) :
    innerComponent? name.toList = some (.name name) := by
  obtain ⟨hstep, hdot, hdots⟩ := hname
  have hne : ¬ (name.toList = [] ∨ name.toList = ['.']) := by
    rintro (hnil | heq)
    · exact hstep.toList_ne_nil hnil
    · exact hdot (String.toList_injective heq)
  have hne' : name.toList ≠ ['.', '.'] := fun heq => hdots (String.toList_injective heq)
  rw [innerComponent?, if_neg hne, if_neg hne', String.ofList_toList]

theorem components_join (path : Path) {name : String} (hname : IsName name) :
    (path.join name).components = path.components ++ [.name name] := by
  unfold components
  simp only
  rw [leadingComponent?_join path hname, filterMap_innerComponent?,
    filter_splitAtSlashes_join path hname.1, List.filterMap_append, ← filterMap_innerComponent?,
    List.append_assoc]
  simp [innerComponent?_name hname]

/-! ## The file name of a joined path -/

theorem dropTrail_eq_self {c : Char} {cs : List Char} (hc : c ≠ '/')
    (hnext : c = '.' → cs.head? ≠ some '/') : dropTrail (c :: cs) = c :: cs := by
  unfold dropTrail
  split
  · rename_i heq
    exact absurd (List.cons.inj heq).1 hc
  · rename_i heq
    obtain ⟨hdot, hslash⟩ := List.cons.inj heq
    exact absurd (by rw [hslash]; rfl) (hnext hdot)
  · rfl

theorem reverse_inside_eq (path : Path) : ∀ c ∈ path.inside.reverse.head?, c = '/' := by
  obtain ⟨-, hinside⟩ | ⟨-, front, hinside, -⟩ := inside_cases path
  · simp [hinside]
  · simp [hinside]

theorem dropTrail_reverse_join (path : Path) {step : String} (hstep : IsStep step)
    (hdot : step ≠ ".") :
    dropTrail (path.join step).text.toList.reverse = step.toList.reverse ++ path.inside.reverse := by
  rw [toList_join path hstep, List.reverse_append]
  obtain ⟨c, cs, hcs⟩ := List.exists_cons_of_ne_nil
    (List.reverse_ne_nil_iff.mpr hstep.toList_ne_nil)
  have hslash : ∀ d ∈ c :: cs, d ≠ '/' := by
    intro d hd heq
    rw [← hcs, List.mem_reverse, heq] at hd
    exact hstep.2 hd
  rw [hcs, List.cons_append]
  apply dropTrail_eq_self (hslash c List.mem_cons_self)
  intro hc
  cases cs with
  | nil =>
      -- a dot alone is not the step
      have htext : step.toList = ['.'] := by
        rw [← List.reverse_reverse step.toList, hcs, hc]
        rfl
      exact absurd (String.toList_injective htext) hdot
  | cons d cs =>
      have hd : d ≠ '/' := hslash d (by simp)
      simpa using hd

theorem takeWhile_reverse_join (path : Path) {step : String} (hstep : IsStep step) :
    (step.toList.reverse ++ path.inside.reverse).takeWhile (· != '/') = step.toList.reverse ∧
      (step.toList.reverse ++ path.inside.reverse).dropWhile (· != '/') = path.inside.reverse := by
  have hslash : ∀ c ∈ step.toList.reverse, (c != '/') = true := by
    intro c hc
    rw [bne_iff_ne]
    rintro rfl
    exact hstep.2 (List.mem_reverse.mp hc)
  have hinside := reverse_inside_eq path
  rw [List.takeWhile_append_of_pos hslash, List.dropWhile_append_of_pos hslash]
  cases hreverse : path.inside.reverse with
  | nil => simp
  | cons c cs =>
      rw [hreverse] at hinside
      obtain rfl := hinside c rfl
      simp

theorem splitFileName?_join (path : Path) {step : String} (hstep : IsStep step)
    (hdot : step ≠ ".") :
    (path.join step).splitFileName? =
      if step = ".." then none else some (path.inside, step.toList) := by
  obtain ⟨htake, hdrop⟩ := takeWhile_reverse_join path hstep
  have hdots : step.toList = ['.', '.'] ↔ step = ".." :=
    ⟨fun heq => String.toList_injective heq, fun heq => heq ▸ rfl⟩
  have hne : step.toList ≠ ['.'] := fun heq => hdot (String.toList_injective heq)
  unfold splitFileName?
  simp only
  rw [dropTrail_reverse_join path hstep hdot, htake, hdrop, List.reverse_reverse,
    List.reverse_reverse]
  simp [hstep.toList_ne_nil, hne, hdots]

theorem splitFileName?_join_name (path : Path) {name : String} (hname : IsName name) :
    (path.join name).splitFileName? = some (path.inside, name.toList) := by
  rw [splitFileName?_join path hname.1 hname.2.1, if_neg hname.2.2]

theorem fileName?_join (path : Path) {name : String} (hname : IsName name) :
    (path.join name).fileName? = some name := by
  rw [fileName?, splitFileName?_join_name path hname]
  exact congrArg some String.ofList_toList

/-- The directory that a joined path lies in does not depend on the step. -/
theorem parent?_join (path : Path) {step other : String} (hstep : IsStep step) (hdot : step ≠ ".")
    (hother : IsStep other) (hotherDot : other ≠ ".") :
    (path.join step).parent? = (path.join other).parent? := by
  have hcons : ∀ {step : String}, IsStep step →
      ∃ c cs, step.toList.reverse ++ path.inside.reverse = c :: cs := by
    intro step hstep
    have hne := List.reverse_ne_nil_iff.mpr hstep.toList_ne_nil
    exact List.exists_cons_of_ne_nil (List.append_ne_nil_of_left_ne_nil hne _)
  obtain ⟨c, cs, hfirst⟩ := hcons hstep
  obtain ⟨d, ds, hsecond⟩ := hcons hother
  unfold parent?
  simp only [dropTrail_reverse_join path hstep hdot, dropTrail_reverse_join path hother hotherDot,
    (takeWhile_reverse_join path hstep).2, (takeWhile_reverse_join path hother).2]
  rw [hfirst, hsecond]

/-! ## Extensions -/

/-- The extension is what stands behind the last dot, if something stands before this dot. -/
theorem splitExtension?_eq_some_iff {name stem extension : List Char} :
    splitExtension? name = some (stem, extension) ↔
      stem ≠ [] ∧ '.' ∉ extension ∧ name = stem ++ '.' :: extension := by
  have hreverse : name.reverse =
      name.reverse.takeWhile (· != '.') ++ name.reverse.dropWhile (· != '.') :=
    List.takeWhile_append_dropWhile.symm
  constructor
  · intro h
    unfold splitExtension? at h
    split at h
    · exact absurd h (by simp)
    · rename_i c reversedStem hdrop
      split_ifs at h with hstem
      obtain ⟨rfl, rfl⟩ := Prod.mk.inj (Option.some.inj h)
      refine ⟨by simpa using hstem, ?_, ?_⟩
      · intro hdot
        simpa using List.mem_takeWhile_imp (List.mem_reverse.mp hdot)
      · have hc : c = '.' := by
          have hhead := List.head?_dropWhile_not (· != '.') name.reverse
          rw [hdrop] at hhead
          simpa using hhead
        rw [hdrop, hc] at hreverse
        apply List.reverse_injective
        simpa using hreverse
  · rintro ⟨hstem, hdot, rfl⟩
    have hdots : ∀ c ∈ extension.reverse, (c != '.') = true := by
      intro c hc
      rw [bne_iff_ne]
      rintro rfl
      exact hdot (List.mem_reverse.mp hc)
    have hwhole : (stem ++ '.' :: extension).reverse = extension.reverse ++ '.' :: stem.reverse := by
      simp
    rw [splitExtension?, hwhole, List.takeWhile_append_of_pos hdots, List.dropWhile_append_of_pos hdots]
    simp [hstem]

theorem splitExtension?_append {stem extension : String} (hstem : stem ≠ "")
    (hdot : '.' ∉ extension.toList) :
    splitExtension? (stem ++ "." ++ extension).toList = some (stem.toList, extension.toList) := by
  rw [splitExtension?_eq_some_iff]
  exact ⟨mt String.toList_eq_nil_iff.mp hstem, hdot, by simp⟩

theorem extension?_join (path : Path) {name : String} (hname : IsName name) :
    (path.join name).extension? =
      (splitExtension? name.toList).map fun parts => String.ofList parts.2 := by
  rw [extension?, splitFileName?_join_name path hname]
  simp only [Option.bind_eq_bind, Option.bind_some]
  cases splitExtension? name.toList <;> rfl

/-- The name is some text, a dot and the extension, in which there is no other dot. -/
def HasExtension (extension name : String) : Prop :=
  ∃ stem, stem ≠ "" ∧ '.' ∉ extension.toList ∧ name = stem ++ "." ++ extension

theorem extension?_join_eq_some_iff (path : Path) {name extension : String} (hname : IsName name) :
    (path.join name).extension? = some extension ↔ HasExtension extension name := by
  rw [extension?_join path hname]
  constructor
  · intro h
    obtain ⟨⟨stem, rest⟩, hparts, rfl⟩ := Option.map_eq_some_iff.mp h
    obtain ⟨hstem, hdot, hwhole⟩ := splitExtension?_eq_some_iff.mp hparts
    refine ⟨String.ofList stem, ?_, by simpa using hdot, ?_⟩
    · rwa [ne_eq, String.ofList_eq_empty_iff]
    · apply String.toList_injective
      simpa using hwhole
  · rintro ⟨stem, hstem, hdot, rfl⟩
    rw [splitExtension?_append hstem hdot, Option.map_some, String.ofList_toList]

/-! ## Cutting off the extension -/

theorem isStep_of_append {name : String} (hname : IsStep name) {stem rest : List Char}
    (hstem : stem ≠ []) (h : name.toList = stem ++ rest) : IsStep (String.ofList stem) := by
  constructor
  · intro hempty
    exact hstem (by simpa using congrArg String.toList hempty)
  · intro hslash
    rw [String.toList_ofList] at hslash
    exact hname.2 (h ▸ List.mem_append_left _ hslash)

/-- The extension goes first, and then what follows the stem of the rest. -/
theorem withoutExtension_join_eq (path : Path) {name : String} (hname : IsName name)
    {stem extension : List Char} (hparts : splitExtension? name.toList = some (stem, extension)) :
    (path.join name).withoutExtension =
      cutAfterStem (path.join (String.ofList (stem ++ ['.']))) := by
  obtain ⟨-, -, hwhole⟩ := splitExtension?_eq_some_iff.mp hparts
  have hextension := extension?_join path hname
  rw [hparts, Option.map_some] at hextension
  have hstep : IsStep (String.ofList (stem ++ ['.'])) :=
    isStep_of_append hname.1 (by simp) (by rw [hwhole, List.append_assoc, List.singleton_append])
  have hcut : (path.join name).text.toList.take
      ((path.join name).text.length - (String.ofList extension).length) =
        path.inside ++ (stem ++ ['.']) := by
    have htext : (path.join name).text.toList = (path.inside ++ (stem ++ ['.'])) ++ extension := by
      rw [toList_join path hname.1, hwhole]
      simp
    rw [← String.length_toList, ← String.length_toList, String.toList_ofList, htext,
      List.length_append, Nat.add_sub_cancel, List.take_left]
  unfold withoutExtension
  rw [hextension]
  simp only
  rw [hcut, join_ofList path hstep]

/-- A dot at the end of an entry's name is cut off, unless it leaves a lone dot. -/
theorem cutAfterStem_join_dot (path : Path) {stem : List Char}
    (hstep : IsStep (String.ofList (stem ++ ['.']))) (hstem : stem ≠ []) (hdot : stem ≠ ['.']) :
    cutAfterStem (path.join (String.ofList (stem ++ ['.']))) = path.join (String.ofList stem) := by
  have hname : IsName (String.ofList (stem ++ ['.'])) := by
    refine ⟨hstep, fun heq => hstem ?_, fun heq => hdot ?_⟩
    · have hlist : stem ++ ['.'] = ['.'] := by simpa using congrArg String.toList heq
      simpa using hlist
    · have hlist : stem ++ ['.'] = ['.'] ++ ['.'] := by simpa using congrArg String.toList heq
      exact List.append_cancel_right hlist
  have hparts : splitExtension? (stem ++ ['.']) = some (stem, []) :=
    splitExtension?_eq_some_iff.mpr ⟨hstem, List.not_mem_nil, rfl⟩
  rw [cutAfterStem, splitFileName?_join_name path hname, String.toList_ofList]
  simp only [hparts]
  exact (join_ofList path (isStep_of_append hstep hstem String.toList_ofList)).symm

/-- Two dots name no entry, so they stay as they are. -/
theorem cutAfterStem_join_dots (path : Path) : cutAfterStem (path.join "..") = path.join ".." := by
  rw [cutAfterStem, splitFileName?_join path (by decide) (by decide), if_pos rfl]

theorem withoutExtension_join_of_parts (path : Path) {name : String} (hname : IsName name)
    {stem extension : List Char} (hparts : splitExtension? name.toList = some (stem, extension))
    (hdot : stem ≠ ['.']) : (path.join name).withoutExtension = path.join (String.ofList stem) := by
  obtain ⟨hstem, -, hwhole⟩ := splitExtension?_eq_some_iff.mp hparts
  have hstep : IsStep (String.ofList (stem ++ ['.'])) :=
    isStep_of_append hname.1 (by simp) (by rw [hwhole, List.append_assoc, List.singleton_append])
  rw [withoutExtension_join_eq path hname hparts, cutAfterStem_join_dot path hstep hstem hdot]

/-- Without its extension an entry's path still leads one step into the directory. -/
theorem withoutExtension_join (path : Path) {name : String} (hname : IsName name) :
    ∃ step, IsStep step ∧ (path.join name).withoutExtension = path.join step := by
  cases hparts : splitExtension? name.toList with
  | none =>
      have hextension := extension?_join path hname
      rw [hparts, Option.map_none] at hextension
      refine ⟨name, hname.1, ?_⟩
      unfold withoutExtension cutAfterStem
      rw [hextension]
      simp only [splitFileName?_join_name path hname, hparts]
      rw [← toList_join path hname.1, String.ofList_toList]
  | some parts =>
      obtain ⟨stem, extension⟩ := parts
      obtain ⟨hstem, -, hwhole⟩ := splitExtension?_eq_some_iff.mp hparts
      by_cases hdot : stem = ['.']
      · refine ⟨"..", by decide, ?_⟩
        rw [withoutExtension_join_eq path hname hparts, hdot]
        exact cutAfterStem_join_dots path
      · exact ⟨_, isStep_of_append hname.1 hstem hwhole,
          withoutExtension_join_of_parts path hname hparts hdot⟩

end SceneAudit.Path
