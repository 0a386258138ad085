import SceneAudit.Discovery
import SceneAudit.Proofs.Digraph.SortedCycle
import SceneAudit.Proofs.FileTree.Restricted
import SceneAudit.Proofs.Path.Order
import Mathlib.Data.List.Induction

/-!
# The files that are found

The disk lists files in no set order; sorted by their components they are in the only
order there is, as no two files of a well-formed tree have the same components
(`ascending_discovered`).  Every file that is found has a name in a directory that
can be reached (`IsEntryPath`), so its own path and that of the asset beside it lead
somewhere.
-/

namespace SceneAudit

open SceneAudit.Path (IsStep IsName)

namespace FileTree

variable {tree : FileTree} {deep : Bool} {directory path : Path} {place : Place}
  {extension : String}

/-! ## What lies below a directory -/

theorem namesBelow?_eq_some_iff {inner : Place} {names : List String} :
    namesBelow? place inner = some names ↔ names ≠ [] ∧ inner = names.reverse ++ place := by
  unfold namesBelow?
  simp only [Bool.and_eq_true, decide_eq_true_eq, Option.ite_none_right_eq_some, Option.some.injEq]
  constructor
  · rintro ⟨⟨hdepth, hdrop⟩, rfl⟩
    have hlength : inner.length - place.length ≤ inner.length := Nat.sub_le _ _
    constructor
    · intro hnil
      have hzero := congrArg List.length hnil
      rw [List.length_reverse, List.length_take, Nat.min_eq_left hlength] at hzero
      exact hdepth hzero
    · calc inner
          _ = inner.take _ ++ inner.drop _ := (List.take_append_drop _ inner).symm
          _ = _ := by rw [hdrop, List.reverse_reverse]
  · rintro ⟨hne, rfl⟩
    have hdepth : (names.reverse ++ place).length - place.length = names.reverse.length := by
      rw [List.length_append, Nat.add_sub_cancel]
    rw [hdepth, List.drop_left, List.take_left, List.reverse_reverse]
    refine ⟨⟨?_, rfl⟩, rfl⟩
    rw [List.length_reverse]
    exact fun hzero => hne (List.length_eq_zero_iff.mp hzero)

theorem mem_below_iff {names : List String} {entry : Entry} :
    (names, entry) ∈ tree.below place ↔
      names ≠ [] ∧ tree.entry? (names.reverse ++ place) = some entry := by
  have hentry : names ≠ [] → tree.entry? (names.reverse ++ place) =
      tree.entries[names.reverse ++ place]? := by
    intro hne
    obtain ⟨name, rest, hcons⟩ := List.exists_cons_of_ne_nil
      (List.append_ne_nil_of_left_ne_nil (mt List.reverse_eq_nil_iff.mp hne) place)
    rw [hcons, entry?_cons]
  unfold below
  rw [List.mem_filterMap]
  constructor
  · rintro ⟨⟨inner, held⟩, hmem, hsome⟩
    obtain ⟨found, hfound, heq⟩ := Option.map_eq_some_iff.mp hsome
    obtain ⟨rfl, rfl⟩ := Prod.mk.inj heq
    obtain ⟨hne, rfl⟩ := namesBelow?_eq_some_iff.mp hfound
    exact ⟨hne, (hentry hne).trans (Std.HashMap.mem_toList_iff_getElem?_eq_some.mp hmem)⟩
  · rintro ⟨hne, hheld⟩
    refine ⟨(names.reverse ++ place, entry), ?_, ?_⟩
    · exact Std.HashMap.mem_toList_iff_getElem?_eq_some.mpr ((hentry hne).symm.trans hheld)
    · simp only [namesBelow?_eq_some_iff.mpr ⟨hne, rfl⟩, Option.map_some]

theorem pairwise_below (tree : FileTree) (place : Place) :
    (tree.below place).Pairwise fun first second => first.1 ≠ second.1 := by
  have hkeys : tree.entries.toList.Pairwise fun first second => (first.1 == second.1) = false :=
    Std.HashMap.distinct_keys_toList
  refine hkeys.filterMap _ ?_
  rintro ⟨place₁, entry₁⟩ ⟨place₂, entry₂⟩ hne ⟨names₁, held₁⟩ hfirst ⟨names₂, held₂⟩ hsecond heq
  obtain ⟨_, hnames₁, hpair₁⟩ := Option.map_eq_some_iff.mp hfirst
  obtain ⟨_, hnames₂, hpair₂⟩ := Option.map_eq_some_iff.mp hsecond
  obtain ⟨rfl, -⟩ := Prod.mk.inj hpair₁
  obtain ⟨rfl, -⟩ := Prod.mk.inj hpair₂
  obtain ⟨-, hplace₁⟩ := namesBelow?_eq_some_iff.mp hnames₁
  obtain ⟨-, hplace₂⟩ := namesBelow?_eq_some_iff.mp hnames₂
  have hplaces : place₁ = place₂ := by
    rw [hplace₁, hplace₂]
    exact congrArg (·.reverse ++ place) heq
  simp [hplaces] at hne

/-! ## Well-formed trees -/

namespace WellFormed

theorem isName_of_mem (hwf : tree.WellFormed) {inner : Place} (h : tree.entry? inner ≠ none) :
    ∀ name ∈ inner, IsName name := by
  induction inner with
  | nil => simp
  | cons name outer ih =>
      have houter : tree.entry? outer ≠ none := by
        rw [hwf.inDirectory name outer h]
        simp
      exact List.forall_mem_cons.mpr ⟨hwf.isName name outer h, ih houter⟩

end WellFormed

/-! ## Paths of entries -/

theorem pathBelow_append_singleton (path : Path) (names : List String) (name : String) :
    pathBelow path (names ++ [name]) = (pathBelow path names).join name := by
  rw [pathBelow, pathBelow, List.foldl_append, List.foldl_cons, List.foldl_nil]

theorem components_pathBelow (path : Path) {names : List String} (hnames : ∀ name ∈ names, IsName name) :
    (pathBelow path names).components = path.components ++ names.map .name := by
  induction names using List.reverseRec with
  | nil => simp [pathBelow]
  | append_singleton names name ih =>
      have hname : IsName name := hnames name (List.mem_append_right _ List.mem_cons_self)
      have hfront := ih fun other hother => hnames other (List.mem_append_left _ hother)
      rw [pathBelow_append_singleton, Path.components_join _ hname, hfront]
      simp

/-- The path is the one of an entry, seen from a directory that it leads to. -/
def IsEntryPath (tree : FileTree) (path : Path) (place : Place) : Prop :=
  ∃ outer name inner, IsName name ∧ path = outer.join name ∧ place = name :: inner ∧
    tree.LeadsInto outer inner

namespace IsEntryPath

theorem locate_eq (h : tree.IsEntryPath path place) : tree.locate path = .ok place := by
  obtain ⟨outer, name, inner, hname, rfl, rfl, hinto⟩ := h
  rw [hinto.locate_join hname.1, descend_of_isName hname]

theorem isDirectory_tail (h : tree.IsEntryPath path place) : tree.IsDirectory place.tail := by
  obtain ⟨_, _, _, -, -, rfl, hinto⟩ := h
  exact hinto.directory

/-- The asset beside a sidecar has a place, whether or not there is anything: one step on
from the sidecar's directory. -/
theorem exists_locate_sourcePath (h : tree.IsEntryPath path place) {sidecar : Sidecar}
    (hpath : sidecar.path = path) :
    ∃ step, tree.locate sidecar.sourcePath = .ok (descend place.tail step) := by
  unfold Sidecar.sourcePath
  rw [hpath]
  have hself := h.locate_eq
  obtain ⟨outer, name, inner, hname, rfl, rfl, hinto⟩ := h
  split_ifs with hextension
  · obtain ⟨step, hstep, hsource⟩ := Path.withoutExtension_join outer hname
    rw [hsource]
    exact ⟨step, hinto.locate_join hstep⟩
  · refine ⟨name, ?_⟩
    rw [List.tail_cons, descend_of_isName hname]
    exact hself

end IsEntryPath

/-- An entry below a directory has a path that leads to it. -/
theorem isEntryPath_pathBelow (hwf : tree.WellFormed) (hlocate : tree.locate directory = .ok place)
    {names : List String} (hne : names ≠ []) (hentry : tree.entry? (names.reverse ++ place) ≠ none) :
    tree.IsEntryPath (pathBelow directory names) (names.reverse ++ place) := by
  induction names using List.reverseRec with
  | nil => exact absurd rfl hne
  | append_singleton names name ih =>
      rw [List.reverse_append, List.reverse_singleton, List.singleton_append] at hentry ⊢
      have hname : IsName name := hwf.isName _ _ hentry
      have hdirectory : tree.IsDirectory (names.reverse ++ place) := hwf.inDirectory _ _ hentry
      refine ⟨pathBelow directory names, name, names.reverse ++ place, hname,
        pathBelow_append_singleton _ _ _, rfl, ?_⟩
      by_cases hnil : names = []
      · subst hnil
        exact leadsInto_of_locate hlocate hdirectory
      · refine leadsInto_of_locate (ih hnil ?_).locate_eq hdirectory
        rw [hdirectory]
        simp

/-! ## Finding files -/

/-- The files that have the extension, in order. -/
def discovered (tree : FileTree) (deep : Bool) (directory : Path) (extension : String) : List Path :=
  withExtension extension (tree.files deep directory)

theorem mem_files_iff :
    path ∈ tree.files deep directory ↔
      ∃ place names contents, tree.find directory = .ok (place, .directory) ∧ names ≠ [] ∧
        (deep = true ∨ names.length = 1) ∧
          tree.entry? (names.reverse ++ place) = some (.file contents) ∧
            path = pathBelow directory names := by
  unfold files
  split
  · rename_i place hfind
    rw [List.mem_filterMap]
    constructor
    · rintro ⟨⟨names, entry⟩, hmem, hpath⟩
      obtain ⟨hne, hentry⟩ := mem_below_iff.mp hmem
      cases entry with
      | directory => simp at hpath
      | full => simp at hpath
      | file contents =>
          simp only [Bool.or_eq_true, decide_eq_true_eq, Option.ite_none_right_eq_some,
            Option.some.injEq] at hpath
          exact ⟨place, names, contents, hfind, hne, hpath.1, hentry, hpath.2.symm⟩
    · rintro ⟨other, names, contents, hother, hne, hdepth, hentry, rfl⟩
      obtain rfl : place = other := by
        have heq := Except.ok.inj (hfind.symm.trans hother)
        exact (Prod.mk.inj heq).1
      refine ⟨(names, .file contents), mem_below_iff.mpr ⟨hne, hentry⟩, ?_⟩
      simp only [Bool.or_eq_true, decide_eq_true_eq, if_pos hdepth]
  · rename_i hfind
    constructor
    · intro h
      exact absurd h List.not_mem_nil
    · rintro ⟨place, names, contents, hother, -⟩
      exact absurd hother (hfind place)

theorem mem_discovered_iff :
    path ∈ tree.discovered deep directory extension ↔
      path ∈ tree.files deep directory ∧ path.extension? = some extension := by
  rw [discovered, withExtension, List.mem_mergeSort, List.mem_filter, decide_eq_true_eq]

theorem files_of_not_isDirectory (h : tree.isDirectory directory = false) :
    tree.files deep directory = [] := by
  unfold isDirectory at h
  unfold files
  split
  · rename_i hfind
    simp [hfind] at h
  · rfl

/-- What is found lies in the directory, or below it. -/
theorem isEntryPath_of_mem_discovered (hwf : tree.WellFormed)
    (h : path ∈ tree.discovered deep directory extension) :
    ∃ outer front contents, tree.LeadsInto directory outer ∧ front ≠ [] ∧
      (deep = true ∨ front.length = 1) ∧ tree.IsEntryPath path (front ++ outer) ∧
        tree.entry? (front ++ outer) = some (.file contents) := by
  obtain ⟨outer, names, contents, hfind, hne, hdepth, hentry, rfl⟩ :=
    mem_files_iff.mp (mem_discovered_iff.mp h).1
  obtain ⟨hlocate, hdirectory⟩ := find_eq_ok_iff.mp hfind
  refine ⟨outer, names.reverse, contents, leadsInto_of_locate hlocate hdirectory,
    mt List.reverse_eq_nil_iff.mp hne, by rwa [List.length_reverse], ?_, hentry⟩
  apply isEntryPath_pathBelow hwf hlocate hne
  rw [hentry]
  simp

/-- The directory in which something is found is there. -/
theorem locate_of_mem_discovered (h : path ∈ tree.discovered deep directory extension)
    (hinto : tree.LeadsInto directory place) : tree.locate directory = .ok place := by
  obtain ⟨outer, _, _, hfind, -⟩ := mem_files_iff.mp (mem_discovered_iff.mp h).1
  obtain ⟨hlocate, hdirectory⟩ := find_eq_ok_iff.mp hfind
  rw [hlocate, (leadsInto_of_locate hlocate hdirectory).eq hinto]

theorem WellFormed.exists_locate_of_mem_discovered (hwf : tree.WellFormed)
    (h : path ∈ tree.discovered deep directory extension) : ∃ place, tree.locate path = .ok place := by
  obtain ⟨_, _, _, -, -, -, hentry, -⟩ := isEntryPath_of_mem_discovered hwf h
  exact ⟨_, hentry.locate_eq⟩

/-- Different files of a tree have different components. -/
theorem pairwise_files (hwf : tree.WellFormed) (deep : Bool) (directory : Path) :
    (tree.files deep directory).Pairwise fun first second => compare first second ≠ .eq := by
  unfold files
  split
  · rename_i place hfind
    have hbelow : (tree.below place).Pairwise fun first second =>
        compare (pathBelow directory first.1) (pathBelow directory second.1) ≠ .eq := by
      refine (pairwise_below tree place).imp_of_mem ?_
      rintro ⟨names₁, entry₁⟩ ⟨names₂, entry₂⟩ hfirst hsecond hne heq
      have hnames : ∀ {names : List String} {entry : Entry}, (names, entry) ∈ tree.below place →
          ∀ name ∈ names, IsName name := by
        intro names entry hmem name hname
        have hentry : tree.entry? (names.reverse ++ place) ≠ none := by
          rw [(mem_below_iff.mp hmem).2]
          simp
        exact hwf.isName_of_mem hentry name (List.mem_append_left _ (List.mem_reverse.mpr hname))
      rw [Path.compare_eq_eq_iff, components_pathBelow _ (hnames hfirst),
        components_pathBelow _ (hnames hsecond)] at heq
      apply hne
      exact List.map_injective_iff.mpr (fun _ _ => Path.Component.name.inj) (List.append_cancel_left heq)
    -- only regular files are listed, under the paths of their names
    refine hbelow.filterMap _ ?_
    rintro ⟨names₁, entry₁⟩ ⟨names₂, entry₂⟩ hne path₁ hfirst path₂ hsecond
    have hpaths : path₁ = pathBelow directory names₁ ∧ path₂ = pathBelow directory names₂ := by
      rcases entry₁ with - | contents₁ | -
      · exact absurd hfirst (by simp)
      · rcases entry₂ with - | contents₂ | -
        · exact absurd hsecond (by simp)
        · exact ⟨(Option.some.inj (Option.ite_none_right_eq_some.mp hfirst).2).symm,
            (Option.some.inj (Option.ite_none_right_eq_some.mp hsecond).2).symm⟩
        · exact absurd hsecond (by simp)
      · exact absurd hfirst (by simp)
    rw [hpaths.1, hpaths.2]
    exact hne
  · exact List.Pairwise.nil

/-- Sorted files are in the only order there is. -/
theorem ascending_discovered (hwf : tree.WellFormed) (deep : Bool) (directory : Path)
    (extension : String) : Ascending (tree.discovered deep directory extension) := by
  unfold discovered withExtension
  have hfiles := (pairwise_files hwf deep directory).filter fun path => path.extension? = some extension
  have hdistinct := hfiles.perm (List.mergeSort_perm _ fun a b => (compare a b).isLE).symm ?_
  · refine ((@pairwise_isLE_mergeSort Path compare _ _).and hdistinct).imp ?_
    rintro first second ⟨hle, hne⟩
    cases hcompare : compare first second with
    | lt => rfl
    | eq => exact absurd hcompare hne
    | gt => simp [hcompare] at hle
  · intro first second hne heq
    exact hne (Std.OrientedCmp.eq_symm heq)

end FileTree

/-! ## Runs that look for files -/

namespace Restricted

variable {refusals : Refusals}

theorem run_discover (deep : Bool) (directory : Path) (extension : String) (tree : FileTree) :
    (discover deep directory extension : Restricted refusals _).run tree =
      (tree.discovered deep directory extension, tree) := by
  unfold discover FileTree.discovered
  rw [run_bind, run_isDirectory]
  cases hdirectory : tree.isDirectory directory with
  | true => rfl
  | false => simp [FileTree.files_of_not_isDirectory hdirectory, withExtension]

end Restricted

end SceneAudit
