import SceneAudit.Proofs.Scene.Printed

/-!
# Reading a dump

A dump says no more than its text, and the text is read back without the scene: every piece
up to a line feed is a line, and the indent markers at its start are its depth
(`Hierarchy.readDump`).

Two things could go wrong.  A name with a line feed in it would be read as two lines; the
names of a scene have none (`Scene.not_mem_name`).  A name that starts with an indent marker
would be read one level too deep, and that does happen, so the names of the game objects are
asked not to (`Scene.NamesUnmarked`).  A single dash in front of a name does no harm, also
not next to the markers.
-/

namespace SceneAudit

open Text

namespace Hierarchy

/-- The depth and the name that a line of a dump shows. -/
def readEntry : List Char → Nat × String
  | '-' :: '-' :: rest => ((readEntry rest).1 + 1, (readEntry rest).2)
  | name => (0, String.ofList name)

/-- The depths and names that a dump shows.  Nothing stands behind its last line feed. -/
def readDump (dump : String) : List (Nat × String) :=
  (pieces dump.toList).dropLast.map readEntry

/-! ## One line -/

theorem readEntry_of_not_prefix {name : List Char} (h : ¬ indentMarker.toList <+: name) :
    readEntry name = (0, String.ofList name) := by
  unfold readEntry
  split
  · rename_i rest
    exact absurd (List.prefix_append ['-', '-'] rest) h
  · rfl

theorem readEntry_marker (rest : List Char) :
    readEntry ('-' :: '-' :: rest) = ((readEntry rest).1 + 1, (readEntry rest).2) := by
  rw [readEntry]

theorem toList_indent_succ (depth : Nat) :
    (indent (depth + 1)).toList = '-' :: '-' :: (indent depth).toList := by
  simp [indent, indentMarker, List.replicate_succ, String.toList_join]

theorem readEntry_indent {name : String} (h : ¬ indentMarker.toList <+: name.toList) (depth : Nat) :
    readEntry ((indent depth).toList ++ name.toList) = (depth, name) := by
  induction depth with
  | zero =>
      have hnone : (indent 0).toList = [] := rfl
      rw [hnone, List.nil_append, readEntry_of_not_prefix h, String.ofList_toList]
  | succ depth ih =>
      rw [toList_indent_succ, List.cons_append, List.cons_append, readEntry_marker, ih]

/-- A name that starts with an indent marker is not told from the name behind it, one level
further down. -/
example : dumpLine (0, "--Lamp") = dumpLine (1, "Lamp") := by
  decide

/-! ## All lines -/

theorem toList_dumpLine (entry : Nat × String) :
    (dumpLine entry).toList = (indent entry.1).toList ++ entry.2.toList ++ ['\n'] := by
  simp [dumpLine]

theorem pieces_dumpLines {entries : List (Nat × String)}
    (hfeed : ∀ entry ∈ entries, '\n' ∉ entry.2.toList) :
    pieces (String.join (entries.map dumpLine)).toList =
      entries.map (fun entry => (indent entry.1).toList ++ entry.2.toList) ++ [[]] := by
  rw [String.toList_join]
  induction entries with
  | nil => rfl
  | cons entry entries ih =>
      rw [List.forall_mem_cons] at hfeed
      have hline : '\n' ∉ (indent entry.1).toList ++ entry.2.toList := by
        rw [List.mem_append, not_or]
        exact ⟨not_mem_indent entry.1, hfeed.1⟩
      rw [List.map_cons, List.flatMap_cons, toList_dumpLine, List.append_assoc,
        List.singleton_append, pieces_append_newline hline, ih hfeed.2, List.map_cons,
        List.cons_append]

/-- Reading a dump gives the lines that were written. -/
theorem readDump_dump {hierarchy : Hierarchy}
    (hfeed : ∀ entry ∈ hierarchy.entries, '\n' ∉ entry.2.toList)
    (hmarker : ∀ entry ∈ hierarchy.entries, ¬ indentMarker.toList <+: entry.2.toList) :
    readDump hierarchy.dump = hierarchy.entries := by
  unfold readDump dump
  rw [pieces_dumpLines hfeed, List.dropLast_concat, List.map_map]
  have hread : ∀ entry ∈ hierarchy.entries,
      (readEntry ∘ fun entry : Nat × String => (indent entry.1).toList ++ entry.2.toList) entry =
        entry := by
    intro entry hentry
    exact readEntry_indent (hmarker entry hentry) entry.1
  rw [List.map_congr_left hread, List.map_id']

end Hierarchy

/-! ## Dumps of scenes -/

namespace Scene

/-- No game object has a name that starts with an indent marker. -/
def NamesUnmarked (scene : Scene) : Prop :=
  ∀ object ∈ scene.gameObjects, ∀ name ∈ object.name,
    ¬ Hierarchy.indentMarker.toList <+: name.toList

theorem NamesUnmarked.not_prefix {scene : Scene} (h : scene.NamesUnmarked) {line : HierarchyLine}
    (hline : line ∈ scene.hierarchy.lines) :
    ¬ Hierarchy.indentMarker.toList <+: (line.name.getD "").toList := by
  cases hname : line.name with
  | none => decide
  | some name =>
      have hrendered : line ∈ (render scene.gameObjects scene.transforms).lines := hline
      obtain ⟨object, hobject, hsame⟩ := exists_gameObject_of_mem_lines hrendered hname
      exact h object hobject name hsame

/-- The dump of a scene is read back as the lines it shows. -/
theorem readDump_dump {document : String} (h : (ofDocument document).NamesUnmarked) :
    Hierarchy.readDump (ofDocument document).hierarchy.dump =
      (ofDocument document).hierarchy.entries := by
  apply Hierarchy.readDump_dump
  · intro entry hentry
    obtain ⟨line, hline, rfl⟩ := List.mem_map.mp hentry
    exact not_mem_name hline
  · intro entry hentry
    obtain ⟨line, hline, rfl⟩ := List.mem_map.mp hentry
    exact h.not_prefix hline

/-- A dump has one line feed for each line, and scenes with one dump show the same depths
and names. -/
theorem dump_determines_entries :
    (∀ document, (ofDocument document).hierarchy.dump.toList.count '\n' =
      (ofDocument document).hierarchy.lines.length) ∧
    ∀ document other, (ofDocument document).NamesUnmarked → (ofDocument other).NamesUnmarked →
      (ofDocument document).hierarchy.dump = (ofDocument other).hierarchy.dump →
      (ofDocument document).hierarchy.entries = (ofDocument other).hierarchy.entries := by
  constructor
  · intro document
    exact Hierarchy.count_dump fun line hline => not_mem_name hline
  · intro document other hdocument hother hdump
    rw [← readDump_dump hdocument, ← readDump_dump hother, hdump]

end Scene

/-! ### A scene written in two ways -/

namespace DashedLamp

/-- The name starts with a single dash. -/
def gameObjects : List GameObject :=
  [⟨⟨"1"⟩, some "-Lamp", []⟩]

def transforms : List Transform :=
  [⟨⟨"2"⟩, .resolved ⟨"1"⟩, [], .resolved FileId.root⟩]

def document : String :=
  "--- !u!1 &1\nGameObject:\n  m_Name: -Lamp\n--- !u!4 &2\nTransform:\n  m_GameObject: \x7bfileID: 1\x7d\n  m_Father: \x7bfileID: 0\x7d\n"

/-- The transform comes first, the lines end in another way and the last one does not end. -/
def other : String :=
  "--- !u!4 &2\r\nTransform:\r\n  m_GameObject: \x7bfileID: 1\x7d\n  m_Father: \x7bfileID: 0\x7d\n--- !u!1 &1\nGameObject:\n  m_Name:  -Lamp"

theorem entries_eq :
    ((Scene.ofDocument document).NamesUnmarked ∧ (Scene.ofDocument other).NamesUnmarked ∧
        (Scene.ofDocument document).hierarchy.dump = (Scene.ofDocument other).hierarchy.dump) ∧
      (Scene.ofDocument document).hierarchy.entries =
        (Scene.ofDocument other).hierarchy.entries := by
  obtain ⟨hobjects, htransforms⟩ : (Scene.ofDocument document).gameObjects = gameObjects ∧
      (Scene.ofDocument document).transforms = transforms := by
    decide +kernel
  obtain ⟨hotherObjects, hotherTransforms⟩ : (Scene.ofDocument other).gameObjects = gameObjects ∧
      (Scene.ofDocument other).transforms = transforms := by
    decide +kernel
  have hnames : ∀ object ∈ gameObjects, ∀ name ∈ object.name,
      ¬ Hierarchy.indentMarker.toList <+: name.toList := by
    decide
  have hdocument : (Scene.ofDocument document).NamesUnmarked := by
    unfold Scene.NamesUnmarked
    rw [hobjects]
    exact hnames
  have hother : (Scene.ofDocument other).NamesUnmarked := by
    unfold Scene.NamesUnmarked
    rw [hotherObjects]
    exact hnames
  have hdump :
      (Scene.ofDocument document).hierarchy.dump = (Scene.ofDocument other).hierarchy.dump := by
    unfold Hierarchy.dump Hierarchy.entries Scene.hierarchy
    rw [hobjects, htransforms, hotherObjects, hotherTransforms]
  exact ⟨⟨hdocument, hother, hdump⟩,
    Scene.dump_determines_entries.2 document other hdocument hother hdump⟩

end DashedLamp

end SceneAudit
