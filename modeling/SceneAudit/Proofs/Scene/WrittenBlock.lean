import SceneAudit.Proofs.Scene.Lines

/-!
# Reading a written block

The body of a block tells a reader no more than the lines that were written for
the record (`taken_body`), each of these gives its part of the record, and no key
is given twice; so a block is read as the record that it was written for
(`Record.ofBlock_eq_ok`).
-/

namespace SceneAudit

open Text

/-! ## References -/

theorem FileId.IsPlain.fileId_written {id : FileId} (h : id.IsPlain) {front : List Char}
    (hfront : Reference.Avoids 'f' front) {value : String}
    (hvalue : value.toList = front ++ id.written.toList) :
    Reference.fileId (some value) = .resolved id := by
  have hbrace : Reference.Avoids 'f' (front ++ ['\x7b']) :=
    List.forall_mem_append.mpr ⟨hfront, (by decide : Reference.Avoids 'f' ['\x7b'])⟩
  have hafter : NoDigitFirst ['\x7d'] := noDigitFirst_cons (by decide) _
  refine Reference.fileId_eq_resolved h hbrace hafter ?_
  simp [hvalue, FileId.written]

/-- List items that end with a written reference are read as these references. -/
theorem Reference.map_fileId_items {references : List (Reference FileId)}
    (h : ∀ reference ∈ references, reference.ResolvesTo FileId.IsPlain) {front : List Char}
    (hfront : Avoids 'f' front) {item : FileId → String}
    (hitem : ∀ target, (item target).toList = front ++ target.written.toList) :
    ((references.filterMap target?).map item).map (fun item => fileId (some item)) =
      references := by
  rw [List.map_map]
  calc
    _ = (references.filterMap target?).map resolved := by
      refine List.map_congr_left fun target hmem => ?_
      have hplain := of_mem_filterMap_target? h target hmem
      exact hplain.fileId_written hfront (hitem target)
    _ = references := map_resolved_filterMap_target? h

theorem Script.fileId_asset {fileId : FileId} (h : fileId.IsPlain) (guid : Guid) :
    Reference.fileId (some (asset fileId guid)) = .resolved fileId := by
  have hfront : Reference.Avoids 'f' ['\x7b'] := by decide
  have hafter : NoDigitFirst (", guid: ".toList ++ guid.text.toList ++ ", type: 3\x7d".toList) :=
    noDigitFirst_cons (by decide) _
  refine Reference.fileId_eq_resolved h hfront hafter ?_
  simp [asset]

theorem Script.guid_asset {fileId : FileId} (hfileId : fileId.IsPlain) {guid : Guid}
    (h : guid.IsPlain) : Reference.guid (some (asset fileId guid)) = .resolved guid := by
  have hnumeral : Reference.Avoids 'g' fileId.text.toList := by
    intro c hc
    rw [hfileId.toLower_eq c hc]
    rintro rfl
    rcases hfileId.minus_or_isDigit 'g' hc with hminus | hdigit
    · exact absurd hminus (by decide)
    · exact absurd hdigit (by decide)
  have hbrace : Reference.Avoids 'g' "\x7bfileID: ".toList := by decide
  have hcomma : Reference.Avoids 'g' ", ".toList := by decide
  have hfront : Reference.Avoids 'g'
      ("\x7bfileID: ".toList ++ fileId.text.toList ++ ", ".toList) :=
    List.forall_mem_append.mpr ⟨List.forall_mem_append.mpr ⟨hbrace, hnumeral⟩, hcomma⟩
  have hafter : ∀ c ∈ ", type: 3\x7d".toList.head?, Reference.isHexDigit c = false := by
    intro c hc
    obtain rfl : ',' = c := Option.some.inj hc
    decide
  refine Reference.guid_eq_resolved h.1 h.2 hfront hafter ?_
  simp [asset]

/-! ## What a body tells a reader -/

namespace BodyLine

variable {α β : Type} {f : FieldLine → Option β}

/-- What `f` takes of the lines. -/
def taken (f : FieldLine → Option β) (lines : List BodyLine) : List β :=
  (lines.map meaning).filterMap f

theorem taken_append (front back : List BodyLine) :
    taken f (front ++ back) = taken f front ++ taken f back := by
  rw [taken, List.map_append, List.filterMap_append]
  rfl

theorem taken_map_of_some {line : α → BodyLine} {value : α → β}
    (h : ∀ a, f (line a).meaning = some (value a)) (as : List α) :
    taken f (as.map line) = as.map value := by
  simp [taken, Function.comp_def, h]

theorem taken_map_of_none {line : α → BodyLine} (h : ∀ a, f (line a).meaning = none)
    (as : List α) : taken f (as.map line) = [] := by
  simp [taken, h]

theorem taken_others (hother : f .other = none) (contents : List String) :
    taken f (others contents) = [] :=
  taken_map_of_none (fun _ => hother) contents

end BodyLine

section Body

open BodyLine

variable {β : Type} {f : FieldLine → Option β}

theorem GameObject.taken_body (object : GameObject) (hother : f .other = none) :
    taken f object.body =
      taken f ((object.components.filterMap Reference.target?).map .component) ++
        taken f (object.name.toList.map (.key .name)) := by
  simp only [GameObject.body, taken_append, taken_others hother, List.nil_append, List.append_nil]

theorem Transform.taken_body (transform : Transform) (hother : f .other = none) :
    taken f transform.body =
      taken f (transform.gameObject.lines .gameObject) ++
        taken f (transform.resolvedChildren.map .child) ++ taken f (transform.father.lines .father) := by
  have hchildren : taken f (childLines transform.resolvedChildren) =
      taken f (transform.resolvedChildren.map .child) := by
    cases transform.resolvedChildren with
    | nil => exact taken_others hother _
    | cons target targets =>
        rw [childLines, taken_append, taken_others hother, List.nil_append]
        simp
  simp only [Transform.body, taken_append, taken_others hother, hchildren, List.nil_append,
    List.append_nil]

theorem Script.taken_body (script : Script) (hother : f .other = none) :
    taken f script.body =
      taken f (script.gameObject.lines .gameObject) ++
        taken f (assetLines script.scriptFileId script.guid) ++ taken f [.key .name ""] := by
  simp only [Script.body, taken_append, taken_others hother, List.nil_append, List.append_nil]

end Body

/-! ## One block -/

open BodyLine

variable {block : Block}

theorem Block.topLevel_of_printable {body : List BodyLine} (h : ∀ line ∈ body, line.IsPrintable)
    (hlines : block.lines = body.map BodyLine.text) :
    block.topLevel = body.map BodyLine.meaning := by
  have hindented : ∀ line ∈ block.lines, IsIndented 2 line := by
    rw [hlines, List.forall_mem_map]
    exact fun line hline => BodyLine.isIndented_text (h line hline)
  rw [topLevel_of_indented hindented, hlines, List.map_map]
  exact List.map_congr_left fun line hline => BodyLine.ofLine_text (h line hline)

theorem GameObject.given_of_topLevel {object : GameObject}
    (htop : block.topLevel = object.body.map meaning) :
    block.given = object.name.toList.map (ScalarKey.name, ·) := by
  have hcomponents : taken FieldLine.given?
      ((object.components.filterMap Reference.target?).map component) = [] := by
    apply taken_map_of_none
    intro target
    rfl
  have hnames : taken FieldLine.given? (object.name.toList.map (key .name)) =
      object.name.toList.map (ScalarKey.name, ·) := by
    apply taken_map_of_some
    intro name
    rfl
  rw [Block.given, htop, ← taken, object.taken_body rfl, hcomponents, hnames, List.nil_append]

theorem GameObject.componentItems_of_topLevel {object : GameObject}
    (htop : block.topLevel = object.body.map meaning) :
    block.componentItems = (object.components.filterMap Reference.target?).map
      fun target => (component target).content := by
  have hcomponents : taken FieldLine.component?
      ((object.components.filterMap Reference.target?).map component) =
        (object.components.filterMap Reference.target?).map
          fun target => (component target).content := by
    apply taken_map_of_some
    intro target
    rfl
  have hnames : taken FieldLine.component? (object.name.toList.map (key .name)) = [] := by
    apply taken_map_of_none
    intro name
    rfl
  rw [Block.componentItems_eq, htop, ← taken, object.taken_body rfl, hcomponents, hnames,
    List.append_nil]

theorem GameObject.ofBlock_eq_ok {object : GameObject} (h : object.IsPrintable)
    (htag : block.tag = Tag.gameObject) (hid : block.fileId = object.fileId)
    (hlines : block.lines = object.body.map BodyLine.text) :
    Record.ofBlock block = .ok (.gameObject object) := by
  have htop := Block.topLevel_of_printable h.body hlines
  have hgiven := given_of_topLevel htop
  have hnodup : (block.given.map Prod.fst).Nodup := by
    rw [hgiven]
    cases object.name <;> simp
  have hname : block.scalar? .name = object.name := by
    rw [Block.scalar?_eq, hgiven]
    cases object.name <;> rfl
  have hfront : Reference.Avoids 'f' "- component: ".toList := by decide
  have hcomponents : block.componentItems.map (fun item => Reference.fileId (some item)) =
      object.components := by
    rw [componentItems_of_topLevel htop]
    exact Reference.map_fileId_items h.components hfront fun target => by simp [content]
  rw [Block.ofBlock_eq_ofDistinct hnodup, Record.ofDistinct, if_pos htag, hname, hcomponents, hid]

section Transform

variable {transform : Transform} {object father : FileId}

theorem Transform.given_of_topLevel (htop : block.topLevel = transform.body.map meaning)
    (hobject : transform.gameObject = .resolved object) (hfather : transform.father = .resolved father) :
    block.given = [(.gameObject, object.written), (.father, father.written)] := by
  have hchildren : taken FieldLine.given? (transform.resolvedChildren.map child) = [] := by
    apply taken_map_of_none
    intro target
    rfl
  rw [Block.given, htop, ← taken, transform.taken_body rfl, hchildren, hobject, hfather]
  rfl

theorem Transform.childItems_of_topLevel (htop : block.topLevel = transform.body.map meaning)
    (hobject : transform.gameObject = .resolved object) (hfather : transform.father = .resolved father) :
    block.childItems =
      (transform.children.filterMap Reference.target?).map fun target => (child target).content := by
  have hchildren : taken FieldLine.child? (transform.resolvedChildren.map child) =
      transform.resolvedChildren.map fun target => (child target).content := by
    apply taken_map_of_some
    intro target
    rfl
  rw [Block.childItems_eq, htop, ← taken, transform.taken_body rfl, hchildren, hobject, hfather]
  exact List.append_nil _

theorem Transform.ofBlock_eq_ok (h : transform.IsPrintable)
    (htag : block.tag = Tag.transform) (hid : block.fileId = transform.fileId)
    (hlines : block.lines = transform.body.map BodyLine.text) :
    Record.ofBlock block = .ok (.transform transform) := by
  have htop := Block.topLevel_of_printable h.body hlines
  obtain ⟨object, hobject, hobjectPlain⟩ := h.gameObject
  obtain ⟨father, hfather, hfatherPlain⟩ := h.father
  have hgiven := given_of_topLevel htop hobject hfather
  have hnodup : (block.given.map Prod.fst).Nodup := by
    rw [hgiven]
    exact (by decide : [ScalarKey.gameObject, .father].Nodup)
  have hreadObject : Reference.fileId (block.scalar? .gameObject) = transform.gameObject := by
    rw [Block.scalar?_eq, hgiven, hobject]
    exact hobjectPlain.fileId_written (List.forall_mem_nil _) rfl
  have hreadFather : Reference.fileId (block.scalar? .father) = transform.father := by
    rw [Block.scalar?_eq, hgiven, hfather]
    exact hfatherPlain.fileId_written (List.forall_mem_nil _) rfl
  have hfront : Reference.Avoids 'f' "- ".toList := by decide
  have hchildren : block.childItems.map (fun item => Reference.fileId (some item)) =
      transform.children := by
    rw [childItems_of_topLevel htop hobject hfather]
    exact Reference.map_fileId_items h.children hfront fun target => by simp [content]
  rw [Block.ofBlock_eq_ofDistinct hnodup, Record.ofDistinct, if_neg (by rw [htag]; decide),
    if_pos htag, hreadObject, hchildren, hreadFather, hid]

end Transform

theorem Script.ofBlock_eq_ok {script : Script} (h : script.IsPrintable)
    (htag : block.tag = Tag.script) (hid : block.fileId = script.fileId)
    (hlines : block.lines = script.body.map BodyLine.text) :
    Record.ofBlock block = .ok (.script script) := by
  have htop := Block.topLevel_of_printable h.body hlines
  obtain ⟨object, hobject, hobjectPlain⟩ := h.gameObject
  obtain ⟨assetId, hassetId, hassetIdPlain⟩ := h.scriptFileId
  obtain ⟨guid, hguid, hguidPlain⟩ := h.guid
  have hgiven : block.given = [(.gameObject, object.written), (.script, asset assetId guid),
      (.name, "")] := by
    rw [Block.given, htop, ← taken, script.taken_body rfl, hobject, hassetId, hguid]
    rfl
  have hnodup : (block.given.map Prod.fst).Nodup := by
    rw [hgiven]
    exact (by decide : [ScalarKey.gameObject, .script, .name].Nodup)
  have hreadObject : Reference.fileId (block.scalar? .gameObject) = script.gameObject := by
    rw [Block.scalar?_eq, hgiven, hobject]
    exact hobjectPlain.fileId_written (List.forall_mem_nil _) rfl
  have hasset : block.scalar? .script = some (asset assetId guid) := by
    rw [Block.scalar?_eq, hgiven]
    rfl
  rw [Block.ofBlock_eq_ofDistinct hnodup, Record.ofDistinct, if_neg (by rw [htag]; decide),
    if_neg (by rw [htag]; decide), if_pos htag, hreadObject, hasset, fileId_asset hassetIdPlain,
    guid_asset hassetIdPlain hguidPlain, ← hassetId, ← hguid, hid]

theorem Record.ofBlock_eq_ok {record : Record} (h : record.IsPrintable)
    (htag : block.tag = record.tag) (hid : block.fileId = record.fileId)
    (hlines : block.lines = record.body.map BodyLine.text) : ofBlock block = .ok record := by
  cases record with
  | gameObject object => exact GameObject.ofBlock_eq_ok h htag hid hlines
  | transform transform => exact Transform.ofBlock_eq_ok h htag hid hlines
  | script script => exact Script.ofBlock_eq_ok h htag hid hlines

end SceneAudit
