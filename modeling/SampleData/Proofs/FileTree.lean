import SampleData.FileTree

/-!
# Trees that grow

What stands in a tree after directories were made in it, or a file was written where there was none:
whatever stood there before still does.  The text of a path that leads straight down is followed to its
names, as long as there is a directory at each of them but the last.
-/

namespace SampleData

namespace FileTree

variable {tree : FileTree}

/-! ## Putting -/

theorem ne_nil_of_node?_eq_none {path : FilePath} (h : tree.node? path = none) : path ≠ [] := by
  rintro rfl
  cases h

theorem lookup_filter_of_ne {path other : FilePath} (h : other ≠ path)
    (entries : List (FilePath × FileNode)) :
    (entries.filter fun entry => entry.1 != path).lookup other = entries.lookup other := by
  induction entries with
  | nil => rfl
  | cons entry entries ih =>
      obtain ⟨place, found⟩ := entry
      by_cases hplace : place = path
      · have hother : (other == place) = false := beq_eq_false_iff_ne.2 (hplace ▸ h)
        rw [List.filter_cons_of_neg (by simp [hplace]), List.lookup_cons, hother, ih]
      · rw [List.filter_cons_of_pos (by simp [hplace]), List.lookup_cons, List.lookup_cons, ih]

theorem node?_put_of_ne (tree : FileTree) {path other : FilePath} (h : other ≠ path) (node : FileNode) :
    (tree.put path node).node? other = tree.node? other := by
  have hhead : (other == path) = false := beq_eq_false_iff_ne.2 h
  rw [node?, node?, put, List.lookup_cons, hhead, lookup_filter_of_ne h]

/-- Whatever stands in a tree stands in another just so. -/
def Keeps (before after : FileTree) : Prop :=
  ∀ path node, before.node? path = some node → after.node? path = some node

theorem Keeps.refl (tree : FileTree) : tree.Keeps tree :=
  fun _ _ h => h

theorem Keeps.trans {before between after : FileTree} (h : before.Keeps between)
    (h' : between.Keeps after) : before.Keeps after :=
  fun path node hnode => h' path node (h path node hnode)

theorem keeps_put {path : FilePath} (h : tree.node? path = none) (node : FileNode) :
    tree.Keeps (tree.put path node) := by
  intro other found hfound
  have hne : other ≠ path := by
    rintro rfl
    rw [h] at hfound
    cases hfound
  rw [node?_put_of_ne tree hne, hfound]

/-! ## Making directories -/

/-- The paths along names from a path that has been reached, which is left out itself. -/
def steps : FilePath → List String → List FilePath
  | _, [] => []
  | reached, name :: rest => (reached ++ [name]) :: steps (reached ++ [name]) rest

theorem append_mem_steps (reached : FilePath) {names : List String} (h : names ≠ []) :
    reached ++ names ∈ steps reached names := by
  induction names generalizing reached with
  | nil => exact absurd rfl h
  | cons name rest ih =>
      rw [steps, List.append_cons reached name rest]
      by_cases hrest : rest = []
      · rw [hrest, List.append_nil]
        exact List.mem_cons_self
      · exact List.mem_cons_of_mem _ (ih (reached ++ [name]) hrest)

theorem keeps_makeDirectories (tree : FileTree) (reached : FilePath) (names : List String) :
    tree.Keeps (tree.makeDirectories reached names).2 := by
  induction names generalizing tree reached with
  | nil => exact Keeps.refl tree
  | cons name rest ih =>
      rw [makeDirectories]
      cases hnode : tree.node? (reached ++ [name]) with
      | none => exact (keeps_put hnode .directory).trans (ih _ _)
      | some node =>
          cases node with
          | file content => exact Keeps.refl tree
          | directory => exact ih tree _

/-- Directories can be made along names exactly where no file is in the way. -/
theorem makeDirectories_eq_ok_iff {reached : FilePath} {names : List String} :
    (tree.makeDirectories reached names).1 = .ok () ↔
      ∀ path ∈ steps reached names, ∀ content, tree.node? path ≠ some (.file content) := by
  induction names generalizing tree reached with
  | nil => simp [makeDirectories, steps]
  | cons name rest ih =>
      rw [makeDirectories, steps, List.forall_mem_cons]
      cases hnode : tree.node? (reached ++ [name]) with
      | none =>
          -- a new directory neither is a file nor takes the place of one
          have hsame : ∀ path content,
              (tree.put (reached ++ [name]) .directory).node? path = some (.file content) ↔
                tree.node? path = some (.file content) := by
            intro path content
            by_cases hpath : path = reached ++ [name]
            · rw [hpath, node?_put tree (ne_nil_of_node?_eq_none hnode), hnode]
              simp
            · rw [node?_put_of_ne tree hpath]
          simp [ih, hsame]
      | some node =>
          cases node with
          | file content => simp
          | directory => simp [ih]

/-- When no file is in the way there is a directory along the names wherever there was nothing. -/
theorem node?_makeDirectories {reached : FilePath} {names : List String}
    (h : (tree.makeDirectories reached names).1 = .ok ()) (path : FilePath) :
    (tree.makeDirectories reached names).2.node? path =
      (tree.node? path).or (if path ∈ steps reached names then some .directory else none) := by
  induction names generalizing tree reached with
  | nil => simp [makeDirectories, steps]
  | cons name rest ih =>
      rw [makeDirectories] at h ⊢
      cases hnode : tree.node? (reached ++ [name]) with
      | none =>
          rw [hnode] at h
          dsimp only at h ⊢
          rw [ih h, steps]
          by_cases hpath : path = reached ++ [name]
          · rw [hpath, node?_put tree (ne_nil_of_node?_eq_none hnode), hnode]
            simp
          · rw [node?_put_of_ne tree hpath]
            simp [hpath]
      | some node =>
          rw [hnode] at h
          cases node with
          | file content => cases h
          | directory =>
              dsimp only at h ⊢
              rw [ih h, steps]
              by_cases hpath : path = reached ++ [name]
              · simp [hpath, hnode]
              · simp [hpath]

theorem node?_of_mem_steps {reached : FilePath} {names : List String}
    (h : (tree.makeDirectories reached names).1 = .ok ()) {path : FilePath}
    (hpath : path ∈ steps reached names) :
    (tree.makeDirectories reached names).2.node? path = some .directory := by
  have hfree := makeDirectories_eq_ok_iff.1 h path hpath
  rw [node?_makeDirectories h, if_pos hpath]
  cases hnode : tree.node? path with
  | none => rfl
  | some node =>
      cases node with
      | file content => exact absurd hnode (hfree content)
      | directory => rfl

theorem makeDirectories_of_directories {reached : FilePath} {names : List String}
    (h : ∀ path ∈ steps reached names, tree.node? path = some .directory) :
    tree.makeDirectories reached names = (.ok (), tree) := by
  induction names generalizing reached with
  | nil => rfl
  | cons name rest ih =>
      obtain ⟨hname, hrest⟩ := List.forall_mem_cons.1 h
      rw [makeDirectories, hname]
      exact ih hrest

/-! ## Following -/

/-- The text of a path can be followed, and each of its names leads further down. -/
structure LeadsDown (raw : String) : Prop where
  short : isTooLong raw = false
  given : raw.isEmpty = false
  relative : raw.startsWith "/" = false
  plain : ∀ name ∈ parts raw, name ≠ "" ∧ name ≠ "." ∧ name ≠ ".."

/-- The text of a path leads down, and there is a directory at each of its names but the last. -/
structure Reaches (tree : FileTree) (raw : String) : Prop where
  leadsDown : LeadsDown raw
  directories : ∀ path ∈ steps [] (parts raw).dropLast, tree.node? path = some .directory

theorem Reaches.mono {after : FileTree} {raw : String} (h : tree.Reaches raw) (hkeeps : tree.Keeps after) :
    after.Reaches raw :=
  ⟨h.leadsDown, fun path hpath => hkeeps path .directory (h.directories path hpath)⟩

theorem follow_of_directories {reached : FilePath} {names : List String}
    (hreached : tree.node? reached = some .directory)
    (hplain : ∀ name ∈ names, name ≠ "" ∧ name ≠ "." ∧ name ≠ "..")
    (h : ∀ path ∈ steps reached names.dropLast, tree.node? path = some .directory) :
    tree.follow reached names = .ok (.below (reached ++ names)) := by
  induction names generalizing reached with
  | nil => rw [follow, List.append_nil]
  | cons name rest ih =>
      obtain ⟨⟨hempty, hpoint, hpoints⟩, hplain⟩ := List.forall_mem_cons.1 hplain
      have hstay : ¬ (name = "" ∨ name = ".") := not_or.2 ⟨hempty, hpoint⟩
      rw [follow, hreached, List.append_cons reached name rest]
      dsimp only
      rw [if_neg hstay, if_neg hpoints]
      cases rest with
      | nil => rw [follow, List.append_nil]
      | cons second rest =>
          rw [List.dropLast_cons_cons, steps, List.forall_mem_cons] at h
          exact ih h.1 hplain h.2

theorem resolve_of_reaches {raw : String} (h : tree.Reaches raw) :
    tree.resolve raw = .ok (.below (parts raw)) := by
  obtain ⟨hshort, hgiven, hrelative, hplain⟩ := h.leadsDown
  simp only [resolve, hshort, hgiven, hrelative, Bool.false_eq_true, if_false]
  exact follow_of_directories rfl hplain h.directories

theorem find_of_reaches {raw : String} (h : tree.Reaches raw) {node : FileNode}
    (hnode : tree.node? (parts raw) = some node) : tree.find raw = .ok (.below (parts raw), node) := by
  simp [find, resolve_of_reaches h, at?, hnode, bind, Except.bind]

theorem contains_of_reaches {raw : String} (h : tree.Reaches raw) :
    tree.contains raw = (tree.node? (parts raw)).isSome := by
  cases hnode : tree.node? (parts raw) with
  | some node => rw [contains, find_of_reaches h hnode]; rfl
  | none => simp [contains, find, resolve_of_reaches h, at?, hnode, bind, Except.bind, Except.toOption]

theorem isDirectory_of_reaches {raw : String} (h : tree.Reaches raw)
    (hnode : tree.node? (parts raw) = some .directory) : tree.isDirectory raw = true := by
  rw [isDirectory, find_of_reaches h hnode]

theorem decode_toUTF8 (text : String) : decode text.toUTF8 = .ok text := by
  have hread : String.fromUTF8? text.toUTF8 = some text := dif_pos text.isValidUTF8
  rw [decode, hread]

theorem readText_of_reaches {raw text : String} (h : tree.Reaches raw)
    (hnode : tree.node? (parts raw) = some (.file text.toUTF8)) : tree.readText raw = .ok text := by
  rw [readText, find_of_reaches h hnode]
  exact decode_toUTF8 text

/-! ## Writing -/

theorem keeps_writeText {raw text : String} {written : FileTree} (h : tree.contains raw = false)
    (hwritten : tree.writeText raw text = .ok written) : tree.Keeps written := by
  unfold writeText at hwritten
  unfold contains find at h
  cases hresolve : tree.resolve raw with
  | error fault =>
      rw [hresolve] at hwritten
      cases hwritten
  | ok place =>
      rw [hresolve] at h hwritten
      simp only [bind, Except.bind] at h hwritten
      cases place with
      | above => cases hwritten
      | below path =>
          dsimp only [at?] at h hwritten
          cases hnode : tree.node? path with
          | some node =>
              rw [hnode] at h
              cases h
          | none =>
              rw [hnode] at hwritten
              split at hwritten
              · cases hwritten
              · cases hwritten
                exact keeps_put hnode _
              · cases hwritten
              · cases hwritten

theorem writeText_of_reaches {raw : String} (h : tree.Reaches raw)
    (hnode : tree.node? (parts raw) = none) (text : String) :
    tree.writeText raw text = .ok (tree.put (parts raw) (.file text.toUTF8)) := by
  have hparent : tree.node? (parts raw).dropLast = some .directory := by
    by_cases hempty : (parts raw).dropLast = []
    · rw [hempty]
      rfl
    · exact h.directories _ (append_mem_steps [] hempty)
  simp [writeText, resolve_of_reaches h, hparent, hnode, bind, Except.bind]

end FileTree

end SampleData
