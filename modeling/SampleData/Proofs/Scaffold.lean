import Mathlib.Data.List.Basic
import SampleData.Proofs.FileTree
import SampleData.Scaffold

/-!
# What a scaffold adds

Setting a project up fills gaps and does no more: whatever stands in the working directory stays as it
is, also when the set-up fails on the way, and what is added are the directories of the schema and those
files of the templates in whose places nothing stood.  So there is nothing left to do the second time.
-/

namespace SampleData

namespace Scaffold

open FileTree

variable {tree : FileTree} {files : List (String × String)}

/-! ## Writing files -/

theorem keeps_writeAbsent (files : List (String × String)) (tree : FileTree) :
    tree.Keeps (writeAbsent files tree).2 := by
  induction files generalizing tree with
  | nil => exact Keeps.refl tree
  | cons file rest ih =>
      obtain ⟨path, text⟩ := file
      rw [writeAbsent]
      by_cases hpath : tree.contains path = true
      · rw [if_pos hpath]
        exact ih tree
      · rw [if_neg hpath]
        cases hwritten : tree.writeText path text with
        | error fault => exact Keeps.refl tree
        | ok written => exact (keeps_writeText (Bool.eq_false_iff.2 hpath) hwritten).trans (ih written)

/-- What is to stand at a path by the first of the files that belongs there. -/
def fileAt? (files : List (String × String)) (path : FilePath) : Option FileNode :=
  (files.find? fun file => parts file.1 = path).map fun file => .file file.2.toUTF8

theorem exists_of_fileAt?_eq_some {path : FilePath} {node : FileNode} (h : fileAt? files path = some node) :
    ∃ file ∈ files, path = parts file.1 ∧ node = .file file.2.toUTF8 := by
  obtain ⟨file, hfound, hnode⟩ := Option.map_eq_some_iff.1 h
  have hpath : parts file.1 = path := by simpa using List.find?_some hfound
  exact ⟨file, List.mem_of_find?_eq_some hfound, hpath.symm, hnode.symm⟩

theorem fileAt?_of_mem (h : (files.map fun file => parts file.1).Nodup) {file : String × String}
    (hfile : file ∈ files) : fileAt? files (parts file.1) = some (.file file.2.toUTF8) := by
  induction files with
  | nil => cases hfile
  | cons first rest ih =>
      obtain ⟨hfirst, hrest⟩ := List.nodup_cons.1 h
      rcases List.mem_cons.1 hfile with rfl | hmem
      · rw [fileAt?, List.find?_cons_of_pos (by simp), Option.map_some]
      · have hne : parts first.1 ≠ parts file.1 := fun heq =>
          hfirst (List.mem_map.2 ⟨file, hmem, heq.symm⟩)
        rw [fileAt?, List.find?_cons_of_neg (by simpa using hne)]
        exact ih hrest hmem

/--
Files whose directories are there are written, each where nothing stands, and nothing else is.
-/
theorem node?_writeAbsent (h : ∀ file ∈ files, tree.Reaches file.1) :
    (∃ paths, (writeAbsent files tree).1 = .ok paths) ∧
      ∀ path, (writeAbsent files tree).2.node? path = (tree.node? path).or (fileAt? files path) := by
  induction files generalizing tree with
  | nil => exact ⟨⟨[], rfl⟩, fun path => by simp [writeAbsent, fileAt?]⟩
  | cons file rest ih =>
      obtain ⟨raw, text⟩ := file
      obtain ⟨hraw, hrest⟩ := List.forall_mem_cons.1 h
      rw [writeAbsent, contains_of_reaches hraw]
      cases hnode : tree.node? (parts raw) with
      | some node =>
          obtain ⟨hpaths, hnodes⟩ := ih hrest
          refine ⟨hpaths, fun path => ?_⟩
          rw [Option.isSome_some, if_pos rfl, hnodes, fileAt?, fileAt?]
          by_cases hpath : parts raw = path
          · rw [← hpath, hnode, Option.some_or, Option.some_or]
          · rw [List.find?_cons_of_neg (by simpa using hpath)]
      | none =>
          let written := tree.put (parts raw) (.file text.toUTF8)
          have hkeeps : tree.Keeps written := keeps_put hnode _
          obtain ⟨⟨paths, hpaths⟩, hnodes⟩ := ih fun file hfile => (hrest file hfile).mono hkeeps
          rw [Option.isSome_none, if_neg Bool.false_ne_true, writeText_of_reaches hraw hnode]
          dsimp only
          refine ⟨⟨raw :: paths, by rw [hpaths]; rfl⟩, fun path => ?_⟩
          rw [hnodes, fileAt?, fileAt?]
          by_cases hpath : parts raw = path
          · rw [← hpath, hnode, node?_put tree (ne_nil_of_node?_eq_none hnode),
              List.find?_cons_of_pos (by simp)]
            rfl
          · rw [node?_put_of_ne tree (Ne.symm hpath), List.find?_cons_of_neg (by simpa using hpath)]

theorem writeAbsent_of_contained (h : ∀ file ∈ files, tree.contains file.1 = true) :
    writeAbsent files tree = (.ok [], tree) := by
  induction files with
  | nil => rfl
  | cons file rest ih =>
      obtain ⟨hfile, hrest⟩ := List.forall_mem_cons.1 h
      rw [writeAbsent, if_pos hfile, ih hrest]

/-! ## Setting up -/

theorem leadsDown_schemaPath : LeadsDown schemaPath :=
  ⟨by decide, by decide, by decide +kernel, by decide⟩

theorem leadsDown_of_mem_templates : ∀ file ∈ templates, LeadsDown file.1 := by
  rw [templates, List.forall_mem_cons, List.forall_mem_singleton]
  exact ⟨⟨by decide, by decide, by decide +kernel, by decide⟩,
    ⟨by decide, by decide, by decide +kernel, by decide⟩⟩

def directories : List FilePath :=
  steps [] (parts schemaPath)

theorem directories_eq : directories = [["database"], ["database", "schema"]] := by decide

theorem reaches_of_directories (h : ∀ path ∈ directories, tree.node? path = some .directory) :
    tree.Reaches schemaPath ∧ ∀ file ∈ templates, tree.Reaches file.1 := by
  have hschema : ∀ path ∈ steps [] (parts schemaPath).dropLast, path ∈ directories := by decide
  have hfiles : ∀ file ∈ templates, ∀ path ∈ steps [] (parts file.1).dropLast, path ∈ directories := by
    decide
  exact ⟨⟨leadsDown_schemaPath, fun path hpath => h path (hschema path hpath)⟩, fun file hfile =>
    ⟨leadsDown_of_mem_templates file hfile, fun path hpath => h path (hfiles file hfile path hpath)⟩⟩

def made (tree : FileTree) : Except FileFault Unit × FileTree :=
  tree.makeDirectories [] (parts schemaPath)

theorem run_of_error {fault : FileFault} (h : (made tree).1 = .error fault) :
    run tree =
      (.error (.during (.creatingDirectory schemaPath) (.file fault)), (made tree).2) := by
  unfold made at h ⊢
  unfold run
  generalize tree.makeDirectories [] (parts schemaPath) = outcome at h ⊢
  obtain ⟨result, built⟩ := outcome
  cases h
  rfl

theorem run_of_ok (h : (made tree).1 = .ok ()) :
    let written := writeAbsent templates (made tree).2
    run tree = (written.1.map fun paths => [line paths], written.2) := by
  unfold made at h ⊢
  unfold run
  generalize tree.makeDirectories [] (parts schemaPath) = outcome at h ⊢
  obtain ⟨result, built⟩ := outcome
  cases h
  rfl

theorem keeps_run (tree : FileTree) : tree.Keeps (run tree).2 := by
  have hmade : tree.Keeps (made tree).2 := keeps_makeDirectories tree [] _
  cases hresult : (made tree).1 with
  | error fault =>
      rw [run_of_error hresult]
      exact hmade
  | ok =>
      rw [run_of_ok hresult]
      exact hmade.trans (keeps_writeAbsent templates _)

theorem reaches_made (h : (made tree).1 = .ok ()) : ∀ file ∈ templates, (made tree).2.Reaches file.1 :=
  (reaches_of_directories fun _ hpath => node?_of_mem_steps h hpath).2

/-- A project can be set up exactly where its directories can be made. -/
theorem exists_run_iff : (∃ lines, (run tree).1 = .ok lines) ↔ (made tree).1 = .ok () := by
  constructor
  · rintro ⟨lines, hlines⟩
    cases hresult : (made tree).1 with
    | error fault =>
        rw [run_of_error hresult] at hlines
        cases hlines
    | ok => rfl
  · intro h
    obtain ⟨⟨paths, hpaths⟩, -⟩ := node?_writeAbsent (reaches_made h)
    rw [run_of_ok h]
    exact ⟨[line paths], by rw [hpaths]; rfl⟩

section

variable {lines : List String} {after : FileTree} (h : run tree = (.ok lines, after))
include h

theorem made_of_run : (made tree).1 = .ok () :=
  exists_run_iff.1 ⟨lines, congrArg Prod.fst h⟩

theorem eq_writeAbsent_of_run : after = (writeAbsent templates (made tree).2).2 := by
  have hafter := congrArg Prod.snd (run_of_ok (made_of_run h))
  rw [h] at hafter
  exact hafter

theorem node?_directory_of_run : ∀ path ∈ directories, after.node? path = some .directory := by
  intro path hpath
  rw [eq_writeAbsent_of_run h]
  exact keeps_writeAbsent templates _ path .directory (node?_of_mem_steps (made_of_run h) hpath)

/-- What was missing is there when a project has been set up, and nothing else is added. -/
theorem node?_of_run (path : FilePath) :
    after.node? path =
      ((tree.node? path).or (if path ∈ directories then some .directory else none)).or
        (fileAt? templates path) := by
  have hmade := made_of_run h
  obtain ⟨-, hnodes⟩ := node?_writeAbsent (reaches_made hmade)
  rw [eq_writeAbsent_of_run h, hnodes, made, node?_makeDirectories hmade, directories]

theorem node?_template_of_run {file : String × String} (hfile : file ∈ templates) :
    after.node? (parts file.1) =
      (tree.node? (parts file.1)).or (some (.file file.2.toUTF8)) := by
  have hother : ∀ file ∈ templates, parts file.1 ∉ directories := by decide
  have hdistinct : (templates.map fun file => parts file.1).Nodup := by decide
  rw [node?_of_run h, if_neg (hother file hfile), Option.or_none, fileAt?_of_mem hdistinct hfile]

theorem node?_added_of_run {path : FilePath} {node : FileNode} (hnode : after.node? path = some node)
    (hmissing : tree.node? path = none) :
    path ∈ directories ∧ node = .directory ∨
      ∃ file ∈ templates, path = parts file.1 ∧ node = .file file.2.toUTF8 := by
  rw [node?_of_run h, hmissing, Option.none_or] at hnode
  by_cases hpath : path ∈ directories
  · rw [if_pos hpath, Option.some_or, Option.some.injEq] at hnode
    exact .inl ⟨hpath, hnode.symm⟩
  · rw [if_neg hpath, Option.none_or] at hnode
    exact .inr (exists_of_fileAt?_eq_some hnode)

end

theorem run_of_complete (hdirectories : ∀ path ∈ directories, tree.node? path = some .directory)
    (hfiles : ∀ file ∈ templates, tree.contains file.1 = true) : run tree = (.ok [line []], tree) := by
  have hmade : made tree = (.ok (), tree) := makeDirectories_of_directories hdirectories
  have hrun := run_of_ok (congrArg Prod.fst hmade)
  rw [hmade, writeAbsent_of_contained hfiles] at hrun
  exact hrun

/--
Setting a project up leaves all that stands in the working directory as it is, whether it succeeds or
fails, and it fails exactly where a file stands in the place of one of the two directories.  When it
succeeds the directories and the files of the templates are there, those files that were missing with
the texts of the templates; nothing else was added, and a second time nothing is written.
-/
theorem run_adds_what_is_missing (tree : FileTree) :
    tree.Keeps (run tree).2 ∧
      ((∃ lines, (run tree).1 = .ok lines) ↔ ∀ path ∈ [["database"], ["database", "schema"]],
        ∀ content, tree.node? path ≠ some (.file content)) ∧
      ∀ lines after, run tree = (.ok lines, after) →
        after.isDirectory schemaPath = true ∧
        (∀ file ∈ templates, after.contains file.1 = true ∧
          (tree.node? (parts file.1) = none → after.readText file.1 = .ok file.2)) ∧
        (∀ path node, after.node? path = some node → tree.node? path = none →
          path ∈ [["database"], ["database", "schema"]] ∧ node = .directory ∨
          ∃ file ∈ templates, path = parts file.1 ∧ node = .file file.2.toUTF8) ∧
        run after = (.ok ["Nothing to scaffold, configuration already present"], after) := by
  rw [← directories_eq]
  refine ⟨keeps_run tree, exists_run_iff.trans makeDirectories_eq_ok_iff, fun lines after hrun => ?_⟩
  have hdirectories := node?_directory_of_run hrun
  obtain ⟨hschema, hfiles⟩ := reaches_of_directories hdirectories
  have hcontained : ∀ file ∈ templates, after.contains file.1 = true := by
    intro file hfile
    rw [contains_of_reaches (hfiles file hfile), node?_template_of_run hrun hfile, Option.isSome_or]
    exact Bool.or_true _
  refine ⟨isDirectory_of_reaches hschema (hdirectories _ (append_mem_steps [] (by decide))),
    fun file hfile => ⟨hcontained file hfile, fun hmissing => ?_⟩,
    fun path node hnode hmissing => node?_added_of_run hrun hnode hmissing,
    run_of_complete hdirectories hcontained⟩
  refine readText_of_reaches (hfiles file hfile) ?_
  rw [node?_template_of_run hrun hfile, hmissing, Option.none_or]

/--
A project with settings of its own keeps them, and is given a manifest and a directory for its
schema.
-/
theorem run_adds_what_is_missing_own_settings :
    let settings := "count = 3\n".toUTF8
    let tree : FileTree :=
      { entries := [(["database"], .directory), (["database", "dummy.toml"], .file settings)] }
    let after := (run tree).2
    (run tree).1 = .ok ["Scaffolded database/models.toml"] ∧
      after.node? ["database", "dummy.toml"] = some (.file settings) ∧
      tree.node? ["database", "models.toml"] = none ∧ after.readText manifestPath = .ok manifestText ∧
      run after = (.ok ["Nothing to scaffold, configuration already present"], after) := by
  intro settings tree after
  have hlines : (run tree).1 = .ok ["Scaffolded database/models.toml"] := by decide +kernel
  have hmissing : tree.node? (parts manifestPath) = none := by decide
  obtain ⟨hkeeps, -, hadds⟩ := run_adds_what_is_missing tree
  obtain ⟨-, hfiles, -, hagain⟩ := hadds _ after (Prod.ext hlines rfl)
  have hmanifest := hfiles (manifestPath, manifestText) (by simp [templates])
  exact ⟨hlines, hkeeps _ _ rfl, hmissing, hmanifest.2 hmissing, hagain⟩

/-- Nothing can be set up where the directory of the schema is a file. -/
example :
    let tree : FileTree :=
      { entries := [(["database"], .directory), (["database", "schema"], .file "".toUTF8)] }
    (run tree).1 = .error (.during (.creatingDirectory "database/schema") (.file .exists)) := by
  decide +kernel

end Scaffold

end SampleData
