import Inspection.Catalog.Directory
import Inspection.Proofs.Except
import Inspection.Proofs.Files.Path

/-!
# Catalog — What a directory defines

Every task file below a directory makes one entry of its catalog, under the name that its path
gives it: the task that its text defines, or the reason why there is none.  No entry depends on what
another file holds.  Directories are trees, as `Files.Entry` has them, in which nothing is barred.

* `IsTaskPath`, `Becomes`: the task files, and what becomes of one.
* `Catalog.IsMadeOf`: the catalog with an entry for each of them.
* `Catalog.around`: an entry in its place between the others.
* `Catalog.ofDirectory_files`: the catalog of a directory, and the one with a file replaced.
-/

namespace Inspection

open Files (Entry IsEntryName)

/-- The path of a task file: the last name has the extension `yaml` or `yml`, and something before
that. -/
def IsTaskPath (path : List String) : Prop :=
  ∃ folders base ext, path = folders ++ [base ++ "." ++ ext] ∧ base ≠ "" ∧
    (ext = "yaml" ∨ ext = "yml")

/-- The name of the task whose file stands at a path below a folder. -/
def taskNameAt (shown : String) (path : List String) : String :=
  Files.dottedNameUnder shown (Files.join shown ("/".intercalate path))

/-- What becomes of a task file: the task that its text defines, or an error under its name. -/
inductive Becomes (shown : String) (path : List String) (octets : List UInt8) :
    Task ⊕ BrokenTask → Prop where
  | task {t : Task} (htext : Text.isUtf8 octets = true) (hname : t.name = taskNameAt shown path)
      (h : Task.ofText (taskNameAt shown path) (Text.readLossy octets) = .ok t) :
      Becomes shown path octets (.inl t)
  | invalid {e : TaskError} (htext : Text.isUtf8 octets = true)
      (h : Task.ofText (taskNameAt shown path) (Text.readLossy octets) = .error e) :
      Becomes shown path octets (.inr ⟨taskNameAt shown path, e.message⟩)
  | noText (htext : Text.isUtf8 octets = false) :
      Becomes shown path octets (.inr ⟨taskNameAt shown path,
        (TaskError.file (Files.join shown ("/".intercalate path) ++ ": " ++ notUtf8)).message⟩)

/-- The name of an entry. -/
def entryName : Task ⊕ BrokenTask → String := Sum.elim (·.name) (·.task)

/-- The catalog has one entry for each task file of a tree.  The errors stand in the order of the
walk, which is that of the paths, and so do the tasks of one name. -/
structure Catalog.IsMadeOf (catalog : Catalog) (shown : String) (tree : Entry)
    (walk : List (List String × List UInt8)) (made : List (Task ⊕ BrokenTask)) : Prop where
  mem_walk : ∀ path octets, (path, octets) ∈ walk ↔ IsTaskPath path ∧ tree.HasFile path octets
  walk_order : walk.Pairwise fun x y => x.1 < y.1
  becomes : List.Forall₂ (fun x m => Becomes shown x.1 x.2 m) walk made
  tasks_perm : catalog.tasks.Perm (made.filterMap Sum.getLeft?)
  tasks_order : catalog.tasks.Pairwise fun a b => a.name ≤ b.name
  tasks_walk : ∀ name, catalog.tasks.filter (·.name == name) =
    (made.filterMap Sum.getLeft?).filter (·.name == name)
  broken_walk : catalog.broken = made.filterMap Sum.getRight?

/-- An entry between the others: among the tasks, or among the errors. -/
def Catalog.around (before : Catalog) (made : Task ⊕ BrokenTask) (after : Catalog) : Catalog where
  tasks := before.tasks ++ made.getLeft?.toList ++ after.tasks
  broken := before.broken ++ made.getRight?.toList ++ after.broken

variable {shown : String} {path : List String} {octets : List UInt8}
  {entries : List (String × Entry)} {made : Task ⊕ BrokenTask}

/-! ### One file -/

theorem isTaskFile_iff : isTaskFile path = true ↔ IsTaskPath path := by
  have hext : isTaskFile path = true ↔ ∃ ext, path.getLast?.bind Files.extension? = some ext ∧
      (ext = "yaml" ∨ ext = "yml") := by
    rw [isTaskFile]
    split
    · simp_all
    · simp_all
    · rename_i hyaml hyml
      simpa using fun ext hext => ⟨fun h => hyaml (h ▸ hext), fun h => hyml (h ▸ hext)⟩
  simp only [hext, Option.bind_eq_some_iff, List.getLast?_eq_some_iff, Files.extension?_eq_some_iff]
  constructor
  · rintro ⟨ext, ⟨_, ⟨folders, rfl⟩, base, hbase, rfl, -⟩, hyaml⟩
    exact ⟨folders, base, ext, rfl, hbase, hyaml⟩
  · rintro ⟨folders, base, ext, rfl, hbase, hyaml⟩
    have hdot : '.' ∉ ext.toList := by
      obtain rfl | rfl := hyaml
      · decide
      · decide
    exact ⟨ext, ⟨_, ⟨folders, rfl⟩, base, hbase, rfl, hdot⟩, hyaml⟩

theorem IsTaskPath.ne_nil (h : IsTaskPath path) : path ≠ [] := by
  obtain ⟨folders, base, ext, rfl, -⟩ := h
  simp

theorem Task.ofText_name {name text : String} {t : Task} (h : Task.ofText name text = .ok t) :
    t.name = name := by
  obtain ⟨form, -, h⟩ := bind_eq_ok h
  rw [TaskForm.resolve] at h
  split at h
  · cases h
  · obtain ⟨variants, -, h⟩ := bind_eq_ok h
    obtain rfl := Except.ok.inj h
    rfl

theorem Becomes.entryName_eq (h : Becomes shown path octets made) :
    entryName made = taskNameAt shown path := by
  cases h with
  | task _ hname _ => exact hname
  | invalid => rfl
  | noText => rfl

/-- The entry that a result makes. -/
def catalogEntry (x : String × Except TaskError Task) : Task ⊕ BrokenTask :=
  match x.2 with
  | .ok t => .inl t
  | .error e => .inr ⟨x.1, e.message⟩

/-- The entry that a file makes. -/
def fileEntry (shown : String) (x : List String × List UInt8) : Task ⊕ BrokenTask :=
  let name := Files.dottedName x.1
  catalogEntry (name, readTask name (Files.join shown ("/".intercalate x.1)) x.2)

theorem becomes_fileEntry (hne : path ≠ []) (h : ∀ name ∈ path, IsEntryName name)
    (octets : List UInt8) : Becomes shown path octets (fileEntry shown (path, octets)) := by
  have hname : taskNameAt shown path = Files.dottedName path :=
    Files.dottedNameUnder_join shown hne h
  simp only [fileEntry, readTask, ← hname]
  cases htext : Text.isUtf8 octets with
  | false => exact .noText htext
  | true =>
    simp only [if_true]
    cases hread : Task.ofText (taskNameAt shown path) (Text.readLossy octets) with
    | ok t => exact .task htext (Task.ofText_name hread) hread
    | error e => exact .invalid htext hread

/-! ### All files -/

/-- The catalog of entries that come one after another. -/
def Catalog.ofEntries (made : List (Task ⊕ BrokenTask)) : Catalog where
  tasks := sortBy (·.name) (made.filterMap Sum.getLeft?)
  broken := made.filterMap Sum.getRight?

theorem ofResults_eq (results : List (String × Except TaskError Task)) :
    Catalog.ofResults results = .ofEntries (results.map catalogEntry) := by
  rw [Catalog.ofResults, Catalog.ofEntries, List.filterMap_map, List.filterMap_map]
  refine congrArg₂ Catalog.mk (congrArg (sortBy _) (List.filterMap_congr ?_))
    (List.filterMap_congr ?_)
  · rintro ⟨name, r⟩ -
    cases r <;> rfl
  · rintro ⟨name, r⟩ -
    cases r <;> rfl

/-- The task files of a tree, as they are come to. -/
def taskFiles (tree : Entry) : List (List String × List UInt8) :=
  tree.files.filter fun x => isTaskFile x.1

theorem ofDirectory_eq (shown : String) (entries : List (String × Entry)) :
    Catalog.ofDirectory shown (some (.folder entries)) =
      .ok (.ofEntries ((taskFiles (.folder entries)).map (fileEntry shown))) := by
  rw [Catalog.ofDirectory, ofResults_eq, taskResults, List.map_map]
  rfl

theorem mem_taskFiles_iff {tree : Entry} (h : tree.IsTree) :
    (path, octets) ∈ taskFiles tree ↔ IsTaskPath path ∧ tree.HasFile path octets := by
  rw [taskFiles, List.mem_filter, Entry.mem_files_iff h, isTaskFile_iff, and_comm]

theorem isMadeOf_taskFiles (shown : String) (h : (Entry.folder entries).IsTree) :
    let walk := taskFiles (.folder entries)
    let made := walk.map (fileEntry shown)
    (Catalog.ofEntries made).IsMadeOf shown (.folder entries) walk made where
  mem_walk _ _ := mem_taskFiles_iff h
  walk_order := (Entry.pairwise_files h).sublist List.filter_sublist
  becomes := List.forall₂_map_right_iff.2 <| List.forall₂_same.2 fun x hx => by
    obtain ⟨htask, hfile⟩ := (mem_taskFiles_iff h).1 hx
    exact becomes_fileEntry htask.ne_nil (h.isEntryName hfile) x.2
  tasks_perm := sortBy_perm _ _
  tasks_order := pairwise_le_sortBy (fun t : Task => t.name) _
  tasks_walk := filter_sortBy _ _
  broken_walk := rfl

/-- The task files before a file and after it; the file is one of them or not by its path. -/
theorem taskFiles_around {tree : Entry} {front back : List (List String × List UInt8)}
    (h : tree.files = front ++ (path, octets) :: back) :
    taskFiles tree = front.filter (isTaskFile ·.1) ++
      (if isTaskFile path then [(path, octets)] else []) ++ back.filter (isTaskFile ·.1) := by
  rw [taskFiles, h, List.filter_append, List.filter_cons, List.append_assoc]
  split <;> rfl

/-- Entries of one name in the same place between others. -/
theorem ofEntries_around (front back : List (Task ⊕ BrokenTask)) (name : String) :
    ∃ before after : Catalog, ∀ made : Task ⊕ BrokenTask, entryName made = name →
      Catalog.ofEntries (front ++ made :: back) = before.around made after := by
  obtain ⟨before, after, hsort⟩ := sortBy_around (fun t : Task => t.name)
    (front.filterMap Sum.getLeft?) (back.filterMap Sum.getLeft?) name
  refine ⟨⟨before, front.filterMap Sum.getRight?⟩, ⟨after, back.filterMap Sum.getRight?⟩, ?_⟩
  intro made hname
  have hone : ∀ t ∈ made.getLeft?.toList, t.name = name := by
    cases made with
    | inl t => simpa [entryName] using hname
    | inr b => simp
  rw [Catalog.ofEntries, Catalog.around, ← hsort _ hone]
  cases made <;> simp [List.filterMap_cons]

/-- **The catalog of a directory** has one entry for each task file, made of that file alone.  The
directory with one file replaced has the same catalog but for the entry of that file, if it has
one. -/
theorem Catalog.ofDirectory_files (shown : String) (h : (Entry.folder entries).IsTree) :
    ∃ catalog, Catalog.ofDirectory shown (some (.folder entries)) = .ok catalog ∧
      (∃ walk made, catalog.IsMadeOf shown (.folder entries) walk made) ∧
      ∀ path old new, (Entry.folder entries).HasFile path old →
        ∃ entries' catalog',
          (Entry.file new).put? path (.folder entries) = some (.folder entries') ∧
          (Entry.folder entries').IsTree ∧
          Catalog.ofDirectory shown (some (.folder entries')) = .ok catalog' ∧
          (¬IsTaskPath path → catalog' = catalog) ∧
          (IsTaskPath path → ∃ (before after : Catalog) (made made' : Task ⊕ BrokenTask),
            Becomes shown path old made ∧ Becomes shown path new made' ∧
            catalog = before.around made after ∧ catalog' = before.around made' after) := by
  refine ⟨_, ofDirectory_eq shown entries, ⟨_, _, isMadeOf_taskFiles shown h⟩, ?_⟩
  intro path old new hfile
  obtain ⟨entries', hput, htree, front, back, hfiles, hfiles'⟩ :=
    Entry.exists_replaced h hfile new
  refine ⟨entries', _, hput, htree, ofDirectory_eq shown entries', fun hnot => ?_, fun htask => ?_⟩
  -- the walk passes over the file, or makes an entry of it that both times has the same name
  · have hskip : ¬isTaskFile path = true := fun htask => hnot (isTaskFile_iff.1 htask)
    rw [taskFiles_around hfiles, taskFiles_around hfiles', if_neg hskip, if_neg hskip]
  · have hkeep : isTaskFile path = true := isTaskFile_iff.2 htask
    have hbecomes (octets : List UInt8) :
        Becomes shown path octets (fileEntry shown (path, octets)) :=
      becomes_fileEntry htask.ne_nil (h.isEntryName hfile) octets
    obtain ⟨before, after, haround⟩ := ofEntries_around
      ((front.filter (isTaskFile ·.1)).map (fileEntry shown))
      ((back.filter (isTaskFile ·.1)).map (fileEntry shown)) (taskNameAt shown path)
    refine ⟨before, after, _, _, hbecomes old, hbecomes new, ?_, ?_⟩
    · rw [← haround _ (hbecomes old).entryName_eq, taskFiles_around hfiles, if_pos hkeep]
      simp
    · rw [← haround _ (hbecomes new).entryName_eq, taskFiles_around hfiles', if_pos hkeep]
      simp

namespace Sample

/-- Two task files in a folder, and a file that defines no task. -/
def folder : List (String × Entry) :=
  [("system", .folder [("aio.yaml", .file []), ("disk.yml", .file [])]), ("notes.txt", .file [])]

theorem isTree_folder : (Entry.folder folder).IsTree := by
  have hfolder : (Entry.folder [("aio.yaml", .file []), ("disk.yml", .file [])]).IsTree := by
    refine .folder (by decide) (by decide) ?_
    simpa using Entry.IsTree.file []
  refine .folder (by decide) (by decide) ?_
  simpa [folder] using ⟨hfolder, Entry.IsTree.file []⟩

end Sample

/-- A file that is overwritten by octets that are no text leaves an error, and the other entries as
they were. -/
theorem Catalog.ofDirectory_files_overwritten :
    (Entry.folder Sample.folder).IsTree ∧
      (Entry.folder Sample.folder).HasFile ["system", "aio.yaml"] [] ∧
      ∃ (entries' : List (String × Entry)) (before after : Catalog) (made : Task ⊕ BrokenTask)
        (message : String),
        (Entry.file [0xFF]).put? ["system", "aio.yaml"] (.folder Sample.folder) =
          some (.folder entries') ∧
        Catalog.ofDirectory "tasks" (some (.folder Sample.folder)) =
          .ok (before.around made after) ∧
        Catalog.ofDirectory "tasks" (some (.folder entries')) =
          .ok (before.around (.inr ⟨"system.aio", message⟩) after) := by
  have htree : (Entry.folder Sample.folder).IsTree := Sample.isTree_folder
  have hfile : (Entry.folder Sample.folder).HasFile ["system", "aio.yaml"] [] := rfl
  have htask : IsTaskPath ["system", "aio.yaml"] :=
    ⟨["system"], "aio", "yaml", rfl, by decide, .inl rfl⟩
  have hoctets : Text.isUtf8 [0xFF] = false := by decide_cbv
  have hname : taskNameAt "tasks" ["system", "aio.yaml"] = "system.aio" :=
    (Files.dottedNameUnder_join "tasks" (by decide) (by decide)).trans (by decide_cbv)
  obtain ⟨catalog, hcatalog, -, hreplace⟩ := Catalog.ofDirectory_files "tasks" htree
  obtain ⟨entries', catalog', hput, -, hcatalog', -, hentry⟩ := hreplace _ [] [0xFF] hfile
  obtain ⟨before, after, made, made', -, hmade', rfl, rfl⟩ := hentry htask
  cases hmade' with
  | task htext => simp [hoctets] at htext
  | invalid htext => simp [hoctets] at htext
  | noText =>
    rw [hname] at hcatalog'
    exact ⟨htree, hfile, entries', before, after, made, _, hput, hcatalog, hcatalog'⟩

end Inspection
