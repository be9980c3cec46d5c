import Inspection.Proofs.Catalog.Choice
import Inspection.Proofs.Catalog.Loaded

/-!
# Catalog — The names of tasks

A task is named for the path of its file.  A name does not say where in it a folder ends: a slash
and a dot of a file's or folder's name come out as one dot, and the extension is left out.  So
`a/b.yaml`, `a.b.yaml` and `a/b.yml` all name the task `a.b`, and a catalog can have several entries
of one name.

* `Catalog.IsMadeOf.names_perm`: the names in a catalog are those of the task files.
* `taskNameAt_eq_iff`: which task files have one name.
* `Catalog.ofDirectory_names`: when the names in a catalog differ from each other.
-/

namespace Inspection

open Files (Entry IsEntryName words)

/-- At the path stands a task file. -/
def HasTaskFile (tree : Entry) (path : List String) : Prop :=
  IsTaskPath path ∧ ∃ octets, tree.HasFile path octets

/-- The path of a task file with no dot but the one before its extension. -/
structure IsPlain (folders : List String) (base : String) (path : List String) : Prop where
  ne_empty : base ≠ ""
  path_eq : path = folders ++ [base ++ ".yaml"] ∨ path = folders ++ [base ++ ".yml"]
  no_dot : ∀ name ∈ folders ++ [base], '.' ∉ name.toList

variable {shown base base' : String} {path folders folders' p q : List String}
  {entries : List (String × Entry)} {tree : Entry} {walk : List (List String × List UInt8)}
  {made : List (Task ⊕ BrokenTask)} {catalog : Catalog}

/-! ### The names of the entries -/

theorem names_perm_entryName (made : List (Task ⊕ BrokenTask)) :
    ((made.filterMap Sum.getLeft?).map (·.name) ++
      (made.filterMap Sum.getRight?).map (·.task)).Perm (made.map entryName) := by
  induction made with
  | nil => exact .refl _
  | cons m made ih =>
    cases m with
    | inl t => exact ih.cons t.name
    | inr b => exact List.perm_middle.trans (ih.cons b.task)

/-- The names of a catalog are those of the task files. -/
theorem Catalog.IsMadeOf.names_perm (h : catalog.IsMadeOf shown tree walk made) :
    catalog.names.Perm (walk.map fun x => taskNameAt shown x.1) := by
  have hnames : walk.map (fun x => taskNameAt shown x.1) = made.map entryName := by
    refine List.forall₂_eq_eq_eq ▸ List.forall₂_map_left_iff.2 (List.forall₂_map_right_iff.2 ?_)
    exact h.becomes.imp fun _ _ hbecomes => hbecomes.entryName_eq.symm
  rw [names, h.broken_walk, hnames]
  exact ((h.tasks_perm.map _).append_right _).trans (names_perm_entryName made)

theorem Catalog.IsMadeOf.nodup_names_iff (h : catalog.IsMadeOf shown tree walk made) :
    catalog.names.Nodup ↔ ∀ p q, HasTaskFile tree p → HasTaskFile tree q →
      taskNameAt shown p = taskNameAt shown q → p = q := by
  have hwalk : walk.Nodup := h.walk_order.imp fun hlt heq => (heq ▸ hlt).ne rfl
  have hfiles (p : List String) : HasTaskFile tree p ↔ ∃ octets, (p, octets) ∈ walk := by
    simp [HasTaskFile, h.mem_walk]
  have hone {p : List String} {a b : List UInt8} (ha : (p, a) ∈ walk) (hb : (p, b) ∈ walk) :
      a = b := by
    have ha := ((h.mem_walk p a).1 ha).2
    exact Entry.file.inj (Option.some.inj (ha.symm.trans ((h.mem_walk p b).1 hb).2))
  rw [h.names_perm.nodup_iff, List.nodup_map_iff_inj_on hwalk]
  constructor
  · intro hinj p q hp hq hname
    obtain ⟨a, ha⟩ := (hfiles p).1 hp
    obtain ⟨b, hb⟩ := (hfiles q).1 hq
    exact congrArg Prod.fst (hinj _ ha _ hb hname)
  · rintro hinj ⟨p, a⟩ ha ⟨q, b⟩ hb hname
    obtain rfl := hinj p q ((hfiles p).2 ⟨a, ha⟩) ((hfiles q).2 ⟨b, hb⟩) hname
    rw [hone ha hb]

/-! ### Which files have one name -/

theorem taskNameAt_eq_iff (h : tree.IsTree) (hp : HasTaskFile tree p) (hq : HasTaskFile tree q) :
    taskNameAt shown p = taskNameAt shown q ↔ words p = words q := by
  have hname {path : List String} (hpath : HasTaskFile tree path) :
      taskNameAt shown path = Files.dottedName path := by
    obtain ⟨htask, octets, hfile⟩ := hpath
    exact Files.dottedNameUnder_join shown htask.ne_nil (h.isEntryName hfile)
  rw [hname hp, hname hq, Files.dottedName_eq_iff hp.1.ne_nil hq.1.ne_nil]

/-- The words of a plain path are its names. -/
theorem IsPlain.words_eq (h : IsPlain folders base path) :
    words path = (folders ++ [base]).map String.toList := by
  have hbase : base ≠ "." := by
    rintro rfl
    exact h.no_dot "." (by simp) (by decide)
  have hwords (ext : String) (hext : '.' ∉ ext.toList) (hne : ext ≠ "") :
      words (folders ++ [base ++ "." ++ ext]) = (folders ++ [base]).map String.toList := by
    rw [Files.words_append folders h.ne_empty hext hne, if_neg hbase,
      List.flatMap_congr fun name hname => Text.splitAll_of_not_mem (h.no_dot name hname),
      ← List.map_eq_flatMap]
  obtain rfl | rfl := h.path_eq
  · have := hwords "yaml" (by decide) (by decide)
    rwa [String.append_assoc] at this
  · have := hwords "yml" (by decide) (by decide)
    rwa [String.append_assoc] at this

theorem IsPlain.words_eq_iff (hp : IsPlain folders base p) (hq : IsPlain folders' base' q) :
    words p = words q ↔ folders = folders' ∧ base = base' := by
  rw [hp.words_eq, hq.words_eq, (List.map_injective_iff.2 fun _ _ => String.toList_inj.1).eq_iff]
  constructor
  · intro heq
    simpa using List.append_inj' heq rfl
  · rintro ⟨rfl, rfl⟩
    rfl

/-- **The names of a directory's tasks.**  Task files have one name exactly if their paths have the
same words, and the names in a catalog differ exactly if no two task files do.  Where no folder and
no file has a dot in its name, only files in one folder have one name, and only two that differ in
nothing but the extension. -/
theorem Catalog.ofDirectory_names (shown : String) (h : (Entry.folder entries).IsTree) :
    ∃ catalog, Catalog.ofDirectory shown (some (.folder entries)) = .ok catalog ∧
      (catalog.names.Nodup ↔ ∀ p q, HasTaskFile (.folder entries) p →
        HasTaskFile (.folder entries) q → words p = words q → p = q) ∧
      ∀ p q, HasTaskFile (.folder entries) p → HasTaskFile (.folder entries) q →
        (taskNameAt shown p = taskNameAt shown q ↔ words p = words q) ∧
        ∀ folders base folders' base', IsPlain folders base p → IsPlain folders' base' q →
          (taskNameAt shown p = taskNameAt shown q ↔ folders = folders' ∧ base = base') := by
  have hmade := isMadeOf_taskFiles shown h
  refine ⟨_, ofDirectory_eq shown entries, ?_, fun p q hp hq => ?_⟩
  · rw [hmade.nodup_names_iff]
    refine forall₂_congr fun p q => forall₂_congr fun hp hq => ?_
    rw [taskNameAt_eq_iff h hp hq]
  · refine ⟨taskNameAt_eq_iff h hp hq, fun folders base folders' base' hplain hplain' => ?_⟩
    rw [taskNameAt_eq_iff h hp hq, hplain.words_eq_iff hplain']

/-- Two files in one folder whose names differ before the extension. -/
theorem Catalog.ofDirectory_names_apart :
    (Entry.folder Sample.folder).IsTree ∧
      ∃ catalog, Catalog.ofDirectory "tasks" (some (.folder Sample.folder)) = .ok catalog ∧
        taskNameAt "tasks" ["system", "aio.yaml"] ≠ taskNameAt "tasks" ["system", "disk.yml"] := by
  have haio : HasTaskFile (.folder Sample.folder) ["system", "aio.yaml"] :=
    ⟨⟨["system"], "aio", "yaml", rfl, by decide, .inl rfl⟩, [], rfl⟩
  have hdisk : HasTaskFile (.folder Sample.folder) ["system", "disk.yml"] :=
    ⟨⟨["system"], "disk", "yml", rfl, by decide, .inr rfl⟩, [], rfl⟩
  have haio' : IsPlain ["system"] "aio" ["system", "aio.yaml"] :=
    ⟨by decide, .inl rfl, by decide⟩
  have hdisk' : IsPlain ["system"] "disk" ["system", "disk.yml"] :=
    ⟨by decide, .inr rfl, by decide⟩
  obtain ⟨catalog, hcatalog, -, hnames⟩ := Catalog.ofDirectory_names "tasks" Sample.isTree_folder
  refine ⟨Sample.isTree_folder, catalog, hcatalog, fun heq => ?_⟩
  have hsame := ((hnames _ _ haio hdisk).2 _ _ _ _ haio' hdisk').1 heq
  exact absurd hsame.2 (by decide)

namespace Sample

/-- A file in a folder, and one whose name has a dot for the slash. -/
def dotted : List (String × Entry) :=
  [("a", .folder [("b.yaml", .file [])]), ("a.b.yaml", .file [])]

theorem isTree_dotted : (Entry.folder dotted).IsTree := by
  have hfolder : (Entry.folder [("b.yaml", .file [])]).IsTree :=
    .folder (by decide) (by decide) (by simpa using Entry.IsTree.file [])
  refine .folder (by decide) (by decide) ?_
  simpa [dotted] using ⟨hfolder, Entry.IsTree.file []⟩

end Sample

/-- Two files of one name make two entries of that name. -/
theorem Catalog.ofDirectory_names_shared :
    (Entry.folder Sample.dotted).IsTree ∧
      HasTaskFile (.folder Sample.dotted) ["a", "b.yaml"] ∧
      HasTaskFile (.folder Sample.dotted) ["a.b.yaml"] ∧
      taskNameAt "tasks" ["a", "b.yaml"] = taskNameAt "tasks" ["a.b.yaml"] ∧
      ∃ catalog, Catalog.ofDirectory "tasks" (some (.folder Sample.dotted)) = .ok catalog ∧
        ¬catalog.names.Nodup := by
  have hfolder : HasTaskFile (.folder Sample.dotted) ["a", "b.yaml"] :=
    ⟨⟨["a"], "b", "yaml", rfl, by decide, .inl rfl⟩, [], rfl⟩
  have hfile : HasTaskFile (.folder Sample.dotted) ["a.b.yaml"] :=
    ⟨⟨[], "a.b", "yaml", rfl, by decide, .inl rfl⟩, [], rfl⟩
  have hname : taskNameAt "tasks" ["a", "b.yaml"] = taskNameAt "tasks" ["a.b.yaml"] :=
    (taskNameAt_eq_iff Sample.isTree_dotted hfolder hfile).2 (by decide_cbv)
  refine ⟨Sample.isTree_dotted, hfolder, hfile, hname, _, ofDirectory_eq .., fun hnodup => ?_⟩
  have hinj := (isMadeOf_taskFiles "tasks" Sample.isTree_dotted).nodup_names_iff.1 hnodup
  exact absurd (hinj _ _ hfolder hfile hname) (by decide)

end Inspection
