import Inspection.Files.Tree
import Inspection.Proofs.Keyed

/-!
# Files — The files of a tree

The files of a tree are listed folder by folder, each in the order of its names.  That is the order
of their paths, name by name; so the list is known by which files there are, and where the octets of
one file are replaced, the rest of the list stays as it is.

* `Entry.IsTree`: the trees that a file system can hold.
* `Entry.mem_files_iff`, `Entry.pairwise_files`: which files are listed, and in which order.
* `Entry.exists_replaced`: the tree and the list with the octets of one file replaced.
-/

namespace Inspection.Files

/-- A name that an entry of a folder can have. -/
structure IsEntryName (name : String) : Prop where
  ne_empty : name ≠ ""
  ne_dot : name ≠ "."
  ne_dots : name ≠ ".."
  no_slash : '/' ∉ name.toList

instance (name : String) : Decidable (IsEntryName name) :=
  decidable_of_iff (name ≠ "" ∧ name ≠ "." ∧ name ≠ ".." ∧ '/' ∉ name.toList)
    ⟨fun ⟨h, hdot, hdots, hslash⟩ => ⟨h, hdot, hdots, hslash⟩,
      fun h => ⟨h.ne_empty, h.ne_dot, h.ne_dots, h.no_slash⟩⟩

namespace Entry

/-- A tree that a file system can hold: every entry of a folder has a name, and no other entry of
that folder has the same. -/
inductive IsTree : Entry → Prop where
  | file (octets : List UInt8) : IsTree (.file octets)
  | folder {entries : List (String × Entry)} (hnames : ∀ x ∈ entries, IsEntryName x.1)
      (hnodup : (entries.map (·.1)).Nodup) (hentries : ∀ x ∈ entries, IsTree x.2) :
      IsTree (.folder entries)

/-- At the path stands a file with these octets. -/
def HasFile (e : Entry) (path : List String) (octets : List UInt8) : Prop :=
  e.find? path = some (.file octets)

variable {e child : Entry} {entries : List (String × Entry)} {path rest : List String}
  {octets old new : List UInt8} {name : String}

/-! ### Which files are listed -/

theorem perEntry_eq_map (entries : List (String × Entry)) :
    perEntry entries = entries.map fun x => (x.1, (files x.2).map fun y => (x.1 :: y.1, y.2)) := by
  induction entries with
  | nil => rfl
  | cons x entries ih => rw [perEntry, ih, List.map_cons]

theorem mem_files_folder {x : List String × List UInt8} :
    x ∈ (folder entries).files ↔
      ∃ y ∈ entries, ∃ z ∈ y.2.files, x = (y.1 :: z.1, z.2) := by
  simp only [files, List.mem_flatMap, List.mem_mergeSort, perEntry_eq_map, List.mem_map]
  constructor
  · rintro ⟨_, ⟨y, hy, rfl⟩, hx⟩
    obtain ⟨z, hz, rfl⟩ := List.mem_map.1 hx
    exact ⟨y, hy, z, hz, rfl⟩
  · rintro ⟨y, hy, z, hz, rfl⟩
    exact ⟨_, ⟨y, hy, rfl⟩, List.mem_map_of_mem hz⟩

theorem hasFile_folder_cons (hnodup : (entries.map (·.1)).Nodup) :
    (folder entries).HasFile (name :: rest) octets ↔
      ∃ child, (name, child) ∈ entries ∧ child.HasFile rest octets := by
  simp only [HasFile, find?, Option.bind_eq_some_iff, lookup_eq_some_iff_mem hnodup]

/-- **The files of a tree are those that stand at its paths.** -/
theorem mem_files_iff (h : e.IsTree) : (path, octets) ∈ e.files ↔ e.HasFile path octets := by
  induction h generalizing path with
  | file octets' => cases path <;> simp [files, HasFile, find?, eq_comm]
  | folder hnames hnodup _ ih =>
    rw [mem_files_folder]
    cases path with
    | nil => simp [HasFile, find?]
    | cons name rest =>
      rw [hasFile_folder_cons hnodup]
      constructor
      · rintro ⟨⟨name', child⟩, hmem, ⟨rest', octets'⟩, hfile, heq⟩
        obtain ⟨heq, rfl⟩ := Prod.mk.inj heq
        obtain ⟨rfl, rfl⟩ := List.cons.inj heq
        exact ⟨child, hmem, (ih _ hmem).1 hfile⟩
      · rintro ⟨child, hmem, hfile⟩
        exact ⟨(name, child), hmem, (rest, octets), (ih _ hmem).2 hfile, rfl⟩

/-! ### In which order -/

/-- **The files of a tree are listed in the order of their paths**, which compares them name by
name. -/
theorem pairwise_files (h : e.IsTree) : e.files.Pairwise fun x y => x.1 < y.1 := by
  induction h with
  | file octets => exact List.pairwise_singleton ..
  | @folder entries _ hnodup _ ih =>
    rw [files, List.pairwise_flatMap]
    have hperm : (sortBy (·.1) (perEntry entries)).Perm (perEntry entries) := sortBy_perm _ _
    have hmem {y : String × List (List String × List UInt8)}
        (hy : y ∈ sortBy (·.1) (perEntry entries)) :
        ∃ x ∈ entries, y = (x.1, (files x.2).map fun z => (x.1 :: z.1, z.2)) := by
      have hy := hperm.mem_iff.1 hy
      rw [perEntry_eq_map, List.mem_map] at hy
      exact hy.imp fun _ hx => ⟨hx.1, hx.2.symm⟩
    refine ⟨fun y hy => ?_, ?_⟩
    · obtain ⟨x, hx, rfl⟩ := hmem hy
      rw [List.pairwise_map]
      exact (ih x hx).imp fun hlt => List.cons_lt_cons_iff.2 (.inr ⟨rfl, hlt⟩)
    · have hnames : ((sortBy (·.1) (perEntry entries)).map (·.1)).Nodup := by
        refine (hperm.map _).nodup_iff.2 ?_
        simpa [perEntry_eq_map, Function.comp_def] using hnodup
      have hle := pairwise_le_sortBy (·.1) (perEntry entries)
      rw [List.Nodup, List.pairwise_map] at hnames
      refine (hle.and hnames).imp_of_mem fun {y y'} hy hy' hlt x hx x' hx' => ?_
      obtain ⟨⟨name, child⟩, -, rfl⟩ := hmem hy
      obtain ⟨⟨name', child'⟩, -, rfl⟩ := hmem hy'
      obtain ⟨z, -, rfl⟩ := List.mem_map.1 hx
      obtain ⟨z', -, rfl⟩ := List.mem_map.1 hx'
      exact List.cons_lt_cons_iff.2 (.inl (lt_of_le_of_ne hlt.1 hlt.2))

/-! ### With one file replaced -/

theorem mem_set {x : String × Entry} :
    x ∈ set entries name child ↔ x ∈ entries ∧ x.1 ≠ name ∨ x = (name, child) := by
  simp [set]

theorem lookup_set (entries : List (String × Entry)) (name : String) (child : Entry) :
    (set entries name child).lookup name = some child := by
  have hnone : (entries.filter (·.1 != name)).lookup name = none := by
    refine List.lookup_eq_none_iff.2 fun x hx => ?_
    simpa [bne_comm] using (List.mem_filter.1 hx).2
  rw [set, List.lookup_append, hnone]
  simp

/-- What was put at a path is found there. -/
theorem find?_put? {put : Entry} (h : put.put? path e = some child) :
    child.find? path = some put := by
  induction path generalizing e child with
  | nil =>
    obtain rfl := Option.some.inj h
    rfl
  | cons name rest ih =>
    cases e with
    | file octets => cases h
    | folder entries =>
      obtain ⟨below, hput, rfl⟩ := Option.map_eq_some_iff.1 h
      rw [find?, lookup_set, Option.bind_some, ih hput]

/-- The entries of a folder with another in the place of one, or with one more. -/
theorem isTree_set (h : (folder entries).IsTree) (hname : IsEntryName name)
    (hchild : child.IsTree) : (folder (set entries name child)).IsTree := by
  cases h with
  | folder hnames hnodup hentries =>
  refine .folder (fun x hx => ?_) (nodup_filter_append hnodup name child) fun x hx => ?_
  · obtain ⟨hx, -⟩ | rfl := mem_set.1 hx
    · exact hnames x hx
    · exact hname
  · obtain ⟨hx, -⟩ | rfl := mem_set.1 hx
    · exact hentries x hx
    · exact hchild

theorem exists_put? (h : e.IsTree) (hfile : e.HasFile path old) (new : List UInt8) :
    ∃ e', (file new).put? path e = some e' ∧ e'.IsTree ∧ e'.HasFile path new ∧
      ∀ q octets, q ≠ path → (e'.HasFile q octets ↔ e.HasFile q octets) := by
  induction path generalizing e with
  | nil =>
    obtain rfl := Option.some.inj hfile
    refine ⟨.file new, rfl, .file new, rfl, fun q octets hq => ?_⟩
    obtain ⟨name, rest, rfl⟩ := List.exists_cons_of_ne_nil hq
    rfl
  | cons name rest ih =>
    cases h with
    | file octets => cases hfile
    | @folder entries hnames hnodup hentries =>
      obtain ⟨child, hmem, hchild⟩ := (hasFile_folder_cons hnodup).1 hfile
      obtain ⟨child', hput, htree, hnew, hothers⟩ := ih (hentries _ hmem) hchild
      have hname : IsEntryName name := hnames _ hmem
      have hset : ((set entries name child').map (·.1)).Nodup :=
        nodup_filter_append hnodup name child'
      refine ⟨folder (set entries name child'), ?_,
        isTree_set (.folder hnames hnodup hentries) hname htree, ?_, fun q octets hq => ?_⟩
      · rw [put?, (lookup_eq_some_iff_mem hnodup).2 hmem, Option.getD_some, hput, Option.map_some]
      · exact (hasFile_folder_cons hset).2
          ⟨child', mem_set.2 (.inr rfl), hnew⟩
      · cases q with
        | nil => simp [HasFile, find?]
        | cons other more =>
          rw [hasFile_folder_cons hnodup, hasFile_folder_cons hset]
          simp only [mem_set, Prod.mk.injEq]
          -- below another entry nothing is new; below this one the induction tells the paths apart
          by_cases hother : other = name
          · subst hother
            have hmore : more ≠ rest := fun heq => hq (congrArg (other :: ·) heq)
            have hchildren (c : Entry) : (other, c) ∈ entries ↔ c = child := by
              rw [← lookup_eq_some_iff_mem hnodup, (lookup_eq_some_iff_mem hnodup).2 hmem,
                Option.some_inj, eq_comm]
            simp [hchildren, hothers more octets hmore]
          · simp [hother]

/-- No file stands at the path of a folder. -/
theorem HasFile.ne_nil (h : (folder entries).HasFile path octets) : path ≠ [] := by
  rintro rfl
  cases h

/-- Every part of the path of a file is the name of an entry. -/
theorem IsTree.isEntryName (h : e.IsTree) (hfile : e.HasFile path octets) :
    ∀ name ∈ path, IsEntryName name := by
  induction path generalizing e with
  | nil => exact List.forall_mem_nil _
  | cons name rest ih =>
    cases h with
    | file octets => cases hfile
    | folder hnames hnodup hentries =>
      obtain ⟨child, hmem, hchild⟩ := (hasFile_folder_cons hnodup).1 hfile
      exact List.forall_mem_cons.2 ⟨hnames _ hmem, ih (hentries _ hmem) hchild⟩

/-- **A file below a folder can be replaced**: there is the folder with other octets in the place of
the file's, and the list of its files changes in this one place only. -/
theorem exists_replaced (h : (folder entries).IsTree) (hfile : (folder entries).HasFile path old)
    (new : List UInt8) :
    ∃ entries', (file new).put? path (folder entries) = some (folder entries') ∧
      (folder entries').IsTree ∧
      ∃ front back, (folder entries).files = front ++ (path, old) :: back ∧
        (folder entries').files = front ++ (path, new) :: back := by
  obtain ⟨e', hput, htree, hnew, hothers⟩ := exists_put? h hfile new
  obtain ⟨name, rest, rfl⟩ := List.exists_cons_of_ne_nil hfile.ne_nil
  obtain ⟨child, -, rfl⟩ := Option.map_eq_some_iff.1 hput
  refine ⟨_, hput, htree, exists_around (pairwise_files h) (pairwise_files htree)
    ((mem_files_iff h).2 hfile) ((mem_files_iff htree).2 hnew) fun x hx => ?_⟩
  rw [mem_files_iff h, mem_files_iff htree, hothers x.1 x.2 hx]

end Entry

end Inspection.Files
