import Inspection.Catalog.Package
import Inspection.Proofs.Catalog.Choice
import Inspection.Proofs.Keyed
import Inspection.Proofs.Yaml.Reading

/-!
# Catalog — Which tasks a package chooses

A selection without patterns that include chooses every task.  None comes of a package: one that
lists no tasks is refused, like one that the file does not have and the one of the exclusions.  So a
run is given what its patterns fit, or what those of its package fit, and only where it names
neither is it given all but the exclusions.

* `Packages.ListsTasks`, `Packages.Says`: what a package file says.
* `Packages.FormsOf`, `Packages.ofFile_eq_ok`: the packages that are read of it.
* `Packages.Chooses`, `Packages.Divides`: what packages choose of a catalog, and what exclusions do.
* `Packages.selection_chooses`: what is chosen for a package and patterns.
-/

namespace Inspection.Packages

open Selection (AllValid fault? fitsAny)
open Yaml (Document)
open Yaml.Decode (Gives resolve isNull namedEntries items text optional? gives_bind gives_pure
  gives_mapM gives_optional? gives_distinct)

/-! ### What a package file says -/

/-- The patterns that an entry of a package file lists: none if it is empty, has no tasks, or has
empty ones. -/
inductive ListsTasks (d : Document) (n : Yaml.Node) : List String → Prop where
  | empty {target : Yaml.Node} (htarget : Gives d (resolve n) target)
      (hempty : Gives d (isNull target) true) : ListsTasks d n []
  | missing {target : Yaml.Node} {es : List (String × Yaml.Node)}
      (htarget : Gives d (resolve n) target) (hnull : Gives d (isNull target) false)
      (hentries : Gives d (namedEntries target) es) (htasks : es.lookup "tasks" = none) :
      ListsTasks d n []
  | emptyTasks {target v value : Yaml.Node} {es : List (String × Yaml.Node)}
      (htarget : Gives d (resolve n) target) (hnull : Gives d (isNull target) false)
      (hentries : Gives d (namedEntries target) es) (htasks : es.lookup "tasks" = some v)
      (hvalue : Gives d (resolve v) value) (hempty : Gives d (isNull value) true) :
      ListsTasks d n []
  | tasks {target v value : Yaml.Node} {es : List (String × Yaml.Node)} {members : List Yaml.Node}
      {patterns : List String} (htarget : Gives d (resolve n) target)
      (hnull : Gives d (isNull target) false) (hentries : Gives d (namedEntries target) es)
      (htasks : es.lookup "tasks" = some v) (hvalue : Gives d (resolve v) value)
      (hvalueNull : Gives d (isNull value) false) (hmembers : Gives d (items value) members)
      (hpatterns : List.Forall₂ (fun m pattern => Gives d (text m) pattern) members patterns) :
      ListsTasks d n patterns

/-- What a package file says: names with the patterns listed under them, in its order.  No file and
a blank text say nothing. -/
inductive Says : Option Files.Entry → List (String × List String) → Prop where
  | noFile : Says none []
  | blank {octets : List UInt8} (htext : Text.isUtf8 octets = true)
      (hblank : Text.isBlankText (Text.readLossy octets) = true) :
      Says (some (.file octets)) []
  | entries {octets : List UInt8} {d : Document} {es : List (String × Yaml.Node)}
      {said : List (String × List String)} (htext : Text.isUtf8 octets = true)
      (hblank : Text.isBlankText (Text.readLossy octets) = false)
      (hread : Document.read (Text.readLossy octets) = .ok d)
      (hentries : Gives d (namedEntries (d.root.getD .empty)) es)
      (hsaid : List.Forall₂ (fun e x => x.1 = e.1 ∧ ListsTasks d e.2 x.2) es said) :
      Says (some (.file octets)) said

/-- The forms of packages hold what is said last of each name. -/
structure FormsOf (said : List (String × List String)) (forms : List (String × Form)) : Prop where
  nodup : (forms.map (·.1)).Nodup
  last : ∀ name tasks, (∃ form, (name, form) ∈ forms ∧ form.tasks = tasks) ↔
    IsLastOf said name tasks

variable {file : Option Files.Entry} {p : Packages} {d : Document} {n : Yaml.Node}
  {said : List (String × List String)} {forms : List (String × Form)} {name : String}
  {tasks patterns : List String}

/-- The fields that count are the tasks and one under two names. -/
theorem lookup_tasks (es : List (String × Yaml.Node)) :
    (es.filterMap fun (k, v) =>
      if k = "info_en" then some ("info", v)
      else if k = "info" || k = "tasks" then some (k, v) else none).lookup "tasks" =
      es.lookup "tasks" := by
  refine lookup_filterMap (fun _ => rfl) fun ⟨k, v⟩ y hk hy => ?_
  dsimp only at hy
  split at hy
  · obtain rfl := Option.some.inj hy
    simp
  · split at hy
    · obtain rfl := Option.some.inj hy
      exact hk
    · cases hy

theorem gives_formRead {form : Form} (h : Gives d (Form.read n) form) :
    ∃ es, Gives d (namedEntries n) es ∧
      ((es.lookup "tasks" = none ∧ form.tasks = []) ∨
        ∃ v value, es.lookup "tasks" = some v ∧ Gives d (resolve v) value ∧
          ((Gives d (isNull value) true ∧ form.tasks = []) ∨
            Gives d (isNull value) false ∧ ∃ members, Gives d (items value) members ∧
              List.Forall₂ (fun m pattern => Gives d (text m) pattern) members form.tasks)) := by
  obtain ⟨es, hes, h⟩ := gives_bind h
  obtain ⟨fs, hfs, h⟩ := gives_bind h
  obtain rfl := gives_distinct hfs
  obtain ⟨info, -, h⟩ := gives_bind h
  obtain ⟨tasks, htasks, h⟩ := gives_bind h
  obtain rfl := gives_pure h
  rw [Yaml.Decode.field, lookup_tasks] at htasks
  refine ⟨es, hes, ?_⟩
  cases hlookup : es.lookup "tasks" with
  | none =>
    rw [hlookup] at htasks
    obtain rfl := gives_pure htasks
    exact .inl ⟨rfl, rfl⟩
  | some v =>
    rw [hlookup] at htasks
    obtain ⟨value, hvalue, ⟨hempty, rfl⟩ | ⟨hnull, patterns, hpatterns, rfl⟩⟩ :=
      gives_optional? htasks
    · exact .inr ⟨v, value, rfl, hvalue, .inl ⟨hempty, rfl⟩⟩
    · obtain ⟨members, hmembers, hpatterns⟩ := gives_bind hpatterns
      exact .inr ⟨v, value, rfl, hvalue, .inr ⟨hnull, members, hmembers, gives_mapM hpatterns⟩⟩

theorem listsTasks_of_gives {form : Option Form} (h : Gives d (optional? Form.read n) form) :
    ListsTasks d n (form.getD {}).tasks := by
  obtain ⟨target, htarget, ⟨hempty, rfl⟩ | ⟨hnull, form, hform, rfl⟩⟩ := gives_optional? h
  · exact .empty htarget hempty
  · rw [Option.getD_some]
    obtain ⟨es, hes, ⟨hmissing, htasks⟩ | ⟨v, value, htasks, hvalue, h⟩⟩ := gives_formRead hform
    · rw [htasks]
      exact .missing htarget hnull hes hmissing
    · obtain ⟨hempty, hform⟩ | ⟨hvalueNull, members, hmembers, hpatterns⟩ := h
      · rw [hform]
        exact .emptyTasks htarget hnull hes htasks hvalue hempty
      · exact .tasks htarget hnull hes htasks hvalue hvalueNull hmembers hpatterns

/-- The last entry of a name is the one that counts. -/
theorem gives_readForms (h : Gives d (readForms n) forms) :
    ∃ es said, Gives d (namedEntries n) es ∧
      List.Forall₂ (fun e x => x.1 = e.1 ∧ ListsTasks d e.2 x.2) es said ∧
      FormsOf said forms := by
  obtain ⟨es, hes, h⟩ := gives_bind h
  obtain ⟨read, hread, h⟩ := gives_bind h
  obtain rfl := gives_pure h
  have hforms := gives_mapM hread
  refine ⟨es, read.map fun x => (x.1, x.2.tasks), hes, ?_, nodup_foldl_filter_append read, ?_⟩
  · refine List.forall₂_map_right_iff.2 (hforms.imp fun e x h => ?_)
    obtain ⟨form, hform, h⟩ := gives_bind h
    obtain rfl := gives_pure h
    exact ⟨rfl, listsTasks_of_gives hform⟩
  · intro name tasks
    rw [isLastOf_map]
    exact exists_congr fun form => and_congr_left fun _ => mem_foldl_iff_isLastOf

/-- The packages of a file are made of what it says. -/
theorem ofFile_eq_ok (h : ofFile file = .ok p) :
    ∃ said forms, Says file said ∧ p = ofForms forms ∧ FormsOf said forms := by
  have hnothing : FormsOf [] [] := ⟨List.nodup_nil, by simp [IsLastOf]⟩
  have hempty : ({} : Packages) = ofForms [] := by simp [ofForms]
  unfold ofFile at h
  split at h
  · obtain rfl := Except.ok.inj h
    exact ⟨[], [], .noFile, hempty, hnothing⟩
  · cases h
  · split at h
    · rename_i octets htext
      rw [ofText] at h
      split at h
      · rename_i hblank
        obtain rfl := Except.ok.inj h
        exact ⟨[], [], .blank htext hblank, hempty, hnothing⟩
      · rename_i hblank
        split at h
        · rename_i forms hforms
          obtain rfl := Except.ok.inj h
          obtain ⟨d, hread, hforms⟩ := Yaml.decode_gives hforms
          obtain ⟨es, said, hes, hsaid, hforms⟩ := gives_readForms hforms
          exact ⟨said, forms, .entries htext (by simpa using hblank) hread hes hsaid, rfl, hforms⟩
        · cases h
    · cases h

/-! ### Packages by name -/

theorem mem_packages_ofForms {package : Package} :
    package ∈ (ofForms forms).packages ↔ ∃ form, (package.name, form) ∈ forms ∧
      package.name ≠ exclusionName ∧ package.info = form.info ∧ package.tasks = form.tasks := by
  simp only [ofForms, List.mem_mergeSort, List.mem_map, List.mem_filter, bne_iff_ne]
  constructor
  · rintro ⟨⟨name, form⟩, ⟨hmem, hname⟩, rfl⟩
    exact ⟨form, hmem, hname, rfl, rfl⟩
  · rintro ⟨form, hmem, hname, hinfo, htasks⟩
    refine ⟨(package.name, form), ⟨hmem, hname⟩, ?_⟩
    rw [← hinfo, ← htasks]

/-- A package that the file has is found, unless it is that of the exclusions. -/
theorem get_ofForms_of_mem (hnodup : (forms.map (·.1)).Nodup) {form : Form}
    (h : (name, form) ∈ forms) (hname : name ≠ exclusionName) :
    ∃ package, (ofForms forms).get name = .ok package ∧ package.tasks = form.tasks := by
  rw [get]
  split
  · rename_i package hfind
    obtain rfl : package.name = name := by simpa using List.find?_some hfind
    obtain ⟨form', hform, -, -, htasks⟩ := mem_packages_ofForms.1 (List.mem_of_find?_eq_some hfind)
    have hsame : forms.lookup package.name = some form := (lookup_eq_some_iff_mem hnodup).2 h
    rw [(lookup_eq_some_iff_mem hnodup).2 hform] at hsame
    obtain rfl := Option.some.inj hsame
    exact ⟨package, rfl, htasks⟩
  · rename_i hnone
    have hmem : (⟨name, form.info, form.tasks⟩ : Package) ∈ (ofForms forms).packages :=
      mem_packages_ofForms.2 ⟨form, h, hname, rfl, rfl⟩
    exact absurd (List.find?_eq_none.1 hnone _ hmem) (by simp)

/-- No other package is found. -/
theorem get_ofForms_of_not_mem (h : ∀ form, (name, form) ∈ forms → name = exclusionName) :
    ∃ known, (ofForms forms).get name =
      .error (.notFound ("check package '" ++ name ++ "' (known: " ++ known ++ ")")) := by
  rw [get]
  split
  · rename_i package hfind
    obtain rfl : package.name = name := by simpa using List.find?_some hfind
    obtain ⟨form, hform, hname, -⟩ := mem_packages_ofForms.1 (List.mem_of_find?_eq_some hfind)
    exact absurd (h form hform) hname
  · exact ⟨_, rfl⟩

theorem exclusions_ofForms (hnodup : (forms.map (·.1)).Nodup) {form : Form}
    (h : (exclusionName, form) ∈ forms) : (ofForms forms).exclusions = form.tasks := by
  rw [ofForms, (lookup_eq_some_iff_mem hnodup).2 h]
  rfl

/-! ### What is chosen -/

/-- The exclusions `tasks` divide a catalog: what a selection with neither a package nor patterns
keeps, and what they leave, which is what they choose as patterns. -/
structure Divides (p : Packages) (c : Catalog) (tasks : List String) (kept left : Catalog) :
    Prop where
  selects_kept : (p.selection none []).bind c.select = .ok kept
  selects_left : ∀ package, (p.selection package tasks).bind c.select = .ok left
  kept_eq : kept = c.named (fun name => !fitsAny tasks name)
  left_eq : left = c.named (fitsAny tasks)
  apart : ∀ name ∈ c.names, Xor (name ∈ kept.names) (name ∈ left.names)

/-- Packages choose of a catalog as a file says. -/
structure Chooses (p : Packages) (c : Catalog) (said : List (String × List String)) : Prop where
  patterns : ∀ package patterns, patterns ≠ [] → AllValid patterns →
    ∃ s, p.selection package patterns = .ok s ∧ c.select s = .ok (c.named (fitsAny patterns))
  unknown : ∀ name, name = exclusionName ∨ (∀ x ∈ said, x.1 ≠ name) →
    ∃ known, p.selection (some name) [] =
      .error (.notFound ("check package '" ++ name ++ "' (known: " ++ known ++ ")"))
  empty : ∀ name, IsLastOf said name [] → name ≠ exclusionName →
    p.selection (some name) [] =
      .error (.validation ("check package '" ++ name ++ "' lists no tasks"))
  package : ∀ name tasks, IsLastOf said name tasks → name ≠ exclusionName → tasks ≠ [] →
    ∃ s, p.selection (some name) [] = .ok s ∧
      (AllValid tasks → c.select s = .ok (c.named (fitsAny tasks)))
  exclusions : ∀ tasks, IsLastOf said exclusionName tasks → tasks ≠ [] → AllValid tasks →
    ∃ kept left, p.Divides c tasks kept left

theorem selection_of_patterns (p : Packages) (package : Option String) (h : patterns ≠ []) :
    p.selection package patterns = .ok { included := patterns } := by
  rw [selection.eq_def, if_pos (by simpa using h)]

theorem selection_of_name (p : Packages) (name : String) :
    p.selection (some name) [] =
      (p.get name).bind fun package =>
        if package.tasks.isEmpty then
          .error (.validation ("check package '" ++ name ++ "' lists no tasks"))
        else .ok { included := package.tasks } := by
  rw [selection.eq_def]
  simp only [List.isEmpty_nil, Bool.not_true, Bool.false_eq_true, if_false]
  cases p.get name <;> rfl

theorem FormsOf.selection_of_isLastOf (h : FormsOf said forms) (hname : IsLastOf said name tasks)
    (hother : name ≠ exclusionName) :
    (ofForms forms).selection (some name) [] =
      if tasks.isEmpty then
        .error (.validation ("check package '" ++ name ++ "' lists no tasks"))
      else .ok { included := tasks } := by
  obtain ⟨form, hform, rfl⟩ := (h.last name tasks).2 hname
  obtain ⟨package, hget, htasks⟩ := get_ofForms_of_mem h.nodup hform hother
  rw [selection_of_name, hget, ← htasks]
  rfl

theorem FormsOf.divides (h : FormsOf said forms) (hname : IsLastOf said exclusionName tasks)
    (hne : tasks ≠ []) (hvalid : AllValid tasks) (c : Catalog) :
    (ofForms forms).Divides c tasks (c.named fun name => !fitsAny tasks name)
      (c.named (fitsAny tasks)) := by
  obtain ⟨form, hform, rfl⟩ := (h.last exclusionName tasks).2 hname
  refine ⟨?_, fun package => ?_, rfl, rfl, fun name hname => ?_⟩
  · rw [selection.eq_def, exclusions_ofForms h.nodup hform]
    exact c.select_excluded hvalid
  · rw [selection_of_patterns _ package hne]
    exact c.select_included hne hvalid
  · rw [Catalog.mem_names_named, Catalog.mem_names_named]
    cases fitsAny form.tasks name <;> simp [hname]

theorem FormsOf.chooses (h : FormsOf said forms) (c : Catalog) :
    (ofForms forms).Chooses c said where
  patterns package _ hne hvalid :=
    ⟨_, selection_of_patterns _ package hne, c.select_included hne hvalid⟩
  unknown := by
    intro name hname
    have hnot : ∀ form, (name, form) ∈ forms → name = exclusionName := fun form hform => by
      obtain ⟨before, after, rfl, -⟩ := (h.last name form.tasks).1 ⟨form, hform, rfl⟩
      exact hname.resolve_right fun hnone => hnone (name, form.tasks) (by simp) rfl
    obtain ⟨known, hget⟩ := get_ofForms_of_not_mem hnot
    refine ⟨known, ?_⟩
    rw [selection_of_name, hget]
    rfl
  empty name hname hother := h.selection_of_isLastOf hname hother
  package := by
    intro name tasks hname hother hne
    rw [h.selection_of_isLastOf hname hother, if_neg (by simpa using hne)]
    exact ⟨_, rfl, c.select_included hne⟩
  exclusions _ hname hne hvalid := ⟨_, _, h.divides hname hne hvalid c⟩

/-- **What is chosen for a package and patterns.**  Patterns choose the names that they fit,
whatever the packages say.  Without them a package chooses the names that its own patterns fit, and
is refused where the file does not have it, where it is that of the exclusions and where it lists
nothing.  With neither, all names are chosen but those that the exclusions would choose as
patterns. -/
theorem selection_chooses (h : ofFile file = .ok p) (c : Catalog) :
    ∃ said, Says file said ∧ p.Chooses c said := by
  obtain ⟨said, forms, hsaid, rfl, hforms⟩ := ofFile_eq_ok h
  exact ⟨said, hsaid, hforms.chooses c⟩

namespace Sample

/-- A package and the exclusions. -/
def text : String := "a:\n  tasks: [o.*]\nfilter:\n  tasks: [s.*]\n"

/-- What the text defines. -/
def packages : Packages := { packages := [⟨"a", "", ["o.*"]⟩], exclusions := ["s.*"] }

/-- Two tasks that could not be read. -/
def catalog : Catalog := { broken := [⟨"o.a", "m"⟩, ⟨"s.a", "m"⟩] }

end Sample

/-- Patterns choose what they fit, also in place of a package. -/
theorem selection_chooses_sample :
    ofFile (some (.file (Text.encode Sample.text))) = .ok Sample.packages ∧
      ∃ s, Sample.packages.selection (some "a") ["s.*"] = .ok s ∧
        Sample.catalog.select s = .ok { broken := [⟨"s.a", "m"⟩] } := by
  have hoctets : Text.isUtf8 (Text.encode Sample.text) = true := by decide_cbv
  have hread : Text.readLossy (Text.encode Sample.text) = Sample.text :=
    String.toList_inj.1 (by decide_cbv)
  have hblank : ¬Text.isBlankText Sample.text = true := by decide
  have hdecode : (Yaml.decode Sample.text readForms).map ofForms = .ok Sample.packages := by
    decide_cbv
  have hfile : ofFile (some (.file (Text.encode Sample.text))) = .ok Sample.packages := by
    obtain ⟨forms, hforms, hpackages⟩ := map_eq_ok hdecode
    rw [ofFile, if_pos hoctets, hread, ofText, if_neg hblank, hforms, ← hpackages]
  have hvalid : AllValid ["s.*"] := by
    have hpattern : fault? "s.*" = none := rfl
    simpa [AllValid] using hpattern
  obtain ⟨said, -, hchooses⟩ := selection_chooses hfile Sample.catalog
  obtain ⟨s, hs, hselect⟩ := hchooses.patterns (some "a") ["s.*"] (by decide) hvalid
  have hnamed : Sample.catalog.named (fitsAny ["s.*"]) = { broken := [⟨"s.a", "m"⟩] } := rfl
  exact ⟨hfile, s, hs, hnamed ▸ hselect⟩

end Inspection.Packages
