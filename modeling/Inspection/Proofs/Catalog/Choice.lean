import Inspection.Catalog.Selection

/-!
# Catalog — What a selection chooses

A selection with a pattern at fault is refused.  Any other chooses a name by what its patterns say
about that name, and of a catalog the tasks and the broken tasks of such names, in their order.

* `Selection.fault?`, `Selection.fitsPattern`: what a pattern says.
* `Selection.chooses`: what a selection makes of it.
* `Catalog.select_ok_or_error`: the chosen part of a catalog, or the pattern at fault.
* `Catalog.names`, `Catalog.named`: the names of all entries, and the entries of some names.
* `Catalog.select_included`, `Catalog.select_excluded`: a selection with patterns of one sort.
-/

namespace Inspection

namespace Selection

/-- What is wrong with a pattern, without the blanks around it. -/
def fault? (pattern : String) : Option GlobError :=
  match Glob.parse (Text.trim pattern.toList) with
  | .ok _ => none
  | .error e => some e

/-- The name fits the pattern, without the blanks around it. -/
def fitsPattern (pattern name : String) : Bool :=
  match Glob.parse (Text.trim pattern.toList) with
  | .ok g => g.matchesChars name.toList
  | .error _ => false

/-- The refusal of a pattern at fault. -/
def refusal (pattern : String) (e : GlobError) : RunError :=
  .validation ("invalid task pattern '" ++ pattern ++ "': " ++ e.message)

def patterns (s : Selection) : List String := s.included ++ s.excluded

/-- The name fits a pattern that includes, if there are any, and none that excludes. -/
def chooses (s : Selection) (name : String) : Bool :=
  (s.included.isEmpty || s.included.any (fitsPattern · name)) &&
    !s.excluded.any (fitsPattern · name)

theorem compile_ok_or_error (pattern : String) :
    (fault? pattern = none ∧
      ∃ g, compile pattern = .ok g ∧ ∀ name, g.fits name = fitsPattern pattern name) ∨
    ∃ e, fault? pattern = some e ∧ compile pattern = .error (refusal pattern e) := by
  simp only [fault?, fitsPattern, compile]
  cases Glob.parse (Text.trim pattern.toList) with
  | ok g => exact .inl ⟨rfl, g, rfl, Glob.fits_eq g⟩
  | error e => exact .inr ⟨e, rfl, rfl⟩

/-- All patterns can be read and say what each of them does, or one is refused. -/
theorem mapM_compile_ok_or_error (l : List String) :
    ((∀ p ∈ l, fault? p = none) ∧ ∃ globs, l.mapM compile = .ok globs ∧
      globs.isEmpty = l.isEmpty ∧ ∀ name, globs.any (·.fits name) = l.any (fitsPattern · name)) ∨
    ∃ p ∈ l, ∃ e, fault? p = some e ∧ l.mapM compile = .error (refusal p e) := by
  induction l with
  | nil => exact .inl ⟨by simp, [], rfl, rfl, fun _ => rfl⟩
  | cons p rest ih =>
    rw [List.mapM_cons]
    rcases compile_ok_or_error p with ⟨hp, g, hg, hfits⟩ | ⟨e, he, hp⟩
    · rw [hg]
      rcases ih with ⟨hrest, globs, hglobs, -, hany⟩ | ⟨q, hq, e, he, hrest⟩
      · rw [hglobs]
        refine .inl ⟨List.forall_mem_cons.2 ⟨hp, hrest⟩, g :: globs, rfl, rfl, fun name => ?_⟩
        rw [List.any_cons, List.any_cons, hfits, hany]
      · rw [hrest]
        exact .inr ⟨q, List.mem_cons_of_mem p hq, e, he, rfl⟩
    · rw [hp]
      exact .inr ⟨p, List.mem_cons_self, e, he, rfl⟩

theorem chooser_ok_or_error (s : Selection) :
    ((∀ p ∈ s.patterns, fault? p = none) ∧ s.chooser = .ok s.chooses) ∨
    ∃ p ∈ s.patterns, ∃ e, fault? p = some e ∧ s.chooser = .error (refusal p e) := by
  rw [chooser]
  rcases mapM_compile_ok_or_error s.included with ⟨hin, globs, hglobs, hempty, hany⟩ | h
  · rcases mapM_compile_ok_or_error s.excluded with ⟨hex, globs', hglobs', -, hany'⟩ | h
    · left
      refine ⟨List.forall_mem_append.2 ⟨hin, hex⟩, ?_⟩
      rw [hglobs, hglobs']
      refine congrArg Except.ok (funext fun name => ?_)
      rw [hempty, hany, hany', chooses]
    · obtain ⟨p, hp, e, he, hbad⟩ := h
      rw [hglobs, hbad]
      exact .inr ⟨p, List.mem_append_right _ hp, e, he, rfl⟩
  · obtain ⟨p, hp, e, he, hbad⟩ := h
    rw [hbad]
    exact .inr ⟨p, List.mem_append_left _ hp, e, he, rfl⟩

end Selection

/-- What a selection chooses of a catalog. -/
def Catalog.chosenBy (c : Catalog) (s : Selection) : Catalog where
  tasks := c.tasks.filter fun t => s.chooses t.name
  broken := c.broken.filter fun b => s.chooses b.task

theorem Catalog.select_ok_or_error (c : Catalog) (s : Selection) :
    ((∀ p ∈ s.patterns, Selection.fault? p = none) ∧ c.select s = .ok (c.chosenBy s)) ∨
    ∃ p ∈ s.patterns, ∃ e, Selection.fault? p = some e ∧
      c.select s = .error (Selection.refusal p e) := by
  rw [Catalog.select]
  rcases s.chooser_ok_or_error with ⟨hp, hs⟩ | ⟨p, hp, e, he, hs⟩
  · rw [hs]
    exact .inl ⟨hp, rfl⟩
  · rw [hs]
    exact .inr ⟨p, hp, e, he, rfl⟩

/-! ### Patterns of one sort -/

/-- All patterns can be read. -/
def Selection.AllValid (patterns : List String) : Prop := ∀ p ∈ patterns, fault? p = none

/-- The name fits one of the patterns. -/
def Selection.fitsAny (patterns : List String) (name : String) : Bool :=
  patterns.any (fitsPattern · name)

/-- The names of all entries: those of the tasks, and those of the errors. -/
def Catalog.names (c : Catalog) : List String := c.tasks.map (·.name) ++ c.broken.map (·.task)

/-- The entries whose names are among those that are asked for. -/
def Catalog.named (c : Catalog) (q : String → Bool) : Catalog where
  tasks := c.tasks.filter fun t => q t.name
  broken := c.broken.filter fun b => q b.task

theorem Catalog.mem_names_named {c : Catalog} {q : String → Bool} {name : String} :
    name ∈ (c.named q).names ↔ name ∈ c.names ∧ q name = true := by
  simp only [names, named, List.mem_append, List.mem_map, List.mem_filter]
  constructor
  · rintro (⟨t, ⟨ht, hq⟩, rfl⟩ | ⟨b, ⟨hb, hq⟩, rfl⟩)
    · exact ⟨.inl ⟨t, ht, rfl⟩, hq⟩
    · exact ⟨.inr ⟨b, hb, rfl⟩, hq⟩
  · rintro ⟨⟨t, ht, rfl⟩ | ⟨b, hb, rfl⟩, hq⟩
    · exact .inl ⟨t, ⟨ht, hq⟩, rfl⟩
    · exact .inr ⟨b, ⟨hb, hq⟩, rfl⟩

theorem Catalog.select_eq_chosenBy (c : Catalog) {s : Selection}
    (h : Selection.AllValid s.patterns) : c.select s = .ok (c.chosenBy s) := by
  obtain ⟨-, hselect⟩ | ⟨p, hp, e, he, -⟩ := c.select_ok_or_error s
  · exact hselect
  · rw [h p hp] at he
    cases he

theorem Catalog.select_included (c : Catalog) {patterns : List String} (hne : patterns ≠ [])
    (h : Selection.AllValid patterns) :
    c.select { included := patterns } = .ok (c.named (Selection.fitsAny patterns)) := by
  have hchooses : Selection.chooses { included := patterns } = Selection.fitsAny patterns := by
    funext name
    simp [Selection.chooses, Selection.fitsAny, hne]
  rw [c.select_eq_chosenBy (by simpa [Selection.patterns] using h), chosenBy, hchooses]
  rfl

theorem Catalog.select_excluded (c : Catalog) {patterns : List String}
    (h : Selection.AllValid patterns) :
    c.select { excluded := patterns } =
      .ok (c.named fun name => !Selection.fitsAny patterns name) := by
  have hchooses : Selection.chooses { excluded := patterns } =
      fun name => !Selection.fitsAny patterns name := by
    funext name
    simp [Selection.chooses, Selection.fitsAny]
  rw [c.select_eq_chosenBy (by simpa [Selection.patterns] using h), chosenBy, hchooses]
  rfl

end Inspection
