import Inspection.Proofs.Template.Occurrences

/-!
# Template — What substitution returns

Replacing variables goes by the cut of the text: a character stays as it is, and a placeholder gives
way to the latest value of its name.  The first placeholder without a value makes it an error.  The
values themselves are never looked into.

* `Bindings.get?_eq_some_iff`: the value of a name is that of its latest binding.
* `Bindings.Rendered`: what comes of pieces, the text or the name without a value.
* `Bindings.substitute_cut`: substitution, by the cut of the template.
* `Bindings.gives_get?`: the same for one placeholder, from what comes of the text before it and of
  the text after it.
-/

namespace Inspection

open Template

namespace Bindings

/-- The latest binding of the name gives it the value. -/
def Holds (b : Bindings) (name value : String) : Prop :=
  ∃ later earlier, b.latestFirst = later ++ (name, value) :: earlier ∧ ∀ x ∈ later, x.1 ≠ name

/-- What a piece gives: a character itself, a placeholder the value of its name. -/
inductive Renders (b : Bindings) : Piece → List Char → Prop where
  | literal (c : Char) : Renders b (.literal c) [c]
  | bound {written name : List Char} {value : String} (h : b.Holds (String.ofList name) value) :
      Renders b (.placeholder written name) value.toList

/-- What comes of pieces: all that they give, or the name of the first placeholder that has no
value. -/
inductive Rendered (b : Bindings) (ps : List Piece) : Except String (List Char) → Prop where
  | replaced {texts : List (List Char)} (h : List.Forall₂ b.Renders ps texts) :
      Rendered b ps (.ok texts.flatten)
  | unbound {front back : List Piece} {written name : List Char} {texts : List (List Char)}
      (hps : ps = front ++ .placeholder written name :: back)
      (hfront : List.Forall₂ b.Renders front texts)
      (h : ∀ value, ¬b.Holds (String.ofList name) value) :
      Rendered b ps (.error (String.ofList name))

variable {b b' : Bindings} {template name value : String} {p : Piece} {ps qs : List Piece}

theorem get?_eq_some_iff : b.get? name = some value ↔ b.Holds name value := by
  simp only [get?, List.lookup_eq_some_iff, Holds, bne_iff_ne, ne_comm (a := name)]

theorem get?_eq_none_iff : b.get? name = none ↔ ∀ value, ¬b.Holds name value := by
  simp only [Option.eq_none_iff_forall_ne_some, ne_eq, get?_eq_some_iff]

/-! ### Piece by piece -/

theorem renders_iff {text : List Char} : b.Renders p text ↔ b.render p = .ok text := by
  cases p with
  | literal c =>
    constructor
    · rintro ⟨⟩
      rfl
    · intro h
      obtain rfl := Except.ok.inj h
      exact .literal c
  | placeholder written name =>
    constructor
    · rintro ⟨⟩
      rename_i h
      simp only [render, get?_eq_some_iff.2 h]
    · intro h
      rw [render] at h
      split at h
      · rename_i value hvalue
        obtain rfl := Except.ok.inj h
        exact .bound (get?_eq_some_iff.1 hvalue)
      · cases h

theorem renderAll_append (b : Bindings) (ps qs : List Piece) :
    b.renderAll (ps ++ qs) =
      match b.renderAll ps with
      | .error name => .error name
      | .ok text => (b.renderAll qs).map (text ++ ·) := by
  induction ps with
  | nil =>
    simp only [List.nil_append, renderAll]
    cases b.renderAll qs <;> rfl
  | cons p ps ih =>
    simp only [List.cons_append, renderAll, ih]
    cases b.render p with
    | error name => rfl
    | ok text =>
      cases b.renderAll ps with
      | error name => rfl
      | ok more => cases b.renderAll qs <;> simp [Except.map]

theorem renderAll_of_forall₂ {texts : List (List Char)} (h : List.Forall₂ b.Renders ps texts) :
    b.renderAll ps = .ok texts.flatten := by
  induction h with
  | nil => rfl
  | cons h _ ih =>
    simp only [renderAll, renders_iff.1 h, ih]
    rfl

/-- With one more piece in front that has something to give. -/
theorem Rendered.cons {text : List Char} {x : Except String (List Char)} (hp : b.Renders p text)
    (h : b.Rendered ps x) : b.Rendered (p :: ps) (x.map (text ++ ·)) := by
  cases h with
  | replaced h =>
    have hall := List.Forall₂.cons hp h
    exact .replaced hall
  | unbound hps hfront h => exact .unbound (congrArg (p :: ·) hps) (.cons hp hfront) h

theorem rendered_renderAll (b : Bindings) (ps : List Piece) : b.Rendered ps (b.renderAll ps) := by
  induction ps with
  | nil => exact .replaced .nil
  | cons p ps ih =>
    cases hp : b.render p with
    | ok text =>
      simp only [renderAll, hp]
      exact .cons (renders_iff.2 hp) ih
    | error name =>
      cases p with
      | literal c => cases hp
      | placeholder written name' =>
        simp only [renderAll, hp]
        rw [render] at hp
        split at hp
        · cases hp
        · rename_i hnone
          obtain rfl := Except.error.inj hp
          exact .unbound (List.nil_append _).symm .nil (get?_eq_none_iff.1 hnone)

/-- Rendering comes to what it is said to, and to nothing else. -/
theorem rendered_iff {x : Except String (List Char)} : b.Rendered ps x ↔ b.renderAll ps = x := by
  constructor
  · intro h
    cases h with
    | replaced h => exact renderAll_of_forall₂ h
    | unbound hps hfront h =>
      simp only [hps, renderAll_append, renderAll_of_forall₂ hfront, renderAll, render,
        get?_eq_none_iff.2 h]
      rfl
  · rintro rfl
    exact rendered_renderAll b ps

/-- Only the names that stand in placeholders matter. -/
theorem renderAll_congr (h : ∀ written name, .placeholder written name ∈ ps →
    b.get? (String.ofList name) = b'.get? (String.ofList name)) :
    b.renderAll ps = b'.renderAll ps := by
  induction ps with
  | nil => rfl
  | cons p ps ih =>
    have hrest := ih fun written name hmem => h written name (List.mem_cons_of_mem p hmem)
    have hp : b.render p = b'.render p := by
      cases p with
      | literal c => rfl
      | placeholder written name => simp only [render, h written name (List.mem_cons_self ..)]
    simp only [renderAll, hp, hrest]

/-! ### The whole template -/

theorem substitute_eq_ok_iff {text : List Char} :
    b.substitute template = .ok (String.ofList text) ↔
      b.renderAll (pieces template.toList) = .ok text := by
  rw [substitute]
  cases b.renderAll (pieces template.toList) <;> simp [String.ofList_inj]

theorem substitute_eq_error_iff {e : BindingError} :
    b.substitute template = .error e ↔
      b.renderAll (pieces template.toList) = .error e.name ∧ e.template = template := by
  obtain ⟨name, template'⟩ := e
  rw [substitute]
  cases b.renderAll (pieces template.toList) <;> simp [eq_comm]

/-- What comes of a text in which a placeholder stands, by what comes of the text before it, the
value of its name, and what comes of the text after it; of several names without a value the first
is named. -/
def around (template name : String) (before : Except BindingError String) (value : Option String)
    (after : Except BindingError String) : Except BindingError String :=
  match before, value, after with
  | .error e, _, _ => .error ⟨e.name, template⟩
  | .ok _, none, _ => .error ⟨name, template⟩
  | .ok _, some _, .error e => .error ⟨e.name, template⟩
  | .ok start, some value, .ok rest => .ok (start ++ value ++ rest)

/-- Wherever a placeholder of the name stands in the template, it gives way to the value; without
one it is an error. -/
def Gives (b : Bindings) (template name : String) (value : Option String) : Prop :=
  ∀ before p after, IsPlaceholder name.toList p → template.toList = before ++ p ++ after →
    b.substitute template =
      around template name (b.substitute (.ofList before)) value (b.substitute (.ofList after))

/-- The text before a placeholder and the text after it are replaced on their own. -/
theorem gives_get? (b : Bindings) (template name : String) :
    b.Gives template name (b.get? name) := by
  intro before p after hp htemplate
  simp only [substitute, htemplate, pieces_append before hp after, String.toList_ofList,
    renderAll_append, renderAll, render, String.ofList_toList]
  cases b.renderAll (pieces before) with
  | error first => rfl
  | ok start =>
    cases b.get? name with
    | none => rfl
    | some value =>
      cases b.renderAll (pieces after) with
      | error first => rfl
      | ok rest => simp [around, Except.map, String.ofList_append, String.append_assoc]

/-- **Substitution goes by the placeholders of a template, and by nothing else in it.**  A template
has one cut into single characters and all placeholders that stand in it, no two of which stand over
one another.  If each of their names has a value, the characters come out as they are and each
placeholder as the latest value of its name; if not, the error names the first that has none, and
the template.  Other names make no difference. -/
theorem substitute_cut (b : Bindings) (template : String) :
    (∃! ps, Cut template.toList ps) ∧
    (∀ before p name after before' p' name' after', IsPlaceholder name p → IsPlaceholder name' p' →
      template.toList = before ++ p ++ after → template.toList = before' ++ p' ++ after' →
        before.length < before'.length → before.length + p.length ≤ before'.length) ∧
    ∀ ps, Cut template.toList ps →
      (∀ text, b.Rendered ps (.ok text) ↔ b.substitute template = .ok (String.ofList text)) ∧
      (∀ e, b.substitute template = .error e ↔
        b.Rendered ps (.error e.name) ∧ e.template = template) ∧
      ∀ b' : Bindings, (∀ written name, .placeholder written name ∈ ps →
        ∀ value, b'.Holds (String.ofList name) value ↔ b.Holds (String.ofList name) value) →
          b'.substitute template = b.substitute template := by
  refine ⟨⟨_, cut_pieces _, fun ps h => h.eq_pieces.symm⟩, ?_, fun ps h => ?_⟩
  · intro before p name after before' p' name' after' hp hp' heq heq' hlt
    rcases occurrences_apart hp hp' (heq.symm.trans heq') with
      ⟨rfl, -⟩ | ⟨between, rfl, -⟩ | ⟨between, rfl, -⟩
    · exact absurd hlt (Nat.lt_irrefl _)
    · simp only [List.length_append]
      omega
    · simp only [List.length_append] at hlt
      omega
  · obtain rfl := h.eq_pieces
    refine ⟨fun text => rendered_iff.trans substitute_eq_ok_iff.symm, fun e => ?_, fun b' hb' => ?_⟩
    · rw [substitute_eq_error_iff, rendered_iff]
    · have hget (written name) (hmem : .placeholder written name ∈ pieces template.toList) :
          b'.get? (String.ofList name) = b.get? (String.ofList name) :=
        Option.ext fun value => by
          rw [get?_eq_some_iff, get?_eq_some_iff, hb' written name hmem]
      rw [substitute, substitute, renderAll_congr hget]

/-- An opening without an end is text, and so is what a value brings. -/
example :
    (Bindings.empty.bind "x" "#\x7by\x7d").substitute "#\x7b#\x7b x \x7d#\x7bx y\x7d" =
      .ok "#\x7b#\x7by\x7d#\x7bx y\x7d" := by
  decide_cbv

end Bindings

end Inspection
