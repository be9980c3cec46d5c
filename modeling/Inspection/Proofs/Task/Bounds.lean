import Inspection.Proofs.Run.Respaced
import Inspection.Proofs.Version.Grammar
import Inspection.Proofs.Yaml.Reading
import Mathlib

/-!
# Task — Spellings of two bounds

The two bounds of `between` are given as one text in brackets or as a list of two texts.  The bounds
in brackets are trimmed when they are read, those of the list are not, and the variables in both are
replaced later.  Blanks around operands decide nothing, so neither does the spelling: tasks that
differ in it are accepted or refused alike, and their runs ask and find the same.

* `ResultForm.Respelled` to `TaskForm.Respelled`: what a text says, two bounds spelled either way.
* `ResultForm.rule?_bracketed`, `ResultForm.rule?_listed`: the rule that each spelling makes.
* `TaskForm.resolve_respelled`: tasks the blanks around whose operands may differ.
* `ReadEitherWay`, `bounds_respelled`: a rule, and the runs of a task, with the one spelling and with the other.
-/

namespace Inspection

open BindingError (SameVariable)

/-- Two bounds as one text. -/
def Yaml.Value.bracketed (low high : String) : Yaml.Value :=
  .text ("[" ++ low ++ ", " ++ high ++ "]")

/-- Two bounds as a list of two texts. -/
def Yaml.Value.listed (low high : String) : Yaml.Value := .sequence [.text low, .text high]

/-- A text without the comma that ends a bound between brackets. -/
def IsBound (bound : String) : Prop := ',' ∉ bound.toList

instance (bound : String) : Decidable (IsBound bound) :=
  inferInstanceAs (Decidable (',' ∉ bound.toList))

/-- The same is said about an output, the spelling of two bounds apart. -/
inductive ResultForm.Respelled : ResultForm → ResultForm → Prop where
  | refl (f : ResultForm) : Respelled f f
  | listed {f : ResultForm} {low high : String} (hcomparison : f.comparison = some .between)
      (hlow : IsBound low) (hhigh : IsBound high) :
      Respelled { f with operand := some (.bracketed low high) }
        { f with operand := some (.listed low high) }
  | bracketed {f : ResultForm} {low high : String} (hcomparison : f.comparison = some .between)
      (hlow : IsBound low) (hhigh : IsBound high) :
      Respelled { f with operand := some (.listed low high) }
        { f with operand := some (.bracketed low high) }

/-- The same is said about a step, the spelling of two bounds apart. -/
inductive StepForm.Respelled (f : StepForm) : StepForm → Prop where
  | mk {result : ResultForm} (h : f.result.Respelled result) : Respelled f { f with result }

/-- The same is said about a variant, the spelling of bounds apart. -/
inductive VariantForm.Respelled (f : VariantForm) : VariantForm → Prop where
  | mk {steps : List StepForm} (h : List.Forall₂ StepForm.Respelled f.steps steps) :
      Respelled f { f with steps }

/-- The same is said about a task, the spelling of bounds apart. -/
inductive TaskForm.Respelled (f : TaskForm) : TaskForm → Prop where
  | mk {variants : List VariantForm} (h : List.Forall₂ VariantForm.Respelled f.variants variants) :
      Respelled f { f with variants }

/-- The variants are the same, the blanks around operands apart. -/
inductive Variant.Respaced (variant : Variant) : Variant → Prop where
  | mk {steps : List Step} (h : List.Forall₂ Step.Respaced variant.steps steps) :
      Respaced variant { variant with steps }

/-- The tasks are the same, the blanks around operands apart. -/
inductive Task.Respaced (t : Task) : Task → Prop where
  | mk {variants : List Variant} (h : List.Forall₂ Variant.Respaced t.variants variants) :
      Respaced t { t with variants }

/-- The variants are for the same versions, and their steps, run for this version on any node with
any backends, ask the same, end alike and give the same status. -/
structure Variant.SameRuns (v : Version) (w w' : Variant) : Prop where
  range : w.range = w'.range
  requests : ∀ (s : Session) (node : Node),
    (s.runNode node w.steps v).requests = (s.runNode node w'.steps v).requests
  ending : ∀ (s : Session) (node : Node),
    (s.runNode node w.steps v).ending.Alike (s.runNode node w'.steps v).ending
  status : ∀ (s : Session) (node : Node),
    ((s.runNode node w.steps v).ending.report node.id).status =
      ((s.runNode node w'.steps v).ending.report node.id).status

variable {low high : String} {f f' : ResultForm}

/-! ### The rule of two bounds -/

theorem bracketedPair?_eq (hlow : IsBound low) (hhigh : IsBound high) :
    bracketedPair? ("[" ++ low ++ ", " ++ high ++ "]") =
      some (Text.trimmed low, Text.trimmed high) := by
  have hchars : ("[" ++ low ++ ", " ++ high ++ "]").toList =
      '[' :: (low.toList ++ ',' :: ' ' :: high.toList) ++ [']'] := by simp
  have htrim : Text.trim ("[" ++ low ++ ", " ++ high ++ "]").toList =
      '[' :: (low.toList ++ ',' :: ' ' :: high.toList) ++ [']'] := by
    rw [hchars]
    refine Text.trim_eq_self rfl ?_
    rw [List.reverse_append]
    rfl
  have hsplit : Text.splitFirst? (· == ',') (low.toList ++ ',' :: ' ' :: high.toList) =
      some (low.toList, ' ' :: high.toList) :=
    Text.splitFirst?_eq_some_iff.2 ⟨',', rfl, rfl, Text.beq_false_of_not_mem hlow⟩
  have hcomma : (' ' :: high.toList).contains ',' = false := by simpa [IsBound] using hhigh
  -- the blank behind the comma is trimmed with those of the bound
  have hblank : Text.trim (' ' :: high.toList) = Text.trim high.toList := rfl
  simp only [bracketedPair?, htrim, VersionRange.inner?_eq_some_iff.2 rfl, hsplit, hcomma, hblank,
    Option.bind_eq_bind, Option.bind_some, Bool.false_eq_true, if_false, Text.trimmed]

/-- A second comma makes no third bound. -/
example : bracketedPair? "[1, 2, 3]" = none := by decide

theorem ResultForm.rule?_bracketed (hcomparison : f.comparison = some .between) (hlow : IsBound low)
    (hhigh : IsBound high) :
    rule? { f with operand := some (.bracketed low high) } =
      .ok (some ⟨.between, .range (Text.trimmed low) (Text.trimmed high)⟩) := by
  simp only [rule?, hcomparison, Operand.ofValue, Yaml.Value.bracketed,
    bracketedPair?_eq hlow hhigh, Option.getD_some]
  rfl

theorem ResultForm.rule?_listed (hcomparison : f.comparison = some .between) (low high : String) :
    rule? { f with operand := some (.listed low high) } =
      .ok (some ⟨.between, .range low high⟩) := by
  simp only [rule?, hcomparison]
  rfl

theorem ResultForm.rule?_respelled (h : f.Respelled f') :
    Agree Eq Rule.Respaced f.rule? f'.rule? := by
  cases h with
  | refl => exact .refl Eq.refl Rule.Respaced.refl _
  | @listed _ low high hcomparison hlow hhigh =>
    rw [rule?_bracketed hcomparison hlow hhigh, rule?_listed hcomparison]
    exact .ok (.operand (by decide) (Operand.range low high).respaced_trimmed)
  | @bracketed _ low high hcomparison hlow hhigh =>
    rw [rule?_listed hcomparison, rule?_bracketed hcomparison hlow hhigh]
    exact .ok (.operand (by decide) (Operand.range low high).respaced_trimmed.symm)

/-! ### Steps, variants and tasks -/

theorem ResultForm.Respelled.exists_operand (h : f.Respelled f') :
    ∃ operand, f' = { f with operand } := by
  cases h <;> exact ⟨_, rfl⟩

/-- A step is refused for the same reason, or differs in the blanks around its operand. -/
theorem StepForm.resolve_respelled {f f' : StepForm} (h : f.Respelled f') (index : Nat) :
    Agree Eq Step.Respaced (f.resolve index) (f'.resolve index) := by
  obtain @⟨result, h⟩ := h
  have hrule := ResultForm.rule?_respelled h
  obtain ⟨operand, rfl⟩ := h.exists_operand
  simp only [resolve]
  cases StepKind.ofTag f.tag with
  | error e => exact .error rfl
  | ok kind =>
    -- what is said about the output has no say in the command
    have hcommand : command? { f with result := { f.result with operand } } kind =
      f.command? kind := by cases kind <;> rfl
    simp only [hcommand]
    cases (f.command? kind).filter fun c => !Text.isBlankText c with
    | none => exact .error rfl
    | some command =>
      generalize f.result.rule? = x, ResultForm.rule? { f.result with operand } = x' at hrule ⊢
      cases hrule with
      | error hfault => exact .error (congrArg _ hfault)
      | ok hrule => exact .ok (.mk hrule)

theorem resolveSteps_respelled {forms forms' : List StepForm}
    (h : List.Forall₂ StepForm.Respelled forms forms') (index : Nat) :
    Agree Eq (List.Forall₂ Step.Respaced) (resolveSteps index forms)
      (resolveSteps index forms') := by
  induction h generalizing index with
  | nil => exact .ok .nil
  | cons h _ ih =>
    exact (StepForm.resolve_respelled h index).bind fun _ _ hstep =>
      (ih (index + 1)).bind fun _ _ hsteps => .ok (.cons hstep hsteps)

theorem VariantForm.resolve_respelled {f f' : VariantForm} (h : f.Respelled f') :
    Agree Eq Variant.Respaced f.resolve f'.resolve := by
  obtain ⟨h⟩ := h
  refine (Agree.refl Eq.refl Eq.refl _).bind ?_
  rintro range _ rfl
  exact (resolveSteps_respelled h 1).bind fun _ _ hsteps => .ok (.mk hsteps)

/-- **A task whose bounds are spelled otherwise** is refused for the same reason, or differs in the
blanks around operands. -/
theorem TaskForm.resolve_respelled {f f' : TaskForm} (h : f.Respelled f') (name : String) :
    Agree Eq Task.Respaced (f.resolve name) (f'.resolve name) := by
  obtain @⟨variants, h⟩ := h
  have hvariants : Agree Eq (List.Forall₂ Variant.Respaced) (f.variants.mapM VariantForm.resolve)
      (variants.mapM VariantForm.resolve) :=
    .mapM (h.imp fun _ _ => VariantForm.resolve_respelled)
  have hempty : f.variants.isEmpty = variants.isEmpty := by
    rw [Bool.eq_iff_iff, List.isEmpty_iff_length_eq_zero, List.isEmpty_iff_length_eq_zero,
      h.length_eq]
  simp only [resolve, ← hempty]
  split
  · exact .error rfl
  · exact hvariants.bind fun _ _ hvariants => .ok (.mk hvariants)

theorem Variant.Respaced.sameRuns {w w' : Variant} (h : w.Respaced w') (v : Version) :
    Variant.SameRuns v w w' := by
  obtain ⟨h⟩ := h
  have hruns (s : Session) (node : Node) := runSteps_respaced h s node (Bindings.ofNode node v)
  exact
    { range := rfl
      requests := fun s node => (hruns s node).asked
      ending := fun s node => (hruns s node).ending
      status := fun s node => (hruns s node).ending.status_eq node.id }

/-- The variants for a version stand at the same place. -/
theorem Task.select?_respaced {t t' : Task} (h : t.Respaced t') (v : Version) :
    Option.Rel (Variant.SameRuns v) (t.select? v) (t'.select? v) := by
  obtain @⟨variants, h⟩ := h
  simp only [select?]
  generalize t.variants = l at h
  induction h with
  | nil => exact .none
  | @cons w w' _ _ hw _ ih =>
    have hruns := hw.sameRuns v
    rw [List.find?_cons, List.find?_cons, ← hruns.range]
    cases w.range.contains v with
    | true => exact .some hruns
    | false => exact ih

/-! ### The two spellings -/

/-- What two bounds are read from, and what they come to, in either spelling. -/
structure ReadEitherWay (low high : String) : Prop where
  bracketed : ∀ (n : Yaml.Node) (depth : Nat), n.IsText ("[" ++ low ++ ", " ++ high ++ "]") →
    Yaml.Decode.value depth n = pure (.bracketed low high)
  listed : ∀ (p : Yaml.Properties) (first second : Yaml.Node) (depth : Nat), p.tag = none →
    first.IsText low → second.IsText high →
    Yaml.Decode.value (depth + 1) (.sequence p [first, second]) = pure (.listed low high)
  bracketedRule : ∀ f : ResultForm, f.comparison = some .between →
    { f with operand := some (.bracketed low high) }.rule? =
      .ok (some ⟨.between, .range (Text.trimmed low) (Text.trimmed high)⟩)
  listedRule : ∀ f : ResultForm, f.comparison = some .between →
    { f with operand := some (.listed low high) }.rule? = .ok (some ⟨.between, .range low high⟩)
  sameVerdict : ∀ (vars : Bindings) (output : String),
    Agree SameVariable (Rule.SameVerdict output)
      (vars.substituteRule (some ⟨.between, .range (Text.trimmed low) (Text.trimmed high)⟩))
      (vars.substituteRule (some ⟨.between, .range low high⟩))

theorem readEitherWay {low high : String} (hlow : IsBound low) (hhigh : IsBound high) :
    ReadEitherWay low high where
  bracketed n depth hn := Yaml.Decode.value_of_isText hn depth
  listed _ _ _ depth htag hfirst hsecond :=
    Yaml.Decode.value_sequence htag (.cons hfirst (.cons hsecond .nil)) depth
  bracketedRule _ hcomparison := ResultForm.rule?_bracketed hcomparison hlow hhigh
  listedRule _ hcomparison := ResultForm.rule?_listed hcomparison low high
  sameVerdict := by
    intro vars output
    have hspaced := (Operand.range low high).respaced_trimmed
    exact (vars.substituteOperand_respaced hspaced).map fun _ _ h =>
      Operand.Respaced.sameVerdict (c := .between) h (by decide) output

/-- **The spelling of two bounds decides nothing.**  Two bounds without a comma in them are read
from one text in brackets and from a list of two texts.  For `between` both make a rule, and
whatever the variables and the output are, the two rules have the same verdict, or the same variable
has no value.  So tasks that differ in the spelling of bounds are both accepted or refused for the
same reason; the variants for a version are for the same range; and their steps, run on any node
with any backends, ask the same, end alike and give the same status. -/
theorem bounds_respelled :
    (∀ low high, IsBound low → IsBound high → ReadEitherWay low high) ∧
    ∀ (name text text' : String) (form form' : TaskForm),
      Yaml.decode text TaskForm.read = .ok form → Yaml.decode text' TaskForm.read = .ok form' →
      form.Respelled form' →
      Agree Eq
        (fun t t' => ∀ v, Option.Rel (Variant.SameRuns v) (t.select? v) (t'.select? v))
        (Task.ofText name text) (Task.ofText name text') := by
  refine ⟨fun low high => readEitherWay, fun name text text' form form' htext htext' h => ?_⟩
  simp only [Task.ofText, htext, htext']
  exact (TaskForm.resolve_respelled h name).imp (fun _ _ => id) fun _ _ => Task.select?_respaced

namespace Sample

/-- What is said about a task with one pair of bounds. -/
def bounded (bounds : Yaml.Value) : TaskForm where
  variants := [{
    steps := [{
      tag := "ssh", ssh := some "c"
      result := { comparison := some .between, operand := some bounds } }] }]

/-- The bounds as one text. -/
def bracketedText : String :=
  "task:\n- steps:\n  - type: ssh\n    ssh: c\n    result:\n" ++
  "      verify_type: between\n      verify: '[#\x7blo\x7d, 2 ]'\n"

/-- The bounds as a list. -/
def listedText : String :=
  "task:\n- steps:\n  - type: ssh\n    ssh: c\n    result:\n" ++
  "      verify_type: between\n      verify: ['#\x7blo\x7d', '2 ']\n"

end Sample

/-- A bound with a variable and a bound with a blank behind it. -/
theorem bounds_respelled_sample :
    let low := "#\x7blo\x7d"
    let high := "2 "
    let vars := Bindings.empty.bind "lo" " 1"
    IsBound low ∧ IsBound high ∧
    Yaml.Decode.value 1
        (.sequence {} [.scalar {} low .singleQuoted, .scalar {} high .singleQuoted]) =
      pure (.listed low high) ∧
    ResultForm.rule? { comparison := some .between, operand := some (.bracketed low high) } =
      .ok (some ⟨.between, .range "#\x7blo\x7d" "2"⟩) ∧
    Agree SameVariable (Rule.SameVerdict "1.5")
      (vars.substituteRule (some ⟨.between, .range "#\x7blo\x7d" "2"⟩))
      (vars.substituteRule (some ⟨.between, .range "#\x7blo\x7d" "2 "⟩)) ∧
    Yaml.decode Sample.bracketedText TaskForm.read = .ok (Sample.bounded (.bracketed low high)) ∧
    Yaml.decode Sample.listedText TaskForm.read = .ok (Sample.bounded (.listed low high)) ∧
    Agree Eq (fun t t' => ∀ v, Option.Rel (Variant.SameRuns v) (t.select? v) (t'.select? v))
      (Task.ofText "t" Sample.bracketedText) (Task.ofText "t" Sample.listedText) := by
  intro low high vars
  have hlow : IsBound low := by decide
  have hhigh : IsBound high := by decide
  have hbracketed : Yaml.decode Sample.bracketedText TaskForm.read =
      .ok (Sample.bounded (.bracketed "#\x7blo\x7d" "2 ")) := by cbv
  have hlisted : Yaml.decode Sample.listedText TaskForm.read =
      .ok (Sample.bounded (.listed "#\x7blo\x7d" "2 ")) := by cbv
  have hform : (Sample.bounded (.bracketed low high)).Respelled
      (Sample.bounded (.listed low high)) :=
    .mk (.cons (.mk (.cons (.mk (.listed (f := { comparison := some .between }) rfl hlow hhigh))
      .nil)) .nil)
  have htrimmed : Text.trimmed low = "#\x7blo\x7d" := by decide
  have htrimmed' : Text.trimmed high = "2" := by decide
  obtain ⟨hbounds, htexts⟩ := bounds_respelled
  have hways : ReadEitherWay low high := hbounds low high hlow hhigh
  have hrule := hways.bracketedRule { comparison := some .between } rfl
  have hverdict := hways.sameVerdict vars "1.5"
  rw [htrimmed, htrimmed'] at hrule hverdict
  exact ⟨hlow, hhigh,
    hways.listed {} _ _ 0 rfl (.quoted rfl (by decide)) (.quoted rfl (by decide)), hrule, hverdict,
    hbracketed, hlisted, htexts "t" _ _ _ _ hbracketed hlisted hform⟩

end Inspection
