import Inspection.Proofs.Except
import Inspection.Yaml.Decode

/-!
# Yaml — What a reading gives

A reading that succeeds gives a value in its document, whatever aliases it followed on the way.  One
that is made of others gives what they give.  A text is read as itself unless it spells a value of
another form, which it does not between quotes.

* `Decode.Gives`: what a reading gives in a document.
* `Decode.gives_bind`, `Decode.gives_mapM`, `Decode.gives_optional?`: readings made of others.
* `Decode.value_of_isText`, `Decode.value_sequence`: texts and lists of them, read as values.
* `decode_gives`: a text whose document is read.
-/

namespace Inspection.Yaml

/-- A scalar that is read as a text: it has no tag, and is quoted or spells nothing but a text. -/
inductive Node.IsText (s : String) : Node → Prop where
  | quoted {p : Properties} {style : ScalarStyle} (htag : p.tag = none) (hstyle : style ≠ .plain) :
      IsText s (.scalar p s style)
  | plain {p : Properties} (htag : p.tag = none) (hatom : Atom.ofPlain s = .text) :
      IsText s (.scalar p s .plain)

namespace Decode

/-- The reading gives a value in a document, with some number of aliases left to follow. -/
def Gives {α : Type} (d : Document) (x : Decode α) (a : α) : Prop :=
  ∃ left left', (x.run d).run left = .ok (a, left')

variable {α β : Type} {d : Document}

theorem gives_bind {x : Decode α} {f : α → Decode β} {b : β} (h : Gives d (x >>= f) b) :
    ∃ a, Gives d x a ∧ Gives d (f a) b := by
  obtain ⟨left, left', h⟩ := h
  obtain ⟨⟨a, between⟩, hx, hf⟩ := bind_eq_ok h
  exact ⟨a, ⟨left, between, hx⟩, between, left', hf⟩

theorem gives_pure {a b : α} (h : Gives d (pure a) b) : b = a := by
  obtain ⟨left, left', h⟩ := h
  exact (congrArg Prod.fst (Except.ok.inj h)).symm

theorem not_gives_throw {e : Fault} {a : α} : ¬Gives d (throw e) a := by
  rintro ⟨left, left', h⟩
  cases h

/-- What a list of readings gives, one after another. -/
theorem gives_mapM {f : α → Decode β} {l : List α} {m : List β} (h : Gives d (l.mapM f) m) :
    List.Forall₂ (fun a b => Gives d (f a) b) l m := by
  induction l generalizing m with
  | nil =>
    obtain rfl := gives_pure h
    exact .nil
  | cons a l ih =>
    rw [List.mapM_cons] at h
    obtain ⟨b, hb, h⟩ := gives_bind h
    obtain ⟨rest, hrest, h⟩ := gives_bind h
    obtain rfl := gives_pure h
    exact .cons hb (ih hrest)

/-- Nothing where the node spells an empty value, else what is read of it. -/
theorem gives_optional? {f : Node → Decode α} {n : Node} {a : Option α}
    (h : Gives d (optional? f n) a) :
    ∃ target, Gives d (resolve n) target ∧
      ((Gives d (isNull target) true ∧ a = none) ∨
        Gives d (isNull target) false ∧ ∃ b, Gives d (f target) b ∧ a = some b) := by
  obtain ⟨target, htarget, h⟩ := gives_bind h
  obtain ⟨isEmpty, hempty, h⟩ := gives_bind h
  refine ⟨target, htarget, ?_⟩
  cases isEmpty with
  | true => exact .inl ⟨hempty, gives_pure h⟩
  | false =>
    obtain ⟨b, hb, h⟩ := gives_bind h
    exact .inr ⟨hempty, b, hb, gives_pure h⟩

theorem ownTag?_eq_none {p : Properties} (h : p.tag = none) : ownTag? p = none := by
  rw [ownTag?, h]
  rfl

theorem value_of_isText {s : String} {n : Node} (h : n.IsText s) (depth : Nat) :
    value depth n = pure (.text s) := by
  cases h with
  | quoted htag hstyle =>
    rw [value]
    simp only [resolve, pure_bind, ownTag?_eq_none htag, scalarValue, htag, if_neg hstyle,
      Option.isSome_none, Node.properties, ite_self]
  | plain htag hatom =>
    rw [value]
    simp only [resolve, pure_bind, ownTag?_eq_none htag, scalarValue, htag, plainValue, hatom,
      Option.isSome_none, Node.properties, ite_self]

theorem value_sequence {texts : List String} {items : List Node} {p : Properties}
    (htag : p.tag = none) (h : List.Forall₂ Node.IsText texts items) (depth : Nat) :
    value (depth + 1) (.sequence p items) = pure (.sequence (texts.map .text)) := by
  have hitems : items.mapM (value depth) = pure (texts.map .text) := by
    induction h with
    | nil => rfl
    | cons h _ ih =>
      rw [List.mapM_cons, value_of_isText h, ih, pure_bind, pure_bind, List.map_cons]
  rw [value]
  simp only [resolve, pure_bind, ownTag?_eq_none htag, hitems, map_pure, Node.properties]

/-- Entries whose keys differ are read as they stand. -/
theorem gives_distinct {es fs : List (String × Node)} (h : Gives d (fields.distinct es) fs) :
    fs = es := by
  induction es generalizing fs with
  | nil => exact gives_pure h
  | cons e es ih =>
    rw [fields.distinct] at h
    split at h
    · exact (not_gives_throw h).elim
    · obtain ⟨rest, hrest, h⟩ := gives_bind h
      rw [gives_pure h, ih hrest]

end Decode

theorem decode_gives {α : Type} {text : String} {f : Node → Decode α} {a : α}
    (h : decode text f = .ok a) :
    ∃ d, Document.read text = .ok d ∧ Decode.Gives d (f (d.root.getD .empty)) a := by
  obtain ⟨d, hd, h⟩ := bind_eq_ok h
  obtain ⟨⟨b, left⟩, hf, h⟩ := bind_eq_ok h
  obtain rfl := Except.ok.inj h
  exact ⟨d, hd, _, left, hf⟩

end Inspection.Yaml
