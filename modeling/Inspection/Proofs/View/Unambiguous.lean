import Inspection.Proofs.View.Markup
import Inspection.Proofs.View.Shape

/-!
# View — A tree is told from its lines

The lines of a tree are its own: no other tree of the same shape has them, whatever stands behind.
The name of a tag ends where its attributes begin, a value ends at its quote, a text at the tag
after it, and the children of an element at the first line with an end tag.

* `writeAt_append_inj`: the first tree of a text and what stands behind it.
* `write_inj`: documents that are the same have the same tree.
-/

namespace Inspection

namespace Xml

variable {holds : String → Holding} {x y : Xml}

/-! ### Names and attributes -/

theorem isNameChar_of_mem {name : List Char} (h : isName name = true) {c : Char}
    (hc : c ∈ name) : isNameChar c = true := by
  cases name with
  | nil => cases hc
  | cons d s =>
    simp only [isName, Bool.and_eq_true, List.all_eq_true] at h
    obtain rfl | hc := List.mem_cons.1 hc
    · rw [isNameChar, h.1, Bool.true_or]
    · exact h.2 c hc

/-- The name of a tag or an attribute ends at the first character that is of no name. -/
theorem name_append_inj {m n : String} (hm : isName m.toList = true) (hn : isName n.toList = true)
    {r s : List Char} (hr : Text.Stops isNameChar r) (hs : Text.Stops isNameChar s)
    (h : m.toList ++ r = n.toList ++ s) : m = n ∧ r = s := by
  obtain ⟨hname, hrest⟩ := Text.append_inj_of_stops (fun _ => isNameChar_of_mem hm)
    (fun _ => isNameChar_of_mem hn) hr hs h
  exact ⟨String.toList_inj.1 hname, hrest⟩

theorem writeAttributes_cons_append (name value : String) (rest : List (String × String))
    (r : List Char) : writeAttributes ((name, value) :: rest) ++ r
      = ' ' :: (name.toList ++ '=' :: '"' :: (Markup.escapeChars value.toList
        ++ '"' :: (writeAttributes rest ++ r))) := by
  simp [writeAttributes]

/-- Attributes end where no blank comes next. -/
theorem writeAttributes_append_inj {as bs : List (String × String)}
    (ha : ∀ a ∈ as.map Prod.fst, isName a.toList = true)
    (hb : ∀ b ∈ bs.map Prod.fst, isName b.toList = true) {r s : List Char}
    (hr : Text.Stops (· == ' ') r) (hs : Text.Stops (· == ' ') s)
    (h : writeAttributes as ++ r = writeAttributes bs ++ s) : as = bs ∧ r = s := by
  induction as generalizing bs with
  | nil =>
    cases bs with
    | nil => exact ⟨rfl, h⟩
    | cons b bs =>
      rw [writeAttributes_cons_append] at h
      obtain rfl : r = _ := h
      cases hr
  | cons a as ih =>
    cases bs with
    | nil =>
      rw [writeAttributes_cons_append] at h
      obtain rfl : s = _ := h.symm
      cases hs
    | cons b bs =>
      simp only [List.map_cons, List.forall_mem_cons] at ha hb
      rw [writeAttributes_cons_append, writeAttributes_cons_append] at h
      have hstop : isNameChar '=' = false := by decide
      obtain ⟨hname, h⟩ := name_append_inj ha.1 hb.1 (Text.stops_cons.2 hstop)
        (Text.stops_cons.2 hstop) (List.cons.inj h).2
      obtain ⟨hvalue, h⟩ := Markup.escapeChars_append_inj (by decide)
        (List.cons.inj (List.cons.inj h).2).2
      obtain ⟨rfl, rfl⟩ := ih ha.2 hb.2 h
      rw [Prod.ext hname (String.toList_inj.1 hvalue)]
      exact ⟨rfl, rfl⟩

/-! ### The parts of a tree -/

/-- The attributes of a tree. -/
def attributes : Xml → List (String × String)
  | .element _ attributes _ => attributes
  | .content _ attributes _ => attributes
  | .closed _ attributes => attributes

/-- What a tree holds. -/
def holding : Xml → Holding
  | .element .. => .elements
  | .content .. => .text
  | .closed .. => .nothing

/-- The last line of an element at an indentation, and what stands behind it. -/
def closing (indent : Nat) (name : String) (rest : List Char) : List Char :=
  List.replicate indent ' ' ++ '<' :: '/' :: (name.toList ++ '>' :: '\n' :: rest)

theorem closing_inj {indent : Nat} {name : String} {r s : List Char} :
    closing indent name r = closing indent name s ↔ r = s := by
  simp [closing]

/-- What is written of a tree behind its attributes, and what stands behind the tree. -/
def body (depth : Nat) (rest : List Char) : Xml → List Char
  | .element name _ children =>
    '>' :: '\n' :: (writeAll (depth + 1) children ++ closing (2 * depth) name rest)
  | .content name _ text => '>' :: (Markup.escapeChars text.toList ++ closing 0 name rest)
  | .closed _ _ => '/' :: '>' :: '\n' :: rest

theorem writeAt_append (depth : Nat) (x : Xml) (rest : List Char) :
    writeAt depth x ++ rest = List.replicate (2 * depth) ' ' ++ '<' :: (x.name.toList
      ++ (writeAttributes x.attributes ++ x.body depth rest)) := by
  cases x <;> simp [writeAt, writeHead, writeEnd, name, attributes, body, closing]

theorem Fits.named (hx : Fits holds x) :
    Named x.name (x.attributes.map Prod.fst) := by
  cases hx <;> assumption

theorem Fits.holds_name (hx : Fits holds x) :
    holds x.name = x.holding := by
  cases hx <;> assumption

/-- What the children of an element are written as does not begin with an end tag. -/
theorem closing_ne_writeAt {name : String} {y : Xml} (hy : isName y.name.toList = true)
    (indent depth : Nat) (r s : List Char) : closing indent name r ≠ writeAt depth y ++ s := by
  intro h
  rw [writeAt_append, closing] at h
  have hblank : ∀ n : Nat, ∀ c ∈ List.replicate n ' ', (c == ' ') = true := fun n c hc =>
    beq_iff_eq.2 (List.eq_of_mem_replicate hc)
  obtain ⟨-, h⟩ := Text.append_inj_of_stops (p := (· == ' ')) (hblank _) (hblank _)
    (by simp) (by simp) h
  cases hname : y.name.toList with
  | nil =>
    rw [hname] at hy
    cases hy
  | cons c rest =>
    rw [hname] at h hy
    obtain rfl : '/' = c := (List.cons.inj (List.cons.inj h).2).1
    exact absurd (isNameChar_of_mem hy (List.mem_cons_self ..)) (by decide)

/-- No name goes on behind it. -/
theorem stops_behind_name (x : Xml) (depth : Nat) (rest : List Char) :
    Text.Stops isNameChar (writeAttributes x.attributes ++ x.body depth rest) := by
  have hclose : isNameChar '>' = false := by decide
  have hslash : isNameChar '/' = false := by decide
  have hblank : isNameChar ' ' = false := by decide
  cases ha : x.attributes with
  | nil =>
    cases x with
    | element => exact hclose
    | content => exact hclose
    | closed => exact hslash
  | cons a as =>
    rw [writeAttributes_cons_append]
    exact hblank

/-- No attribute comes behind the attributes. -/
theorem stops_behind_attributes (x : Xml) (depth : Nat) (rest : List Char) :
    Text.Stops (· == ' ') (x.body depth rest) := by
  cases x <;> rfl

/-- A tag tells its name, its attributes and what kind of tree it begins. -/
theorem tag_inj (hx : Fits holds x) (hy : Fits holds y) {depth : Nat} {r s : List Char}
    (h : writeAt depth x ++ r = writeAt depth y ++ s) : x.name = y.name
      ∧ x.attributes = y.attributes ∧ x.holding = y.holding ∧ x.body depth r = y.body depth s := by
  rw [writeAt_append, writeAt_append] at h
  obtain ⟨hn, h⟩ := name_append_inj hx.named.isName_name hy.named.isName_name
    (stops_behind_name x depth r) (stops_behind_name y depth s)
    (List.cons.inj (List.append_cancel_left h)).2
  obtain ⟨ha, h⟩ := writeAttributes_append_inj hx.named.isName_attribute
    hy.named.isName_attribute (stops_behind_attributes x depth r)
    (stops_behind_attributes y depth s) h
  exact ⟨hn, ha, by rw [← hx.holds_name, hn, hy.holds_name], h⟩

/-! ### Trees -/

/-- The lines of a tree tell it, and what stands behind them. -/
def Told (holds : String → Holding) (x : Xml) : Prop :=
  ∀ {y : Xml}, Fits holds y → ∀ {depth : Nat} {r s : List Char},
    writeAt depth x ++ r = writeAt depth y ++ s → x = y ∧ r = s

/-- Children end at the line with the end tag. -/
theorem writeAll_append_inj {xs ys : List Xml} (hxs : ∀ x ∈ xs, Fits holds x)
    (htold : ∀ x ∈ xs, Told holds x) (hys : ∀ y ∈ ys, Fits holds y) {depth indent : Nat}
    {name : String} {r s : List Char}
    (h : writeAll depth xs ++ closing indent name r = writeAll depth ys ++ closing indent name s) :
    xs = ys ∧ r = s := by
  -- where one list ends and the other goes on, an end tag would stand for the begin of a child
  induction xs generalizing ys with
  | nil =>
    cases ys with
    | nil => exact ⟨rfl, closing_inj.1 h⟩
    | cons y ys =>
      rw [writeAll, writeAll, List.nil_append, List.append_assoc] at h
      exact absurd h
        (closing_ne_writeAt (hys y (List.mem_cons_self ..)).named.isName_name _ _ _ _)
  | cons x xs ih =>
    simp only [List.forall_mem_cons] at hxs htold
    cases ys with
    | nil =>
      rw [writeAll, writeAll, List.nil_append, List.append_assoc] at h
      exact absurd h.symm (closing_ne_writeAt hxs.1.named.isName_name _ _ _ _)
    | cons y ys =>
      simp only [List.forall_mem_cons] at hys
      rw [writeAll, writeAll, List.append_assoc, List.append_assoc] at h
      obtain ⟨rfl, hrest⟩ := htold.1 hys.1 h
      obtain ⟨rfl, rfl⟩ := ih hxs.2 htold.2 hys.2 hrest
      exact ⟨rfl, rfl⟩

/-- **The first tree of a text is told from what stands behind it.** -/
theorem writeAt_append_inj (hx : Fits holds x) : Told holds x := by
  -- the tag tells which constructor comes, so only equal ones are left in each case
  induction hx with
  | element hname hholds hchildren ih =>
    intro y hy depth r s h
    obtain ⟨rfl, rfl, hk, hb⟩ := tag_inj (.element hname hholds hchildren) hy h
    cases hy with
    | element _ _ hchildren' =>
      obtain ⟨rfl, hr⟩ := writeAll_append_inj hchildren ih hchildren'
        (List.cons.inj (List.cons.inj hb).2).2
      exact ⟨rfl, hr⟩
    | content => cases hk
    | closed => cases hk
  | content text hname hholds =>
    intro y hy depth r s h
    obtain ⟨rfl, rfl, hk, hb⟩ := tag_inj (.content text hname hholds) hy h
    cases hy with
    | element => cases hk
    | content text' =>
      obtain ⟨ht, hr⟩ := Markup.escapeChars_append_inj (by decide) (List.cons.inj hb).2
      have hclosing : closing 0 _ r = closing 0 _ s := congrArg ('<' :: ·) hr
      exact ⟨congrArg _ (String.toList_inj.1 ht), closing_inj.1 hclosing⟩
    | closed => cases hk
  | closed hname hholds =>
    intro y hy depth r s h
    obtain ⟨rfl, rfl, hk, hb⟩ := tag_inj (.closed hname hholds) hy h
    cases hy with
    | element => cases hk
    | content => cases hk
    | closed => exact ⟨rfl, (List.cons.inj (List.cons.inj (List.cons.inj hb).2).2).2⟩

/-- Documents that are the same have the same tree. -/
theorem write_inj (hx : Fits holds x) (hy : Fits holds y) (h : write x = write y) : x = y := by
  rw [write, write, String.append_right_inj, String.ofList_inj] at h
  have hchars : writeAt 0 x ++ [] = writeAt 0 y ++ [] := by rw [h]
  exact (writeAt_append_inj hx hy hchars).1

end Xml

end Inspection
