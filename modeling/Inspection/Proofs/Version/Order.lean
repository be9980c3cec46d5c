import Inspection.Version.Basic
import Mathlib

/-!
# Version — The order of versions

Two versions are compared component by component up to the first difference, and zeros stand in for
components that one of them does not have.  So a version has its place where its components, with
zeros behind them without end, are among all sequences of numbers in lexicographic order; `latest`
is above all sequences.  Places are in a linear order, and versions share a place exactly when they
are the same but for zeros at their ends.

* `Version.place`: the place of a version; `≤` and `<` on versions are those of their places.
* `order_eq_cmp`: versions are compared as their places are.
* `atMost_iff`, `same_iff_reduced`: what the tests on two versions say.
* `order_lexicographic`: all of this, and that the order is a total preorder.
-/

namespace Inspection

namespace Version

/-- The components with zeros behind them, without end. -/
def padded (parts : List Nat) : ℕ → ℕ := fun i => parts.getD i 0

/-- The place of a version: its padded components in lexicographic order, `latest` above all. -/
def place : Version → WithTop (Lex (ℕ → ℕ))
  | .latest => ⊤
  | .finite parts => (toLex (padded parts) : Lex (ℕ → ℕ))

/-- The version without the zeros that it ends in. -/
def reduced : Version → Version
  | .latest => .latest
  | .finite parts => .finite (parts.rdropWhile (· == 0))

variable {a b c : Version} {as bs : List Nat}

/-! ### Lexicographic order -/

/-- Sequences are compared by their first numbers, and by what follows where these are equal. -/
theorem compares_then {f g : ℕ → ℕ} {o : Ordering}
    (h : o.Compares (toLex fun i => f (i + 1)) (toLex fun i => g (i + 1))) :
    ((compare (f 0) (g 0)).then o).Compares (toLex f) (toLex g) := by
  have hfirst (f g : ℕ → ℕ) (h : f 0 < g 0) : toLex f < toLex g :=
    ⟨0, fun j hj => absurd hj j.not_lt_zero, h⟩
  have hlater (f g : ℕ → ℕ) (h0 : f 0 = g 0)
      (h : toLex (fun i => f (i + 1)) < toLex fun i => g (i + 1)) : toLex f < toLex g := by
    obtain ⟨i, heq, hi⟩ := h
    refine ⟨i + 1, fun j hj => ?_, hi⟩
    cases j with
    | zero => exact h0
    | succ j => exact heq j (Nat.lt_of_succ_lt_succ hj)
  cases h0 : compare (f 0) (g 0) with
  | lt => exact hfirst f g (Nat.compare_eq_lt.1 h0)
  | gt => exact hfirst g f (Nat.compare_eq_gt.1 h0)
  | eq =>
    have h0 := Nat.compare_eq_eq.1 h0
    cases o with
    | lt => exact hlater f g h0 h
    | gt => exact hlater g f h0.symm h
    | eq =>
      refine congrArg toLex (funext fun i => ?_)
      cases i with
      | zero => exact h0
      | succ i => exact congrFun (toLex.injective h) i

/-- Where one list has run out, the zeros of its sequence are what the other is compared with. -/
theorem orderParts_compares (as bs : List Nat) :
    (orderParts as bs).Compares (toLex (padded as)) (toLex (padded bs)) := by
  fun_induction orderParts as bs with
  | case1 => rfl
  | case2 a as ih => exact compares_then (f := padded (a :: as)) (g := padded []) ih
  | case3 b bs ih => exact compares_then (f := padded []) (g := padded (b :: bs)) ih
  | case4 a as b bs ih => exact compares_then (f := padded (a :: as)) (g := padded (b :: bs)) ih

theorem order_compares (a b : Version) : (a.order b).Compares a.place b.place := by
  cases a with
  | latest =>
    cases b with
    | latest => rfl
    | finite bs => exact WithTop.coe_lt_top _
  | finite as =>
    cases b with
    | latest => exact WithTop.coe_lt_top _
    | finite bs =>
      have h := orderParts_compares as bs
      rw [order]
      cases ho : orderParts as bs with
      | lt => rw [ho] at h; exact WithTop.coe_lt_coe.2 h
      | gt => rw [ho] at h; exact WithTop.coe_lt_coe.2 h
      | eq => rw [ho] at h; exact congrArg WithTop.some h

/-- **Versions are compared as their places are.** -/
theorem order_eq_cmp (a b : Version) : a.order b = cmp a.place b.place :=
  (order_compares a b).cmp_eq.symm

/-! ### What the tests say -/

instance : Preorder Version := Preorder.lift place

theorem le_iff_place : a ≤ b ↔ a.place ≤ b.place := Iff.rfl

theorem lt_iff_place : a < b ↔ a.place < b.place := Iff.rfl

theorem order_eq_lt_iff : a.order b = .lt ↔ a < b := by
  rw [order_eq_cmp, cmp_eq_lt_iff, lt_iff_place]

theorem order_eq_eq_iff : a.order b = .eq ↔ a.place = b.place := by
  rw [order_eq_cmp, cmp_eq_eq_iff]

theorem order_ne_gt_iff : a.order b ≠ .gt ↔ a ≤ b := by
  rw [order_eq_cmp, Ne, cmp_eq_gt_iff, not_lt, le_iff_place]

theorem atMost_iff : a.atMost b = true ↔ a ≤ b := by
  rw [atMost, bne_iff_ne, order_ne_gt_iff]

theorem below_iff : a.below b = true ↔ a < b := by
  rw [below, order?, beq_iff_eq, Option.some_inj, order_eq_lt_iff]

theorem same_iff : a.same b = true ↔ a.place = b.place := by
  rw [same, beq_iff_eq, order_eq_eq_iff]

theorem same_comm : a.same b = true ↔ b.same a = true := by
  rw [same_iff, same_iff, eq_comm]

/-! ### Zeros at the end -/

theorem padded_append_zero (as : List Nat) : padded (as ++ [0]) = padded as := by
  funext i
  rw [padded, padded]
  obtain hi | hi := Nat.lt_or_ge i as.length
  · rw [List.getD_append _ _ _ _ hi]
  · rw [List.getD_append_right _ _ _ _ hi, List.getD_eq_default _ _ hi]
    cases i - as.length <;> rfl

theorem padded_rdropWhile (as : List Nat) : padded (as.rdropWhile (· == 0)) = padded as := by
  induction as using List.reverseRecOn with
  | nil => rfl
  | append_singleton as a ih =>
    by_cases ha : a = 0
    · rw [ha, List.rdropWhile_concat_pos _ _ _ rfl, ih, padded_append_zero]
    · rw [List.rdropWhile_concat_neg _ _ _ (by simpa using ha)]

/-- A list that does not end in zero is not longer than one with the same padding: its last number
would stand where the other has zeros. -/
theorem length_le_of_padded_eq (hlast : ∀ h : bs ≠ [], bs.getLast h ≠ 0)
    (h : padded as = padded bs) : bs.length ≤ as.length := by
  by_contra hlt
  have hne : bs ≠ [] := List.ne_nil_of_length_pos (by omega)
  refine hlast hne ?_
  calc bs.getLast hne
      = padded bs (bs.length - 1) := by
        rw [List.getLast_eq_getElem, padded, List.getD_eq_getElem]
    _ = padded as (bs.length - 1) := by rw [h]
    _ = 0 := List.getD_eq_default _ _ (by omega)

theorem padded_inj (ha : ∀ h : as ≠ [], as.getLast h ≠ 0) (hb : ∀ h : bs ≠ [], bs.getLast h ≠ 0)
    (h : padded as = padded bs) : as = bs := by
  have hlength := (length_le_of_padded_eq hb h).antisymm (length_le_of_padded_eq ha h.symm)
  refine List.ext_getElem hlength.symm fun i hi hj => ?_
  rw [← List.getD_eq_getElem as 0, ← List.getD_eq_getElem bs 0]
  exact congrFun h i

theorem padded_eq_iff :
    padded as = padded bs ↔ as.rdropWhile (· == 0) = bs.rdropWhile (· == 0) := by
  have hlast (as : List Nat) (h : as.rdropWhile (· == 0) ≠ []) :
      (as.rdropWhile (· == 0)).getLast h ≠ 0 := fun hzero =>
    List.rdropWhile_last_not _ _ h (beq_iff_eq.2 hzero)
  constructor
  · intro h
    refine padded_inj (hlast as) (hlast bs) ?_
    rw [padded_rdropWhile, padded_rdropWhile, h]
  · intro h
    rw [← padded_rdropWhile as, h, padded_rdropWhile]

/-- **The same version** is the same list up to zeros at the end, or `latest` both times. -/
theorem same_iff_reduced : a.same b = true ↔ a.reduced = b.reduced := by
  rw [same_iff]
  cases a with
  | latest =>
    cases b with
    | latest => simp [reduced]
    | finite bs => simp [reduced, place]
  | finite as =>
    cases b with
    | latest => simp [reduced, place]
    | finite bs => simp [reduced, place, padded_eq_iff]

/-- **Versions are in lexicographic order**, missing components being zeros: a total preorder, in
which those are the same that differ in zeros at their ends only, and which all tests agree with. -/
theorem order_lexicographic (a b c : Version) :
    a.order b = cmp a.place b.place ∧
    a.order a = .eq ∧ b.order a = (a.order b).swap ∧
    (a.order b ≠ .gt → b.order c ≠ .gt → a.order c ≠ .gt) ∧
    (a.order b ≠ .gt ∨ b.order a ≠ .gt) ∧
    (a.same b = true ↔ a.order b = .eq) ∧ (a.same b = true ↔ a.reduced = b.reduced) ∧
    a.order? b = some (a.order b) ∧ (a.below b = true ↔ a.order b = .lt) ∧
    (a.atMost b = true ↔ a.order b = .lt ∨ a.order b = .eq) := by
  refine ⟨order_eq_cmp a b, order_eq_eq_iff.2 rfl, ?_, ?_, ?_, ?_, same_iff_reduced, rfl, ?_, ?_⟩
  · rw [order_eq_cmp, order_eq_cmp, cmp_swap]
  · simp only [order_ne_gt_iff]
    exact le_trans
  · simp only [order_ne_gt_iff, le_iff_place]
    exact le_total _ _
  · rw [same_iff, order_eq_eq_iff]
  · rw [below_iff, order_eq_lt_iff]
  · rw [atMost_iff, order_eq_lt_iff, order_eq_eq_iff, le_iff_place, lt_iff_place, le_iff_lt_or_eq]

example : (finite [4, 2]).same (finite [4, 2, 0, 0]) = true := by cbv

end Version

end Inspection
