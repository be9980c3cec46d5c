import Inspection.Proofs.Version.Grammar
import Inspection.Proofs.Version.Order
import Inspection.Task.Basic

/-!
# Task — The variant for a version

A range holds the versions from its lower bound to its upper one, by the places of versions alone:
how a version is written does not count, and a range has no gap.  A task has its variants in order,
and the first of them whose range holds a version is the one for it.

* `VersionRange.Holds`, `Task.IsFirst`: the ranges and variants for a version, said without a test.
* `VersionRange.contains_iff`: what the test on a range says.
* `Task.select?_first`: which variant is for a version, and which versions a range holds.
-/

namespace Inspection

/-- The version is not below the lower bound and not above the upper one; `*` bounds nothing. -/
structure VersionRange.Holds (r : VersionRange) (v : Version) : Prop where
  lower : ∀ low, r.lower = .at low → low ≤ v
  upper : ∀ high, r.upper = .at high → v ≤ high

/-- The variant has this position in the task, its range holds the version, and that of no variant
before it does. -/
structure Task.IsFirst (t : Task) (v : Version) (k : Nat) (variant : Variant) : Prop where
  here : t.variants[k]? = some variant
  holds : variant.range.Holds v
  earlier : ∀ j < k, ∀ w, t.variants[j]? = some w → ¬w.range.Holds v

variable {b : Bound} {r : VersionRange} {v w low high : Version} {t : Task} {variant : Variant}
  {raw : String}

/-! ### Ranges -/

theorem Bound.belowOrAt_iff : b.belowOrAt v = true ↔ ∀ low, b = .at low → low ≤ v := by
  cases b with
  | unbounded => simp [belowOrAt]
  | «at» lower => simp [belowOrAt, Version.atMost_iff]

theorem Bound.aboveOrAt_iff : b.aboveOrAt v = true ↔ ∀ high, b = .at high → v ≤ high := by
  cases b with
  | unbounded => simp [aboveOrAt]
  | «at» upper => simp [aboveOrAt, Version.atMost_iff]

namespace VersionRange

theorem contains_iff : r.contains v = true ↔ r.Holds v := by
  rw [contains, Bool.and_eq_true, Bound.belowOrAt_iff, Bound.aboveOrAt_iff]
  exact ⟨fun ⟨hlower, hupper⟩ => ⟨hlower, hupper⟩, fun h => ⟨h.lower, h.upper⟩⟩

/-- What lies between two versions of a range lies in the range. -/
theorem Holds.between (hlow : r.Holds low) (hhigh : r.Holds high) (hv : low ≤ v) (hv' : v ≤ high) :
    r.Holds v :=
  ⟨fun l hl => (hlow.lower l hl).trans hv, fun u hu => hv'.trans (hhigh.upper u hu)⟩

theorem Holds.congr (h : v.same w = true) (hv : r.Holds v) : r.Holds w := by
  have hplace := Version.same_iff.1 h
  exact hv.between hv (Version.le_iff_place.2 hplace.le) (Version.le_iff_place.2 hplace.ge)

/-- How a version is written does not count. -/
theorem contains_congr (h : v.same w = true) : r.contains v = r.contains w := by
  have h' : w.same v = true := Version.same_comm.1 h
  rw [Bool.eq_iff_iff, contains_iff, contains_iff]
  exact ⟨Holds.congr h, Holds.congr h'⟩

/-- The bounds of a range that has been read are the right way round, as the order has it. -/
theorem parse_le (h : parse raw = .ok r) (hlow : r.lower = .at low) (hhigh : r.upper = .at high) :
    low ≤ high := by
  obtain ⟨lower, upper⟩ := r
  subst hlow hhigh
  exact Version.atMost_iff.1 (parse_ordered h)

theorem holds_lower (h : parse raw = .ok r) (hlow : r.lower = .at low) : r.Holds low := by
  refine ⟨fun l hl => ?_, fun high hhigh => parse_le h hlow hhigh⟩
  obtain rfl := Bound.at.inj (hl.symm.trans hlow)
  exact le_rfl

theorem holds_upper (h : parse raw = .ok r) (hhigh : r.upper = .at high) : r.Holds high := by
  refine ⟨fun low hlow => parse_le h hlow hhigh, fun u hu => ?_⟩
  obtain rfl := Bound.at.inj (hu.symm.trans hhigh)
  exact le_rfl

end VersionRange

/-! ### Variants -/

namespace Task

theorem select?_eq_some_iff : t.select? v = some variant ↔ ∃ k, t.IsFirst v k variant := by
  rw [select?, List.find?_eq_some_iff_getElem]
  constructor
  · rintro ⟨hcontains, k, hk, rfl, hearlier⟩
    refine ⟨k, List.getElem?_eq_getElem hk, VersionRange.contains_iff.1 hcontains, ?_⟩
    intro j hj w hw hholds
    obtain ⟨_, rfl⟩ := List.getElem?_eq_some_iff.1 hw
    have hnot := hearlier j hj
    rw [VersionRange.contains_iff.2 hholds] at hnot
    cases hnot
  · rintro ⟨k, hhere, hholds, hearlier⟩
    obtain ⟨hk, rfl⟩ := List.getElem?_eq_some_iff.1 hhere
    refine ⟨VersionRange.contains_iff.2 hholds, k, hk, rfl, fun j hj => ?_⟩
    have hnot := hearlier j hj _ (List.getElem?_eq_getElem (hj.trans hk))
    rw [← VersionRange.contains_iff] at hnot
    rw [Bool.not_eq_true', Bool.eq_false_iff.2 hnot]

theorem IsFirst.congr (h : v.same w = true) {k : Nat} (hv : t.IsFirst v k variant) :
    t.IsFirst w k variant := by
  have h' : w.same v = true := Version.same_comm.1 h
  exact ⟨hv.here, hv.holds.congr h, fun j hj x hx hw => hv.earlier j hj x hx (hw.congr h')⟩

theorem select?_eq_none_iff :
    t.select? v = none ↔ ∀ variant ∈ t.variants, ¬variant.range.Holds v := by
  simp only [select?, List.find?_eq_none, VersionRange.contains_iff]

theorem select?_congr (h : v.same w = true) (t : Task) : t.select? v = t.select? w := by
  rw [select?, select?]
  congr 1
  funext variant
  exact VersionRange.contains_congr h

/-- **The variant for a version is the first whose range holds it**, and there is none exactly when
no range does; versions that are the same have the same variant.  A range that has been read holds
its own bounds, and with two versions all that lie between them. -/
theorem select?_first (t : Task) (v : Version) :
    (∀ variant, t.select? v = some variant ↔ ∃ k, t.IsFirst v k variant) ∧
    (t.select? v = none ↔ ∀ variant ∈ t.variants, ¬variant.range.Holds v) ∧
    (∀ w, v.same w = true →
      t.select? v = t.select? w ∧ ∀ k variant, t.IsFirst v k variant ↔ t.IsFirst w k variant) ∧
    ∀ raw r, VersionRange.parse raw = .ok r →
      (∀ low, r.lower = .at low → r.contains low = true) ∧
      (∀ high, r.upper = .at high → r.contains high = true) ∧
      ∀ low high, r.contains low = true → r.contains high = true → low ≤ v → v ≤ high →
        r.contains v = true := by
  refine ⟨fun variant => select?_eq_some_iff, select?_eq_none_iff, fun w h => ?_, fun raw r h => ?_⟩
  · have h' : w.same v = true := Version.same_comm.1 h
    exact ⟨select?_congr h t, fun k variant => ⟨IsFirst.congr h, IsFirst.congr h'⟩⟩
  · simp only [VersionRange.contains_iff]
    exact ⟨fun low => VersionRange.holds_lower h, fun high => VersionRange.holds_upper h,
      fun low high => VersionRange.Holds.between⟩

end Task

namespace Sample

/-- A range that ends at `4.2`. -/
def upTo : VersionRange := ⟨.at (.finite [4, 0]), .at (.finite [4, 2])⟩

/-- Two variants, the ranges of which share a bound that is written in two ways. -/
def overlapping : Task where
  name := "t"
  info := ""
  variants := [⟨upTo, []⟩, ⟨⟨.at (.finite [4, 2, 0, 0]), .unbounded⟩, []⟩]

end Sample

theorem Task.select?_first_overlapping :
    VersionRange.parse "[4.0, 4.2]" = .ok Sample.upTo ∧
      (Version.finite [4, 2, 0, 0]).same (.finite [4, 2]) = true ∧
      Sample.overlapping.select? (.finite [4, 2, 0, 0]) =
        Sample.overlapping.select? (.finite [4, 2]) ∧
      Sample.upTo.contains (.finite [4, 0]) = true ∧
      Sample.upTo.contains (.finite [4, 2]) = true := by
  have hparse : VersionRange.parse "[4.0, 4.2]" = .ok Sample.upTo := by decide_cbv
  have hsame : (Version.finite [4, 2, 0, 0]).same (.finite [4, 2]) = true := by decide_cbv
  obtain ⟨-, -, hcongr, hread⟩ := Task.select?_first Sample.overlapping (.finite [4, 2, 0, 0])
  obtain ⟨hlower, hupper, -⟩ := hread _ _ hparse
  exact ⟨hparse, hsame, (hcongr _ hsame).1, hlower _ rfl, hupper _ rfl⟩

end Inspection
