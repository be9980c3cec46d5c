import Inspection.Proofs.Text.Pieces
import Inspection.Version.Range

/-!
# Version — A version is what is written

The order takes `4.2` and `4.2.0.0` for the same version; their texts are not the same.  A text
gives back the numbers it was written from, and a range its two bounds.

* `Version.text_inj`, `VersionRange.text_inj`: what is written tells versions and ranges apart.
-/

namespace Inspection

namespace Version

/-- What numbers are written with. -/
theorem mem_toChars_finite {parts : List Nat} {c : Char} (h : c ∈ (finite parts).toChars) :
    c.isDigit = true ∨ c = '.' := by
  obtain hc | ⟨piece, hp, hc⟩ := Text.mem_joinWith h
  · exact .inr (List.mem_singleton.1 hc)
  · obtain ⟨n, -, rfl⟩ := List.mem_map.1 hp
    exact .inl (Text.isDigit_of_mem_digits hc)

/-- What a version is written with. -/
theorem mem_toChars {v : Version} {c : Char} (h : c ∈ v.toChars) :
    c.isDigit = true ∨ c = '.' ∨ c ∈ latestWord := by
  cases v with
  | latest => exact .inr (.inr h)
  | finite parts => exact (mem_toChars_finite h).imp_right .inl

theorem not_mem_digits_dot (n : Nat) : '.' ∉ Text.digits n := fun h =>
  absurd (Text.isDigit_of_mem_digits h) (by decide)

/-- The numbers of a version, the empty list apart. -/
theorem splitAll_toChars {parts : List Nat} (hne : parts ≠ []) :
    Text.splitAll (· == '.') (finite parts).toChars = parts.map Text.digits := by
  refine Text.splitAll_joinWith (by simpa using hne) fun piece hp => ?_
  obtain ⟨n, -, rfl⟩ := List.mem_map.1 hp
  exact not_mem_digits_dot n

theorem toChars_finite_ne_nil {parts : List Nat} (hne : parts ≠ []) :
    (finite parts).toChars ≠ [] := by
  intro h
  have hsplit := splitAll_toChars hne
  rw [h] at hsplit
  obtain ⟨n, rest, rfl⟩ := List.exists_cons_of_ne_nil hne
  exact Text.digits_ne_nil n (List.cons.inj hsplit).1.symm

theorem toChars_finite_ne_latest (parts : List Nat) : (finite parts).toChars ≠ latestWord := by
  intro h
  have hl : 'l' ∈ (finite parts).toChars := by
    rw [h]
    exact List.mem_cons_self ..
  obtain hdigit | hdot := mem_toChars_finite hl
  · exact absurd hdigit (by decide)
  · exact absurd hdot (by decide)

@[simp]
theorem toChars_finite_inj {as bs : List Nat} :
    (finite as).toChars = (finite bs).toChars ↔ as = bs := by
  refine ⟨fun h => ?_, fun h => by rw [h]⟩
  -- no number and one empty number would both be cut into one empty piece
  by_cases ha : as = [] <;> by_cases hb : bs = []
  · rw [ha, hb]
  · subst ha
    exact absurd h.symm (toChars_finite_ne_nil hb)
  · subst hb
    exact absurd h (toChars_finite_ne_nil ha)
  · have hsplit := splitAll_toChars ha
    rw [h, splitAll_toChars hb] at hsplit
    exact ((List.map_inj_right fun _ _ => Text.digits_inj.1).1 hsplit).symm

@[simp]
theorem toChars_inj {v w : Version} : v.toChars = w.toChars ↔ v = w := by
  refine ⟨fun h => ?_, fun h => by rw [h]⟩
  cases v with
  | latest =>
    cases w with
    | latest => rfl
    | finite bs => exact absurd h.symm (toChars_finite_ne_latest bs)
  | finite as =>
    cases w with
    | latest => exact absurd h (toChars_finite_ne_latest as)
    | finite bs => rw [toChars_finite_inj.1 h]

/-- **The text of a version tells all its numbers.** -/
theorem text_inj {v w : Version} : v.text = w.text ↔ v = w := by
  rw [text, text, String.ofList_inj, toChars_inj]

end Version

namespace Bound

/-- What a bound is written with. -/
theorem not_mem_toChars {b : Bound} {c : Char} (h : c ∉ Version.latestWord)
    (hdigit : c.isDigit = false) (hdot : c ≠ '.') (hstar : c ≠ '*') : c ∉ b.toChars := by
  intro hc
  cases b with
  | unbounded => exact hstar (List.mem_singleton.1 hc)
  | «at» v =>
    obtain hd | hd | hd := Version.mem_toChars hc
    · rw [hdigit] at hd
      cases hd
    · exact hdot hd
    · exact h hd

theorem toChars_at_ne_star (v : Version) : (Bound.at v).toChars ≠ ['*'] := by
  intro h
  have hstar : '*' ∈ v.toChars := by
    have hmem : '*' ∈ (Bound.at v).toChars := h ▸ List.mem_singleton_self _
    exact hmem
  obtain hd | hd | hd := Version.mem_toChars hstar <;> exact absurd hd (by decide)

@[simp]
theorem toChars_inj {a b : Bound} : a.toChars = b.toChars ↔ a = b := by
  refine ⟨fun h => ?_, fun h => by rw [h]⟩
  cases a with
  | unbounded =>
    cases b with
    | unbounded => rfl
    | «at» w => exact absurd h.symm (toChars_at_ne_star w)
  | «at» v =>
    cases b with
    | unbounded => exact absurd h (toChars_at_ne_star v)
    | «at» w => exact congrArg Bound.at (Version.toChars_inj.1 h)

end Bound

namespace VersionRange

/-- **The text of a range tells its two bounds.** -/
theorem text_inj {r s : VersionRange} : r.text = s.text ↔ r = s := by
  refine ⟨fun h => ?_, fun h => by rw [h]⟩
  have hno : ∀ b : Bound, ∀ c ∈ b.toChars, (c != ',') = true := fun b c hc => by
    refine bne_iff_ne.2 ?_
    rintro rfl
    exact Bound.not_mem_toChars (by decide) (by decide) (by decide) (by decide) hc
  have hchars : r.lower.toChars ++ ([',', ' '] ++ (r.upper.toChars ++ [']']))
      = s.lower.toChars ++ ([',', ' '] ++ (s.upper.toChars ++ [']'])) := by
    simpa only [toChars, List.append_assoc, List.append_cancel_left_eq]
      using String.ofList_inj.1 h
  obtain ⟨hlower, hrest⟩ :=
    Text.append_inj_of_stops (p := (· != ',')) (hno _) (hno _) (by simp) (by simp) hchars
  have hupper := List.append_cancel_right (List.append_cancel_left hrest)
  cases r
  cases s
  exact mk.injEq .. ▸ ⟨Bound.toChars_inj.1 hlower, Bound.toChars_inj.1 hupper⟩

end VersionRange

end Inspection
