import Inspection.Proofs.Version.Grammar
import Inspection.Proofs.Version.Written

/-!
# Version — What is written is read

Listings and reports have versions and ranges as texts alone.  From the text of a version its
components are read again, zeros at the end included; from the text of a range that has been read,
its two bounds as they are written.  Only a version that no text spells could be lost: one without
components, or with one of more than 64 bits.

* `Version.IsWritable`: the versions that a text spells.
* `Version.parse_text`, `VersionRange.parse_text`: what is read from what is written.
* `VersionRange.reads_back`: both.
-/

namespace Inspection

namespace Version

/-- The word, or one component at least and each of 64 bits. -/
def IsWritable : Version → Prop
  | .latest => True
  | .finite parts => parts ≠ [] ∧ ∀ n ∈ parts, n < 2 ^ 64

variable {v : Version} {s : List Char} {n : Nat}

/-! ### Versions -/

/-- What a text spells can be written. -/
theorem Spells.isWritable (h : v.Spells s) : v.IsWritable := by
  cases h with
  | latest => trivial
  | finite ne_nil components =>
    refine ⟨fun hnil => ?_, fun n hn => ?_⟩
    · rw [hnil, List.forall₂_nil_right_iff] at components
      exact ne_nil components
    · obtain ⟨piece, -, hpiece⟩ := exists_of_forall₂_right components hn
      exact hpiece.lt

theorem isBlank_of_mem_toChars {c : Char} (h : c ∈ v.toChars) : Text.isBlank c = false := by
  have hword : latestWord.all (!Text.isBlank ·) = true := by decide_cbv
  obtain hdigit | rfl | hletter := mem_toChars h
  · exact Decimal.not_isBlank_of_isDigit hdigit
  · exact Text.isBlank_eq_false (by decide) (by decide)
  · simpa using List.all_eq_true.1 hword c hletter

@[simp]
theorem trim_toChars (v : Version) : Text.trim v.toChars = v.toChars :=
  Text.trim_of_forall fun _ => isBlank_of_mem_toChars

theorem spellsComponent_digits (h : n < 2 ^ 64) :
    SpellsComponent (Text.trim (Text.digits n)) n := by
  have hblank : ∀ c ∈ Text.digits n, Text.isBlank c = false := fun c hc =>
    Decimal.not_isBlank_of_isDigit (Text.isDigit_of_mem_digits hc)
  rw [Text.trim_of_forall hblank]
  exact .plain (ofDigits?_eq_some_iff.1 (Text.ofDigits?_digits n)) h

/-- **A version that can be written** is spelled by the text it is written as. -/
theorem spells_toChars (h : v.IsWritable) : v.Spells v.toChars := by
  cases v with
  | latest => exact .latest (List.forall₂_same.2 fun _ _ => .inl rfl)
  | finite parts =>
    obtain ⟨hne, hparts⟩ := h
    refine .finite (by simpa using hne) ?_
    exact List.forall₂_map_left_iff.2
      (List.forall₂_same.2 fun n hn => spellsComponent_digits (hparts n hn))

theorem parse_text (h : v.IsWritable) : parse v.text = .ok v := by
  rw [parse_eq_ok_iff, text, String.toList_ofList, trim_toChars]
  exact spells_toChars h

end Version

namespace Bound

variable {b : Bound} {s : List Char}

@[simp]
theorem trim_toChars (b : Bound) : Text.trim b.toChars = b.toChars := by
  cases b with
  | unbounded => decide_cbv
  | «at» v => exact v.trim_toChars

theorem comma_not_mem_toChars (b : Bound) : ',' ∉ b.toChars :=
  not_mem_toChars (by decide) (by decide) (by decide) (by decide)

theorem Spells.toChars (h : b.Spells s) : b.Spells b.toChars := by
  cases h with
  | unbounded => exact .unbounded
  | «at» version => exact .at (Version.spells_toChars version.isWritable)

end Bound

namespace VersionRange

variable {r : VersionRange} {s : List Char} {raw : String}

/-! ### Ranges -/

theorem trim_toChars (r : VersionRange) : Text.trim r.toChars = r.toChars := by
  refine Text.trim_eq_self ?_ ?_
  · exact Text.isBlank_eq_false (c := '[') (by decide) (by decide)
  · rw [toChars, List.reverse_append]
    exact Text.isBlank_eq_false (c := ']') (by decide) (by decide)

/-- The space behind the comma is a blank around the upper bound. -/
theorem Spells.toChars (h : r.Spells s) : r.Spells r.toChars := by
  obtain @⟨lower, upper, low, high, -, -, hlow, hhigh, hordered⟩ := h
  have hspace : Text.trim (' ' :: high.toChars) = high.toChars := by
    have hpadded : Text.Padded Text.isBlank high.toChars ([' '] ++ high.toChars ++ []) :=
      .mk (List.forall_mem_singleton.2 (by decide_cbv)) (List.forall_mem_nil _)
    rw [List.append_nil] at hpadded
    exact (Text.trim_padded hpadded).trans high.trim_toChars
  have hspells : (VersionRange.mk low high).Spells
      ('[' :: (low.toChars ++ ',' :: (' ' :: high.toChars)) ++ [']']) := by
    refine .mk low.comma_not_mem_toChars ?_ ?_ ?_ hordered
    · simpa using high.comma_not_mem_toChars
    · rw [low.trim_toChars]
      exact hlow.toChars
    · rw [hspace]
      exact hhigh.toChars
  simpa [VersionRange.toChars] using hspells

theorem parse_text (h : parse raw = .ok r) : parse r.text = .ok r := by
  rw [parse_eq_ok_iff, text, String.toList_ofList, trim_toChars]
  exact (parse_eq_ok_iff.1 h).toChars

/-- **What is written is read**: the text of a range that has been read gives the same range, and
the text of a version that can be written gives the same components. -/
theorem reads_back :
    (∀ raw r, parse raw = .ok r → parse r.text = .ok r) ∧
    Version.parse Version.latest.text = .ok .latest ∧
    ∀ parts : List Nat, parts ≠ [] → (∀ n ∈ parts, n < 2 ^ 64) →
      Version.parse (Version.finite parts).text = .ok (.finite parts) :=
  ⟨fun _ _ => parse_text, Version.parse_text trivial,
    fun _ hne hparts => Version.parse_text ⟨hne, hparts⟩⟩

/-- A range with blanks in it, and a version with the largest component and a zero at its end. -/
theorem reads_back_sample :
    parse "[ 4.0 ,* ]" = .ok ⟨.at (.finite [4, 0]), .unbounded⟩ ∧
      parse (VersionRange.mk (.at (.finite [4, 0])) .unbounded).text =
        .ok ⟨.at (.finite [4, 0]), .unbounded⟩ ∧
      (∀ n ∈ [4, 18446744073709551615, 0], n < 2 ^ 64) ∧
      Version.parse (Version.finite [4, 18446744073709551615, 0]).text =
        .ok (.finite [4, 18446744073709551615, 0]) := by
  have hparse : parse "[ 4.0 ,* ]" = .ok ⟨.at (.finite [4, 0]), .unbounded⟩ := by decide_cbv
  have hparts : ∀ n ∈ [4, 18446744073709551615, 0], n < 2 ^ 64 := by decide
  obtain ⟨hrange, -, hversion⟩ := reads_back
  exact ⟨hparse, hrange _ _ hparse, hparts, hversion _ (List.cons_ne_nil _ _) hparts⟩

end VersionRange

end Inspection
