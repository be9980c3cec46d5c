import Inspection.Proofs.Version.ReadBack

/-!
# Version — The version in a banner

A server tells its version in free text, among words, dates and the versions of what it is
compatible with.  The version is the last run of digits and dots with a dot inside.  So a version
is found wherever it is written, whatever stands before it, unless another run of this sort comes
later; and what is found has two components at least.

* `dottedRuns_around`: the last run with a dot inside.
* `extract_written`: what is found in a text that holds a version.
-/

namespace Inspection

namespace Version

variable {s run before after : List Char} {parts : List Nat} {text : String} {v : Version}

/-! ### Runs with a dot inside -/

/-- **Trimming the dots** leaves the part between them that has no dot at its ends. -/
theorem trimDots_eq_iff {t : List Char} :
    trimDots s = t ↔
      Text.Padded (· == '.') t s ∧ Text.Stops (· == '.') t ∧ Text.Stops (· == '.') t.reverse :=
  Text.rdropWhile_dropWhile_eq_iff

theorem mem_dottedRuns :
    run ∈ dottedRuns s ↔ '.' ∈ run ∧ ∃ r, Text.IsRun isDotted r s ∧ trimDots r = run := by
  have hruns (r) : r ∈ Text.splitAll (fun c => !isDotted c) s ↔ Text.IsRun isDotted r s :=
    Text.mem_splitAll_iff fun _ => rfl
  simp [dottedRuns, hruns, and_comm]

theorem dottedRuns_eq_nil_iff :
    dottedRuns s = [] ↔ ∀ r, Text.IsRun isDotted r s → '.' ∉ trimDots r := by
  simp only [List.eq_nil_iff_forall_not_mem, mem_dottedRuns]
  constructor
  · intro h r hr hdot
    exact h _ ⟨hdot, r, hr, rfl⟩
  · rintro h _ ⟨hdot, r, hr, rfl⟩
    exact h r hr hdot

/-- **The last run with a dot inside** is one behind which there is no other. -/
theorem dottedRuns_around (hrun : ∀ c ∈ run, isDotted c = true) (hdot : '.' ∈ trimDots run)
    (hbefore : Text.Stops isDotted before.reverse) (hafter : Text.Stops isDotted after)
    (hlast : ∀ r, Text.IsRun isDotted r after → '.' ∉ trimDots r) :
    (dottedRuns (before ++ run ++ after)).getLast? = some (trimDots run) := by
  obtain ⟨first, last, hpieces, hmem⟩ :=
    Text.splitAll_around (fun _ => rfl : ∀ c, (!isDotted c) = !isDotted c) hrun hbefore hafter
  have hnone : (last.map trimDots).filter (·.contains '.') = [] := by
    simp only [List.filter_eq_nil_iff, List.forall_mem_map, List.contains_iff_mem]
    exact fun r hr => hlast r (Text.isRun_of_mem_splitAll (fun _ => rfl) (hmem r hr))
  have hkept : (trimDots run :: last.map trimDots).filter (·.contains '.') = [trimDots run] := by
    rw [List.filter_cons, if_pos (List.contains_iff_mem.2 hdot), hnone]
  rw [dottedRuns, hpieces, List.map_append, List.map_cons, List.filter_append, hkept,
    List.getLast?_concat]

/-! ### A version as it is written -/

theorem isDotted_of_mem_toChars {c : Char} (h : c ∈ (finite parts).toChars) :
    isDotted c = true := by
  obtain hdigit | rfl := mem_toChars_finite h
  · rw [isDotted, hdigit, Bool.true_or]
  · rfl

theorem dot_mem_toChars (h : 2 ≤ parts.length) : '.' ∈ (finite parts).toChars := by
  by_contra hdot
  have hpieces := splitAll_toChars (List.ne_nil_of_length_pos (by omega : 0 < parts.length))
  have hone := congrArg List.length (hpieces.symm.trans (Text.splitAll_of_not_mem hdot))
  rw [List.length_map, List.length_singleton] at hone
  omega

/-- Numbers stand at the ends of a version, so no dot is taken from it. -/
theorem trimDots_toChars (hne : parts ≠ []) :
    trimDots (finite parts).toChars = (finite parts).toChars := by
  have hempty : [] ∉ Text.splitAll (· == '.') (finite parts).toChars := by
    rw [splitAll_toChars hne]
    intro hmem
    obtain ⟨n, -, hn⟩ := List.mem_map.1 hmem
    exact Text.digits_ne_nil n hn
  obtain ⟨hfirst, hlast⟩ := Text.stops_of_splitAll hempty
  exact trimDots_eq_iff.2 ⟨.refl _ _, hfirst, hlast⟩

/-- Two numbers at least stand where a dot does. -/
theorem Spells.two_le_length (h : (Version.finite parts).Spells s) (hdot : '.' ∈ s) :
    2 ≤ parts.length := by
  obtain _ | @⟨pieces, _, hne, components⟩ := h
  by_contra hlength
  have hone : pieces.length = 1 := by
    have hpos := List.length_pos_iff.2 hne
    have heq := components.length_eq
    omega
  obtain ⟨piece, rfl⟩ := List.length_eq_one_iff.1 hone
  obtain ⟨n, -, hn⟩ := exists_of_forall₂_left components (List.mem_singleton_self piece)
  exact hn.dot_not_mem hdot

theorem not_spells_latest (hdot : '.' ∈ s) : ¬Version.latest.Spells s := by
  intro h
  have hread := ofTrimmed?_eq_some_iff.2 h
  rw [ofTrimmed?] at hread
  split at hread
  · next hword =>
    have hlower := List.mem_map_of_mem (f := Char.toLower) hdot
    rw [hword] at hlower
    exact absurd hlower (by decide)
  · obtain ⟨_, -, hfinite⟩ := Option.map_eq_some_iff.1 hread
    cases hfinite

/-- What is found has two components at least. -/
theorem exists_of_extract (h : extract text = some v) :
    ∃ parts, v = .finite parts ∧ 2 ≤ parts.length := by
  obtain ⟨run, hrun, hread⟩ := Option.bind_eq_some_iff.1 h
  have hdot := (mem_dottedRuns.1 (List.mem_of_getLast? hrun)).1
  have hspells := ofTrimmed?_eq_some_iff.1 hread
  cases v with
  | latest => exact absurd hspells (not_spells_latest hdot)
  | finite parts => exact ⟨parts, rfl, hspells.two_le_length hdot⟩

/-- **A version is found where it is written**, if digits and dots neither go on around it nor come
later with a dot inside; and what is found is a version of two components at least. -/
theorem extract_written :
    (∀ (parts : List Nat) (before after : String), 2 ≤ parts.length → (∀ n ∈ parts, n < 2 ^ 64) →
      Text.Stops isDotted before.toList.reverse → Text.Stops isDotted after.toList →
      (∀ run, Text.IsRun isDotted run after.toList → '.' ∉ trimDots run) →
      extract (before ++ (finite parts).text ++ after) = some (finite parts)) ∧
    ∀ text v, extract text = some v → ∃ parts, v = .finite parts ∧ 2 ≤ parts.length := by
  refine ⟨fun parts before after hlength hparts hbefore hafter hlast => ?_,
    fun _ _ => exists_of_extract⟩
  have hne : parts ≠ [] := List.ne_nil_of_length_pos (by omega)
  have htrim := trimDots_toChars hne
  have hdot := dot_mem_toChars hlength
  rw [← htrim] at hdot
  have hfound := dottedRuns_around (fun _ => isDotted_of_mem_toChars) hdot hbefore hafter hlast
  rw [extract, String.toList_append, String.toList_append, text, String.toList_ofList, hfound,
    Option.bind_some, htrim]
  exact ofTrimmed?_eq_some_iff.2 (spells_toChars ⟨hne, hparts⟩)

/-- A banner with another version in front and runs behind that have no dot inside. -/
theorem extract_written_banner :
    2 ≤ [4, 2, 1, 0].length ∧ (∀ n ∈ [4, 2, 1, 0], n < 2 ^ 64) ∧
      Text.Stops isDotted "5.7.25-OceanBase_CE-v".toList.reverse ∧
      Text.Stops isDotted "-rc2. (built 2024.)".toList ∧
      (∀ run, Text.IsRun isDotted run "-rc2. (built 2024.)".toList → '.' ∉ trimDots run) ∧
      extract ("5.7.25-OceanBase_CE-v" ++ (finite [4, 2, 1, 0]).text ++ "-rc2. (built 2024.)") =
        some (finite [4, 2, 1, 0]) := by
  have hlength : 2 ≤ [4, 2, 1, 0].length := by decide
  have hparts : ∀ n ∈ [4, 2, 1, 0], n < 2 ^ 64 := by decide
  have hbefore : Text.Stops isDotted "5.7.25-OceanBase_CE-v".toList.reverse := by decide_cbv
  have hafter : Text.Stops isDotted "-rc2. (built 2024.)".toList := by decide_cbv
  have hlast := dottedRuns_eq_nil_iff.1
    (by decide_cbv : dottedRuns "-rc2. (built 2024.)".toList = [])
  exact ⟨hlength, hparts, hbefore, hafter, hlast,
    extract_written.1 [4, 2, 1, 0] "5.7.25-OceanBase_CE-v" "-rc2. (built 2024.)" hlength hparts
      hbefore hafter hlast⟩

end Version

end Inspection
