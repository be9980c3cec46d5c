import Inspection.Proofs.Decimal.Integers
import Inspection.Proofs.Except
import Inspection.Proofs.Text.Runs
import Inspection.Version.Range

/-!
# Version — The texts of versions and ranges

A version is written as numbers with dots between them, or as the word `latest`; a range as two
bounds in brackets with a comma between them.  Blanks do not count around the whole, around a number
or around a bound, and nothing else may stand there.  These texts are read, as what they say, and a
text that is none of them is refused whole: the error has the text and no version comes of a part.

* `Version.Spells`, `VersionRange.Spells`: the texts of a version and of a range.
* `Version.parse_eq_ok_iff`, `VersionRange.parse_eq_ok_iff`: what is read from a text.
* `VersionRange.parse_ordered`: the lower of two versions comes first.
* `VersionRange.parse_spells`: this, and what is said of every other text.
-/

namespace Inspection

namespace Version

/-- One or more digits that come to the number. -/
structure SpellsDigits (s : List Char) (n : Nat) : Prop where
  ne_nil : s ≠ []
  isDigit : ∀ c ∈ s, c.isDigit = true
  value : Nat.ofDigitChars 10 s 0 = n

/-- A component: a number of 64 bits in digits, after one `+` or none. -/
inductive SpellsComponent : List Char → Nat → Prop where
  | plain {s : List Char} {n : Nat} (digits : SpellsDigits s n) (bound : n < 2 ^ 64) :
      SpellsComponent s n
  | plus {s : List Char} {n : Nat} (digits : SpellsDigits s n) (bound : n < 2 ^ 64) :
      SpellsComponent ('+' :: s) n

/-- A version: the word in letters of either case, or components with a dot between each two and
blanks around any of them. -/
inductive Spells : List Char → Version → Prop where
  | latest {s : List Char}
      (letters : List.Forall₂ (fun c letter => c = letter ∨ c = letter.toUpper) s latestWord) :
      Spells s .latest
  | finite {pieces : List (List Char)} {parts : List Nat} (ne_nil : pieces ≠ [])
      (components :
        List.Forall₂ (fun piece n => SpellsComponent (Text.trim piece) n) pieces parts) :
      Spells (Text.joinWith ['.'] pieces) (.finite parts)

end Version

/-- A bound: the star, or a version. -/
inductive Bound.Spells : List Char → Bound → Prop where
  | unbounded : Spells ['*'] .unbounded
  | at {s : List Char} {v : Version} (version : v.Spells s) : Spells s (.at v)

/-- A range: two bounds in brackets with the only comma between them, blanks around any of them, of
which the lower one is not above the upper one. -/
inductive VersionRange.Spells : List Char → VersionRange → Prop where
  | mk {lower upper : List Char} {low high : Bound} (lower_comma : ',' ∉ lower)
      (upper_comma : ',' ∉ upper) (lower_bound : low.Spells (Text.trim lower))
      (upper_bound : high.Spells (Text.trim upper))
      (ordered : ∀ v w, low = .at v → high = .at w → v.order w ≠ .gt) :
      Spells ('[' :: (lower ++ ',' :: upper) ++ [']']) ⟨low, high⟩

/-! ### Letters -/

theorem toNat_toLower (c : Char) :
    c.toLower.toNat = if 65 ≤ c.toNat ∧ c.toNat ≤ 90 then c.toNat + 32 else c.toNat := by
  rw [Char.toLower]
  split
  · next h =>
    have hrange : 65 ≤ c.toNat ∧ c.toNat ≤ 90 := h
    rw [if_pos hrange]
    exact Nat.mod_eq_of_lt (show c.toNat + 32 < 2 ^ 32 by omega)
  · next h =>
    have hrange : ¬(65 ≤ c.toNat ∧ c.toNat ≤ 90) := h
    rw [if_neg hrange]

theorem toNat_toUpper (c : Char) :
    c.toUpper.toNat = if 97 ≤ c.toNat ∧ c.toNat ≤ 122 then c.toNat - 32 else c.toNat := by
  rw [Char.toUpper]
  split
  · next h =>
    have hrange : 97 ≤ c.toNat ∧ c.toNat ≤ 122 := h
    have hshift : ('A'.val - 'a'.val).toNat = 4294967264 := by decide
    have hsum : (c.val + ('A'.val - 'a'.val)).toNat = (c.toNat + 4294967264) % 4294967296 := by
      rw [UInt32.toNat_add, hshift]
      rfl
    rw [if_pos hrange]
    refine hsum.trans ?_
    omega
  · next h =>
    have hrange : ¬(97 ≤ c.toNat ∧ c.toNat ≤ 122) := h
    rw [if_neg hrange]

theorem toLower_eq_iff {c letter : Char} (h : letter.isLower = true) :
    c.toLower = letter ↔ c = letter ∨ c = letter.toUpper := by
  have hrange : 97 ≤ letter.toNat ∧ letter.toNat ≤ 122 := by
    rw [Char.isLower, Bool.and_eq_true, decide_eq_true_eq, decide_eq_true_eq] at h
    exact h
  rw [← Char.toNat_inj, ← Char.toNat_inj, ← Char.toNat_inj, toNat_toLower, toNat_toUpper,
    if_pos hrange]
  split <;> omega

theorem map_toLower_eq_iff {s word : List Char} (h : ∀ letter ∈ word, letter.isLower = true) :
    s.map Char.toLower = word ↔
      List.Forall₂ (fun c letter => c = letter ∨ c = letter.toUpper) s word := by
  induction word generalizing s with
  | nil => simp
  | cons letter word ih =>
    obtain ⟨hletter, hword⟩ := List.forall_mem_cons.1 h
    cases s with
    | nil => simp
    | cons c s => simp [toLower_eq_iff hletter, ih hword]

namespace Version

variable {s piece : List Char} {parts : List Nat} {n : Nat} {v : Version} {raw : String} {c : Char}

/-! ### Components -/

theorem ofDigits?_eq_some_iff : Text.ofDigits? s = some n ↔ SpellsDigits s n := by
  rw [Decimal.ofDigits?_eq_some_iff]
  exact ⟨fun ⟨hne, hdigits, hvalue⟩ => ⟨hne, hdigits, hvalue⟩,
    fun h => ⟨h.ne_nil, h.isDigit, h.value⟩⟩

theorem SpellsComponent.mem (h : SpellsComponent s n) (hc : c ∈ s) :
    c.isDigit = true ∨ c = '+' := by
  cases h with
  | plain digits => exact .inl (digits.isDigit c hc)
  | plus digits =>
    obtain rfl | hc := List.mem_cons.1 hc
    · exact .inr rfl
    · exact .inl (digits.isDigit c hc)

theorem SpellsComponent.lt (h : SpellsComponent s n) : n < 2 ^ 64 := by
  cases h with
  | plain _ bound | plus _ bound => exact bound

theorem nat?_eq_some_iff : Text.nat? componentBound s = some n ↔ SpellsComponent s n := by
  simp only [Text.nat?, Option.filter_eq_some_iff, ofDigits?_eq_some_iff, decide_eq_true_eq]
  constructor
  · rintro ⟨hdigits, hbound⟩
    split at hdigits
    · exact .plus hdigits hbound
    · exact .plain hdigits hbound
  · rintro (⟨digits, bound⟩ | ⟨digits, bound⟩)
    · split
      · exact absurd (digits.isDigit '+' (List.mem_cons_self ..)) (by decide)
      · exact ⟨digits, bound⟩
    · exact ⟨digits, bound⟩

theorem component?_eq_some_iff :
    component? piece = some n ↔ SpellsComponent (Text.trim piece) n := nat?_eq_some_iff

/-- What stands in a piece around which blanks may stand. -/
theorem SpellsComponent.mem_of_trim (h : SpellsComponent (Text.trim piece) n) (hc : c ∈ piece) :
    c.isDigit = true ∨ c = '+' ∨ Text.isBlank c = true := by
  obtain hblank | hmem := (Text.padded_trim piece).of_mem hc
  · exact .inr (.inr hblank)
  · exact (h.mem hmem).imp_right .inl

theorem SpellsComponent.dot_not_mem (h : SpellsComponent (Text.trim piece) n) : '.' ∉ piece := by
  intro hdot
  have hblank := Text.isBlank_eq_false (c := '.') (by decide) (by decide)
  simpa [hblank] using h.mem_of_trim hdot

/-! ### Versions -/

theorem Spells.mem (h : (Version.finite parts).Spells s) (hc : c ∈ s) :
    c.isDigit = true ∨ c = '.' ∨ c = '+' ∨ Text.isBlank c = true := by
  cases h with
  | finite _ components =>
    obtain hdot | ⟨piece, hpiece, hc⟩ := Text.mem_joinWith hc
    · exact .inr (.inl (List.mem_singleton.1 hdot))
    · obtain ⟨n, -, hn⟩ := exists_of_forall₂_left components hpiece
      exact (hn.mem_of_trim hc).imp_right .inr

/-- No word is a list of numbers: no letter stands in one. -/
theorem Spells.map_toLower_ne (h : (Version.finite parts).Spells s) :
    s.map Char.toLower ≠ latestWord := by
  intro hword
  have hl : 'l' ∈ s.map Char.toLower := hword ▸ List.mem_cons_self ..
  obtain ⟨c, hc, hlower⟩ := List.mem_map.1 hl
  have hcode : c.toNat = 108 ∨ c.toNat = 76 := by
    have hl : c.toLower.toNat = 108 := by rw [hlower]; rfl
    rw [toNat_toLower] at hl
    split at hl <;> omega
  obtain hdigit | rfl | rfl | hblank := h.mem hc
  · have := Decimal.isDigit_iff.1 hdigit
    omega
  · exact absurd hlower (by decide)
  · exact absurd hlower (by decide)
  · rw [Text.isBlank_eq_false (by omega) (by omega)] at hblank
    cases hblank

theorem ofTrimmed?_eq_some_iff : ofTrimmed? s = some v ↔ v.Spells s := by
  have hlower : ∀ letter ∈ latestWord, letter.isLower = true := List.all_eq_true.1 rfl
  have hword := map_toLower_eq_iff (s := s) hlower
  constructor
  · intro h
    rw [ofTrimmed?] at h
    split at h
    · next hlatest =>
      obtain rfl := Option.some.inj h
      exact .latest (hword.1 hlatest)
    · obtain ⟨parts, hparts, rfl⟩ := Option.map_eq_some_iff.1 h
      have hspells := Spells.finite (Text.splitAll_ne_nil _ s)
        ((mapM_eq_some_iff.1 hparts).imp fun _ _ => component?_eq_some_iff.1)
      rwa [Text.joinWith_splitAll] at hspells
  · intro h
    cases v with
    | latest =>
      obtain ⟨letters⟩ := h
      rw [ofTrimmed?, if_pos (hword.2 letters)]
    | finite parts =>
      rw [ofTrimmed?, if_neg h.map_toLower_ne]
      obtain _ | @⟨pieces, _, ne_nil, components⟩ := h
      have hpieces : ∀ piece ∈ pieces, '.' ∉ piece := fun piece hpiece => by
        obtain ⟨n, -, hn⟩ := exists_of_forall₂_left components hpiece
        exact hn.dot_not_mem
      rw [Text.splitAll_joinWith ne_nil hpieces,
        mapM_eq_some_iff.2 (components.imp fun _ _ => component?_eq_some_iff.2), Option.map_some]

/-- **What is read from a text as a version** is what the text says, blanks around it apart. -/
theorem parse_eq_ok_iff : parse raw = .ok v ↔ v.Spells (Text.trim raw.toList) := by
  rw [← ofTrimmed?_eq_some_iff, parse]
  split <;> simp [*]

/-- A sign, blanks and zeros in front do not count, and the largest component is read. -/
example : parse " +4. 018446744073709551615\n" = .ok (.finite [4, 18446744073709551615]) := by
  decide_cbv

theorem parse_eq_error_iff {e : VersionError} :
    parse raw = .error e ↔
      e = .invalidVersion (Text.trimmed raw) ∧ ¬∃ v : Version, v.Spells (Text.trim raw.toList) := by
  simp only [← ofTrimmed?_eq_some_iff, parse]
  split <;> simp [*, eq_comm]

end Version

variable {s inner lower upper : List Char} {b low high : Bound} {r : VersionRange} {raw : String}

theorem Bound.ofTrimmed?_eq_some_iff : ofTrimmed? s = some b ↔ b.Spells s := by
  constructor
  · intro h
    rw [ofTrimmed?] at h
    split at h
    · next hstar =>
      obtain rfl := Option.some.inj h
      exact hstar ▸ .unbounded
    · obtain ⟨v, hv, rfl⟩ := Option.map_eq_some_iff.1 h
      exact .at (Version.ofTrimmed?_eq_some_iff.1 hv)
  · intro h
    cases h with
    | unbounded => rfl
    | «at» version =>
      have hread := Version.ofTrimmed?_eq_some_iff.2 version
      have hstar : s ≠ ['*'] := by
        rintro rfl
        cases hread
      rw [ofTrimmed?, if_neg hstar, hread, Option.map_some]

namespace VersionRange

/-! ### Ranges -/

theorem Spells.ordered (h : r.Spells s) :
    ∀ v w, r.lower = .at v → r.upper = .at w → v.order w ≠ .gt := by
  obtain ⟨-, -, -, -, hordered⟩ := h
  exact hordered

theorem isInverted_eq_false_iff :
    (mk low high).isInverted = false ↔
      ∀ v w, low = .at v → high = .at w → v.order w ≠ .gt := by
  cases low with
  | unbounded => simp [isInverted]
  | «at» v =>
    cases high with
    | unbounded => simp [isInverted]
    | «at» w => simp [isInverted, Version.atMost]

/-- What stands between the brackets. -/
theorem inner?_eq_some_iff : inner? s = some inner ↔ s = '[' :: inner ++ [']'] := by
  simp only [inner?, Option.bind_eq_some_iff, Text.dropHead?_eq_some_iff,
    Text.dropTail?_eq_some_iff]
  exact ⟨fun ⟨_, hs, hrest⟩ => by rw [hs, hrest]; rfl, fun hs => ⟨_, hs, rfl⟩⟩

/-- One comma makes two sides. -/
theorem splitAll_comma_eq_iff :
    Text.splitAll (· == ',') inner = [lower, upper] ↔
      inner = lower ++ ',' :: upper ∧ ',' ∉ lower ∧ ',' ∉ upper := by
  rw [Text.splitAll_eq_iff]
  simp [Text.joinWith]

theorem ofInner_eq_ok_iff : ofInner inner = .ok r ↔ r.Spells ('[' :: inner ++ [']']) := by
  constructor
  · intro h
    rw [ofInner] at h
    split at h
    · next lower upper hsides =>
      obtain ⟨l, _, hpieces, rfl, hrest⟩ := List.map_eq_cons_iff.1 hsides
      obtain ⟨u, rfl, rfl⟩ := List.map_eq_singleton_iff.1 hrest
      obtain ⟨rfl, hl, hu⟩ := splitAll_comma_eq_iff.1 hpieces
      split at h
      · cases h
      · cases h
      · next hlow hhigh =>
        split at h
        · cases h
        · next hordered =>
          obtain rfl := Except.ok.inj h
          exact .mk hl hu (Bound.ofTrimmed?_eq_some_iff.1 hlow)
            (Bound.ofTrimmed?_eq_some_iff.1 hhigh)
            (isInverted_eq_false_iff.1 (Bool.eq_false_iff.2 hordered))
    · cases h
  · intro h
    generalize hs : '[' :: inner ++ [']'] = s at h
    obtain @⟨l, u, low, high, hl, hu, hlow, hhigh, hordered⟩ := h
    obtain rfl : inner = l ++ ',' :: u := List.append_cancel_right (List.cons.inj hs).2
    have hsides : (Text.splitAll (· == ',') (l ++ ',' :: u)).map Text.trim =
        [Text.trim l, Text.trim u] := by
      rw [splitAll_comma_eq_iff.2 ⟨rfl, hl, hu⟩]
      rfl
    have hkept : (mk low high).isInverted = false := isInverted_eq_false_iff.2 hordered
    simp only [ofInner, hsides, Bound.ofTrimmed?_eq_some_iff.2 hlow,
      Bound.ofTrimmed?_eq_some_iff.2 hhigh, hkept, Bool.false_eq_true, if_false]

/-- **What is read from a text as a range** is what the text says, blanks around it apart. -/
theorem parse_eq_ok_iff : parse raw = .ok r ↔ r.Spells (Text.trim raw.toList) := by
  rw [parse]
  cases hinner : inner? (Text.trim raw.toList) with
  | none =>
    refine ⟨fun h => ?_, fun h => ?_⟩
    · cases h
    · generalize Text.trim raw.toList = s at h hinner
      obtain ⟨-, -, -, -, -⟩ := h
      rw [inner?_eq_some_iff.2 rfl] at hinner
      cases hinner
  | some inner =>
    rw [inner?_eq_some_iff.1 hinner, ← ofInner_eq_ok_iff]
    exact ⟨mapError_eq_ok, congrArg (Except.mapError (VersionError.malformedRange raw))⟩

/-- **The bounds of a range that has been read are the right way round.** -/
theorem parse_ordered {v w : Version} (h : parse raw = .ok ⟨.at v, .at w⟩) :
    v.atMost w = true := by
  have hordered := (parse_eq_ok_iff.1 h).ordered v w rfl rfl
  simpa [Version.atMost] using hordered

/-- Every error about a text has the text, whatever its fault is. -/
theorem exists_fault {e : VersionError} (h : parse raw = .error e) :
    ∃ fault, e = .malformedRange raw fault := by
  obtain ⟨fault, -, rfl⟩ := mapError_eq_error h
  exact ⟨fault, rfl⟩

theorem parse_eq_error_iff :
    (∃ fault, parse raw = .error (.malformedRange raw fault)) ↔
      ¬∃ r : VersionRange, r.Spells (Text.trim raw.toList) := by
  simp only [← parse_eq_ok_iff]
  cases h : parse raw with
  | ok r => simp
  | error e =>
    obtain ⟨fault, rfl⟩ := exists_fault h
    simp

/-- **The texts that are read as versions and as ranges** are those that spell one, and what is read
is what they spell.  Every other text is refused, with the trimmed text as a version and with the
text as it is as a range. -/
theorem parse_spells (raw : String) :
    (∀ v, Version.parse raw = .ok v ↔ v.Spells (Text.trim raw.toList)) ∧
    (∀ e, Version.parse raw = .error e ↔ e = .invalidVersion (Text.trimmed raw) ∧
      ¬∃ v : Version, v.Spells (Text.trim raw.toList)) ∧
    (∀ r, VersionRange.parse raw = .ok r ↔ r.Spells (Text.trim raw.toList)) ∧
    ((∃ fault, VersionRange.parse raw = .error (.malformedRange raw fault)) ↔
      ¬∃ r : VersionRange, r.Spells (Text.trim raw.toList)) :=
  ⟨fun _ => Version.parse_eq_ok_iff, fun _ => Version.parse_eq_error_iff, fun _ => parse_eq_ok_iff,
    parse_eq_error_iff⟩

end VersionRange

end Inspection
