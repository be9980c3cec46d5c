import Inspection.CommandLine.Assignment
import Inspection.Proofs.Template.Reference

/-!
# CommandLine — What an assignment says

An assignment is cut at its first equals sign, so its name has none and its value may have any
number of them.  Blanks around the two do not count, and neither does one pair of matching quotes
around the value.  A value between quotes therefore comes out as it was put in, blanks and quotes of
its own included.  The names that are accepted are those that placeholders can have, so what is
accepted can be referred to.

* `Spells`: what a text has to look like to give a name a value.
* `parse_eq_ok_iff`, `isOk_parse_iff`: which texts are accepted, and with what.
* `parse_binds`: a quoted value is given as it is, and a reference gives it back.
-/

namespace Inspection.Assignment

open Template (IsNameCharacter isName isName_iff reference)
open Text (Padded Stops isBlank)

/-- A double or a single quote. -/
inductive IsQuote : Char → Prop where
  | double : IsQuote '"'
  | single : IsQuote '\''

/-- A text between two quotes. -/
def quoted (quote : Char) (value : String) : String :=
  String.singleton quote ++ value ++ String.singleton quote

/-- A name of a variable: it is not empty and has ASCII letters, digits, `_`, `.` and `-`. -/
structure IsVariable (name : String) : Prop where
  ne : name ≠ ""
  chars : ∀ c ∈ name.toList, IsNameCharacter c

/-- A text, and what is left of it without one pair of matching quotes around it. -/
inductive Unquoted : List Char → List Char → Prop where
  | quoted {quote : Char} (hquote : IsQuote quote) (s : List Char) :
      Unquoted (quote :: (s ++ [quote])) s
  | bare {s : List Char} (h : ∀ quote inside, IsQuote quote → s ≠ quote :: (inside ++ [quote])) :
      Unquoted s s

/-- The texts that give a name a value. -/
inductive Spells (name value : String) : String → Prop where
  | mk {before after : String} (hfirst : '=' ∉ before.toList)
      (hbefore : Padded isBlank name.toList before.toList) (hname : IsVariable name)
      (hafter : Unquoted (Text.trim after.toList) value.toList) :
      Spells name value (before ++ "=" ++ after)

variable {raw name value before after : String} {quote : Char} {s t key rest : List Char}

/-! ### Names and quotes -/

theorem isName_iff_isVariable : isName name.toList = true ↔ IsVariable name := by
  rw [isName_iff]
  constructor
  · rintro ⟨hne, hchars⟩
    exact ⟨fun h => hne (h ▸ rfl), hchars⟩
  · rintro ⟨hne, hchars⟩
    exact ⟨fun h => hne (String.toList_inj.1 h), hchars⟩

theorem IsVariable.trimmed_eq (h : IsVariable name) : Text.trimmed name = name := by
  rw [Text.trimmed, Text.trim_of_forall fun c hc => (h.chars c hc).isBlank_eq_false,
    String.ofList_toList]

theorem IsVariable.notMem_equals (h : IsVariable name) : '=' ∉ name.toList := fun hmem => by
  have hchar := h.chars '=' hmem
  simp [IsNameCharacter, Char.le_def] at hchar

theorem IsQuote.isBlank_eq_false (h : IsQuote quote) : isBlank quote = false := by
  cases h <;> decide

theorem within?_eq_some_iff : within? quote s = some t ↔ s = quote :: (t ++ [quote]) := by
  simp only [within?, Option.bind_eq_some_iff, Text.dropHead?_eq_some_iff,
    Text.dropTail?_eq_some_iff, exists_eq_right, List.singleton_append]

/-- **Dropping quotes** drops one pair, of the one sort or of the other. -/
theorem unquote_eq_iff : unquote s = t ↔ Unquoted s t := by
  constructor
  · rintro rfl
    rw [unquote]
    cases hdouble : within? '"' s with
    | some inside =>
      rw [within?_eq_some_iff.1 hdouble]
      exact .quoted .double inside
    | none =>
      cases hsingle : within? '\'' s with
      | some inside =>
        rw [within?_eq_some_iff.1 hsingle]
        exact .quoted .single inside
      | none =>
        refine .bare fun quote inside hquote hs => ?_
        cases hquote with
        | double => rw [within?_eq_some_iff.2 hs] at hdouble; cases hdouble
        | single => rw [within?_eq_some_iff.2 hs] at hsingle; cases hsingle
  · intro h
    cases h with
    | @quoted quote hquote =>
      have hinside : within? quote (quote :: (t ++ [quote])) = some t := within?_eq_some_iff.2 rfl
      cases hquote with
      | double => rw [unquote, hinside, Option.some_or, Option.getD_some]
      | single =>
        -- the other sort of quotes is looked for first
        have hother : within? '"' ('\'' :: (t ++ ['\''])) = none := rfl
        rw [unquote, hother, Option.none_or, hinside, Option.getD_some]
    | bare h =>
      have hnone {quote : Char} (hquote : IsQuote quote) : within? quote s = none :=
        Option.eq_none_iff_forall_ne_some.2 fun inside hinside =>
          h quote inside hquote (within?_eq_some_iff.1 hinside)
      rw [unquote, hnone .double, hnone .single, Option.none_or, Option.getD_none]

theorem trim_quoted (hquote : IsQuote quote) (value : String) :
    Text.trim (quoted quote value).toList = quote :: (value.toList ++ [quote]) := by
  have hchars : (quoted quote value).toList = quote :: (value.toList ++ [quote]) := by
    simp [quoted]
  rw [hchars]
  refine Text.trim_eq_self hquote.isBlank_eq_false ?_
  rw [List.reverse_cons, List.reverse_append]
  exact hquote.isBlank_eq_false

/-! ### What is accepted -/

theorem splitFirst?_equals_iff :
    Text.splitFirst? (· == '=') raw.toList = some (key, rest) ↔
      raw = String.ofList key ++ "=" ++ String.ofList rest ∧ '=' ∉ key := by
  have hraw : raw = String.ofList key ++ "=" ++ String.ofList rest ↔
      raw.toList = key ++ '=' :: rest := by
    rw [← String.toList_inj]
    simp
  rw [Text.splitFirst?_eq_some_iff, hraw]
  constructor
  · rintro ⟨c, hc, heq, hkey⟩
    obtain rfl : c = '=' := eq_of_beq hc
    exact ⟨heq, fun hmem => by simpa using hkey _ hmem⟩
  · rintro ⟨heq, hkey⟩
    exact ⟨'=', rfl, heq, Text.beq_false_of_not_mem hkey⟩

/-- **What a text gives**: the name in front of its first equals sign, and the value behind it. -/
theorem parse_eq_ok_iff : parse raw = .ok (name, value) ↔ Spells name value raw := by
  constructor
  · intro h
    rw [parse] at h
    split at h
    · cases h
    · rename_i key rest hsplit
      obtain ⟨rfl, hkey⟩ := splitFirst?_equals_iff.1 hsplit
      simp only at h
      split at h
      · rename_i hname
        obtain ⟨rfl, rfl⟩ := Prod.mk.inj (Except.ok.inj h)
        refine .mk (by simpa using hkey) ?_ (isName_iff_isVariable.1 (by simpa using hname)) ?_
        · simpa using Text.padded_trim key
        · simpa using unquote_eq_iff.1 rfl
      · cases h
  · rintro @⟨before, after, hfirst, hbefore, hname, hafter⟩
    have hsplit : Text.splitFirst? (· == '=') (before ++ "=" ++ after).toList =
        some (before.toList, after.toList) :=
      splitFirst?_equals_iff.2 ⟨by simp, hfirst⟩
    have htrim : Text.trim before.toList = name.toList := by
      rw [Text.trim_padded hbefore,
        Text.trim_of_forall fun c hc => (hname.chars c hc).isBlank_eq_false]
    simp only [parse, hsplit, htrim, isName_iff_isVariable.2 hname, if_true,
      unquote_eq_iff.2 hafter, String.ofList_toList]

/-- **Which texts are accepted**: those with an equals sign and, in front of the first one, a name
with blanks around it.  No value is refused. -/
theorem isOk_parse_iff :
    (∃ given, parse raw = .ok given) ↔
      ∃ before after, raw = before ++ "=" ++ after ∧ '=' ∉ before.toList ∧
        IsVariable (Text.trimmed before) := by
  constructor
  · rintro ⟨⟨name, value⟩, h⟩
    obtain ⟨hfirst, hbefore, hname, -⟩ := parse_eq_ok_iff.1 h
    exact ⟨_, _, rfl, hfirst, by rwa [Text.trimmed_padded hbefore, hname.trimmed_eq]⟩
  · rintro ⟨before, after, rfl, hfirst, hname⟩
    have hafter : Unquoted (Text.trim after.toList)
        (String.ofList (unquote (Text.trim after.toList))).toList := by
      rw [String.toList_ofList]
      exact unquote_eq_iff.1 rfl
    exact ⟨_, parse_eq_ok_iff.2 (.mk hfirst (Text.padded_trimmed before) hname hafter)⟩

/-- A value between quotes is given as it is, whatever characters it has. -/
theorem spells_quoted (hname : IsVariable name) (hquote : IsQuote quote) (value : String) :
    Spells name value (name ++ "=" ++ quoted quote value) := by
  refine .mk hname.notMem_equals (.refl isBlank name.toList) hname ?_
  rw [trim_quoted hquote]
  exact .quoted hquote value.toList

/-! ### What is bound -/

/-- **An assignment gives a name that can be referred to, and a quoted value as it is.**  A value
between two quotes of one sort is given unchanged, with its blanks, breaks, equals signs and quotes.
A text is accepted exactly if there is a name in front of its first equals sign, and gives what
`Spells` says.  Once the name has been bound to the value, a reference to it gives way to the value
wherever it stands; alone it gives nothing but the value. -/
theorem parse_binds :
    (∀ name value quote, IsVariable name → IsQuote quote →
      parse (name ++ "=" ++ quoted quote value) = .ok (name, value)) ∧
    (∀ raw, (∃ given, parse raw = .ok given) ↔
      ∃ before after, raw = before ++ "=" ++ after ∧ '=' ∉ before.toList ∧
        IsVariable (Text.trimmed before)) ∧
    (∀ raw name value, parse raw = .ok (name, value) ↔ Spells name value raw) ∧
    ∀ raw name value, parse raw = .ok (name, value) → ∀ vars : Bindings,
      (vars.bind name value).substitute (reference name) = .ok value ∧
      ∀ template, (vars.bind name value).Replaces template name value := by
  refine ⟨fun name value quote hname hquote => parse_eq_ok_iff.2 (spells_quoted hname hquote value),
    fun raw => isOk_parse_iff, fun raw name value => parse_eq_ok_iff,
    fun raw name value h vars => ?_⟩
  obtain ⟨-, -, hname, -⟩ := parse_eq_ok_iff.1 h
  have hname := isName_iff_isVariable.2 hname
  have hvalue := Bindings.get?_bind_self vars name value
  exact ⟨Bindings.substitute_reference hname hvalue, Bindings.replaces_of_isName hname hvalue⟩

/-- A value with quotes, equals signs and blanks of its own. -/
theorem parse_binds_sample :
    IsVariable "data-dir_2" ∧ IsQuote '"' ∧
      parse "data-dir_2=\"\t' a=\" \"\n\"" = .ok ("data-dir_2", "\t' a=\" \"\n") ∧
      (Bindings.empty.bind "data-dir_2" "\t' a=\" \"\n").substitute "#\x7bdata-dir_2\x7d" =
        .ok "\t' a=\" \"\n" := by
  have hname : IsVariable "data-dir_2" := isName_iff_isVariable.1 (by decide)
  obtain ⟨hquoted, -, -, hbinds⟩ := parse_binds
  have hparse := hquoted "data-dir_2" "\t' a=\" \"\n" '"' hname .double
  exact ⟨hname, .double, hparse, (hbinds _ _ _ hparse .empty).1⟩

/-- Quotes that do not match stay. -/
example : parse " a = 'x\"" = .ok ("a", "'x\"") := by decide_cbv

end Inspection.Assignment
