import Inspection.Backend.Sysctl
import Inspection.Proofs.Shell.Words
import Inspection.Proofs.Template.Occurrences

/-!
# Backend — Names of parameters

The name of a parameter stands in a line for a shell without quotes, and what another node has
printed may be a part of it.  No text makes the line anything but one command of three words, of
which the name is the third (`read_sends`).  A name may start with a hyphen, though, and then the
command takes it for an option (`read_option`).
-/

namespace Inspection.Sysctl

open Shell (metacharacters IsPlain IsPlainLine IsCommandOf spaced)

/-- An ASCII letter or digit, `_`, `.`, `-` or `/`. -/
def IsNameCharacter (c : Char) : Prop := Template.IsNameCharacter c ∨ c = '/'

/-- The text may be sent as the name of a parameter. -/
structure IsNameText (s : String) : Prop where
  ne_empty : s ≠ ""
  characters : ∀ c ∈ s.toList, IsNameCharacter c

variable {c : Char} {s : String}

theorem isNameChar_iff : isNameChar c = true ↔ IsNameCharacter c := by
  rw [IsNameCharacter, ← Template.isNameChar_iff]
  simp only [isNameChar, Template.isNameChar, Bool.or_eq_true, beq_iff_eq]
  tauto

theorem isName_iff : isName s.toList = true ↔ IsNameText s := by
  simp only [isName, Bool.and_eq_true, Bool.not_eq_true', List.isEmpty_eq_false_iff, ne_eq,
    String.toList_eq_nil_iff, List.all_eq_true, isNameChar_iff]
  exact ⟨fun h => ⟨h.1, h.2⟩, fun h => ⟨h.1, h.2⟩⟩

namespace IsNameCharacter

theorem toNat_lt (h : IsNameCharacter c) : c.toNat < 128 := by
  obtain h | rfl := h
  · exact Nat.lt_of_le_of_lt h.toNat_mem.2 (by decide)
  · decide

theorem isBlank_eq_false (h : IsNameCharacter c) : Text.isBlank c = false := by
  obtain h | rfl := h
  · exact h.isBlank_eq_false
  · decide

theorem notMem_metacharacters (h : IsNameCharacter c) : c ∉ metacharacters := by
  have hall : metacharacters.all (!isNameChar ·) = true := by decide_cbv
  intro hc
  simpa [isNameChar_iff.2 h] using List.all_eq_true.1 hall c hc

end IsNameCharacter

namespace IsNameText

theorem isPlain (h : IsNameText s) : IsPlain s.toList where
  ne_nil := by simpa using h.ne_empty
  notMem c hc := (h.characters c hc).notMem_metacharacters

/-- The line is the command with a name as its last word. -/
theorem isCommandOf (h : IsNameText s) : IsCommandOf (command s) ["sysctl", "-n", s] := by
  -- the two words in front consist of such characters too
  have hwords : ∀ t ∈ ["sysctl", "-n", s], IsNameText t := by
    simp only [List.forall_mem_cons, List.not_mem_nil, false_implies, implies_true, and_true]
    exact ⟨isName_iff.1 (by decide_cbv), isName_iff.1 (by decide_cbv), h⟩
  have hline : IsPlainLine "sysctl".toList ["-n".toList, s.toList] :=
    { first := (hwords "sysctl" (by simp)).isPlain
      notKeyword := by decide_cbv
      others := by
        rw [show ["-n".toList, s.toList] = ["-n", s].map String.toList from rfl]
        rintro _ hv
        obtain ⟨t, ht, rfl⟩ := List.mem_map.1 hv
        exact (hwords t (List.mem_cons_of_mem _ ht)).isPlain }
  have hascii : ∀ v ∈ ["sysctl", "-n", s].map String.toList, ∀ c ∈ v, c.toNat < 128 := by
    rintro _ hv c hc
    obtain ⟨t, ht, rfl⟩ := List.mem_map.1 hv
    exact ((hwords t ht).characters c hc).toNat_lt
  have hcommand : command s =
      String.ofList ("sysctl".toList ++ spaced ["-n".toList, s.toList]) := by
    rw [← String.toList_inj, command, String.toList_append, String.toList_ofList]
    simp [spaced]
  rw [hcommand]
  simpa using Shell.isCommandOf_plain hline hascii

end IsNameText

theorem calls_bind_silent {α β : Type} (t : Traced α) (f : α → Reply β) :
    (t >>= fun a => .silent (f a)).calls = t.calls := by
  change (t.bind fun a => .silent (f a)).calls = t.calls
  rw [Traced.bind]
  cases t.reply with
  | ok a => exact List.append_nil _
  | failed | panicked => rfl

/-- A step that asks for a parameter sends what its command sends as a name. -/
theorem calls_probe {b : Backends} (hb : b.parameter = read b.shell) (node : Node) (raw : String) :
    b.calls node (.probe .systemParameter raw) = (read b.shell node raw).calls := by
  have htrim : read b.shell node (Text.trimmed raw) = read b.shell node raw := by
    rw [read, read, Text.trimmed_trimmed]
  have hcalls := calls_bind_silent (read b.shell node raw) fun output => .ok (Text.trimmed output)
  rw [← hcalls, ← htrim, ← hb]
  rfl

/-- **What is sent to read a parameter.**  Either the text, trimmed, is a name, and one line is
sent: to every shell it is a single command, and the name is its third word as it stands.  Or it is
not, and nothing is sent.  A step that asks for a parameter sends the same for its command.  A name
may start with a hyphen. -/
theorem read_sends (shell : Node → String → Reply CommandOutput) (node : Node) (raw : String) :
    let name := Text.trimmed raw
    (IsNameText name ∧ (read shell node raw).calls = [.shell ("sysctl -n " ++ name)] ∧
        (∀ c ∈ name.toList, Text.isBlank c = false ∧ c ∉ metacharacters) ∧
        IsCommandOf ("sysctl -n " ++ name) ["sysctl", "-n", name] ∨
      ¬IsNameText name ∧ read shell node raw =
        .silent (.failed (.query ("invalid system parameter name '" ++ name ++ "'")))) ∧
    ∀ query, Backends.calls { shell, query, parameter := read shell } node
      (.probe .systemParameter raw) = (read shell node raw).calls := by
  intro name
  refine ⟨?_, fun query => calls_probe rfl node raw⟩
  by_cases h : IsNameText name
  · refine .inl ⟨h, ?_, fun c hc => ?_, h.isCommandOf⟩
    · rw [read, if_pos (isName_iff.2 h), calls_bind_silent]
      rfl
    · exact ⟨(h.characters c hc).isBlank_eq_false, (h.characters c hc).notMem_metacharacters⟩
  · exact .inr ⟨h, if_neg (mt isName_iff.1 h)⟩

/-- An option is sent as the name of a parameter. -/
theorem read_option :
    (read (fun _ _ => .ok {}) { id := "n", host := "h" } "--system").calls =
        [.shell "sysctl -n --system"] ∧
      IsCommandOf "sysctl -n --system" ["sysctl", "-n", "--system"] := by
  have hline : command "--system" = "sysctl -n --system" := by decide_cbv
  have hname : IsNameText "--system" := isName_iff.1 (by decide_cbv)
  exact ⟨by cbv, hline ▸ hname.isCommandOf⟩

end Inspection.Sysctl
