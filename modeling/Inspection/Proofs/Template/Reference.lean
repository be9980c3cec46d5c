import Inspection.Proofs.Template.Substitution
import Inspection.Proofs.Text.Trimming

/-!
# Template — References to a name

Any text can be bound to a value, but only names of some characters can stand in placeholders.  A
reference to such a name gives way to its value wherever it stands.  A reference to any other name
is no placeholder: it stays in the text, and what is bound to that name is never looked at.

* `Template.reference`: the opening, the name and the closing.
* `Bindings.Replaces`: wherever a reference stands, what it gives way to.
* `Bindings.replaces_of_isName`, `Bindings.replaces_itself`: the two sorts of names.
-/

namespace Inspection

open Template

namespace Template

/-- A reference to a name: its opening, the name and its closing. -/
def reference (name : String) : String := "#\x7b" ++ name ++ "\x7d"

variable {s t u name : List Char} {c : Char}

theorem isPlaceholder_of_isName (h : isName name = true) :
    IsPlaceholder name ('#' :: '\x7b' :: (name ++ ['\x7d'])) := by
  obtain ⟨hne, hchars⟩ := isName_iff.1 h
  exact .mk (List.forall_mem_nil _) hne hchars (List.forall_mem_nil _)

/-! ### Texts that are no placeholder -/

theorem pieces_cons_of_none (h : placeholder? (c :: s) = none) :
    pieces (c :: s) = .literal c :: pieces s := by
  rw [pieces]
  split
  · rename_i hsome
    rw [h] at hsome
    cases hsome
  · rfl

/-- No placeholder starts at a character other than `#`. -/
theorem pieces_append_of_not_mem (h : '#' ∉ t) (s : List Char) :
    pieces (t ++ s) = t.map .literal ++ pieces s := by
  induction t with
  | nil => rfl
  | cons c t ih =>
    obtain ⟨hc, ht⟩ := List.ne_and_not_mem_of_not_mem_cons h
    have hnone : placeholder? (c :: (t ++ s)) = none := by
      unfold placeholder?
      split
      · rename_i heq
        exact absurd (List.cons.inj heq).1.symm hc
      · rfl
    rw [List.cons_append, pieces_cons_of_none hnone, ih ht]
    rfl

/-- No placeholder goes on over the start of the next one. -/
theorem placeholder?_append_of_none (hs : s ≠ []) (h : placeholder? s = none) :
    placeholder? (s ++ '#' :: u) = none := by
  rw [Option.eq_none_iff_forall_ne_some]
  rintro ⟨name, rest⟩ hsome
  obtain ⟨p, hp, heq⟩ := placeholder?_eq_some_iff.1 hsome
  obtain ⟨m, rfl, hm⟩ | ⟨m, rfl, -⟩ := List.append_eq_append_iff.1 heq
  · cases m with
    | nil =>
      rw [List.append_nil] at hp
      rw [placeholder?_eq_some_iff.2 ⟨s, hp, (List.append_nil s).symm⟩] at h
      cases h
    | cons d m =>
      -- the start of the next one would stand in the inside of the first
      obtain ⟨inside, hinside, hmem⟩ := hp.exists_inside
      obtain ⟨c, s, rfl⟩ := List.exists_cons_of_ne_nil hs
      obtain ⟨rfl, -⟩ := List.cons.inj hm
      obtain ⟨-, rfl⟩ := List.cons.inj hinside
      exact hmem (by simp)
  · rw [placeholder?_eq_some_iff.2 ⟨p, hp, rfl⟩] at h
    cases h

/-- Around a text that starts like a placeholder and is none, whatever follows, the text before it
and the text after it are cut on their own. -/
theorem pieces_append_of_none (before : List Char) (ht : '#' ∉ t)
    (hnone : ∀ after, placeholder? ('#' :: t ++ after) = none) (after : List Char) :
    pieces (before ++ ('#' :: t) ++ after) =
      pieces before ++ (('#' :: t).map .literal ++ pieces after) := by
  fun_induction pieces before with
  | case1 =>
    have hstart : placeholder? ('#' :: (t ++ after)) = none := hnone after
    rw [List.nil_append, List.nil_append, List.cons_append, pieces_cons_of_none hstart,
      pieces_append_of_not_mem ht]
    rfl
  | case2 c cs name rest h ih =>
    obtain ⟨p, hp, heq⟩ := placeholder?_eq_some_iff.1 h
    have htake : (c :: cs).take ((c :: cs).length - rest.length) = p := by
      rw [heq, List.length_append, Nat.add_sub_cancel, List.take_left]
    have hcut := pieces_append [] hp (rest ++ ('#' :: t) ++ after)
    rw [htake, heq, List.cons_append, ← ih]
    simpa [pieces, List.append_assoc] using hcut
  | case3 c cs h ih =>
    have hskip : placeholder? (c :: (cs ++ ('#' :: t) ++ after)) = none := by
      simpa using placeholder?_append_of_none (u := t ++ after) (List.cons_ne_nil c cs) h
    rw [List.cons_append, List.cons_append, pieces_cons_of_none hskip, ih]
    rfl

/-- A reference to a trimmed text that is no name is no placeholder.  The text has to hold no
closing, as a placeholder may end there. -/
theorem placeholder?_reference (hname : isName name = false) (htrim : Text.trim name = name)
    (hclosing : '\x7d' ∉ name) (after : List Char) :
    placeholder? ('#' :: '\x7b' :: (name ++ '\x7d' :: after)) = none := by
  rw [Option.eq_none_iff_forall_ne_some]
  rintro ⟨name', rest⟩ hsome
  obtain ⟨_, @⟨blanks, blanks', hblanks, hne, hchars, hblanks'⟩, heq⟩ :=
    placeholder?_eq_some_iff.1 hsome
  have hinside : name ++ '\x7d' :: after = (blanks ++ name' ++ blanks') ++ '\x7d' :: rest := by
    simpa using heq
  -- both insides end at the first closing
  have hnot : '\x7d' ∉ blanks ++ name' ++ blanks' := by
    simp only [List.mem_append, not_or]
    refine ⟨⟨fun hmem => ?_, fun hmem => ?_⟩, fun hmem => ?_⟩
    · exact absurd (hblanks _ hmem) (by decide)
    · exact absurd (hchars _ hmem).toNat_mem (by decide)
    · exact absurd (hblanks' _ hmem) (by decide)
  have huntil {s : List Char} (hs : '\x7d' ∉ s) (rest : List Char) :
      (s ++ '\x7d' :: rest).takeWhile (· != '\x7d') = s :=
    Text.takeWhile_append_of_stops
      (fun c hc => bne_iff_ne.2 fun heq : c = '\x7d' => hs (heq ▸ hc)) (Text.stops_cons.2 rfl)
  have hsame : name = blanks ++ name' ++ blanks' := by
    rw [← huntil hclosing after, hinside, huntil hnot rest]
  have hpadded : Text.Padded Text.isBlank name' name := hsame ▸ .mk hblanks hblanks'
  rw [Text.trim_padded hpadded, Text.trim_of_forall fun c hc => (hchars c hc).isBlank_eq_false]
    at htrim
  rw [← htrim, isName_iff.2 ⟨hne, hchars⟩] at hname
  cases hname

end Template

namespace Bindings

/-- Wherever a reference to the name stands in the template, it gives way to a text, and what stands
around it is replaced on its own. -/
def Replaces (vars : Bindings) (template name text : String) : Prop :=
  ∀ before after, template = before ++ reference name ++ after →
    vars.substitute template =
      around template name (vars.substitute before) (some text) (vars.substitute after)

variable {vars : Bindings} {template name value : String}

/-- A reference to a name gives way to its value. -/
theorem replaces_of_isName (hname : isName name.toList = true)
    (hvalue : vars.get? name = some value) (template : String) :
    vars.Replaces template name value := by
  rintro before after rfl
  have hgives := gives_get? vars (before ++ reference name ++ after) name before.toList _
    after.toList (isPlaceholder_of_isName hname) (by simp [reference])
  rwa [hvalue, String.ofList_toList, String.ofList_toList] at hgives

/-- A reference alone gives the value. -/
theorem substitute_reference (hname : isName name.toList = true)
    (hvalue : vars.get? name = some value) : vars.substitute (reference name) = .ok value := by
  have hempty : vars.substitute "" = .ok "" := by
    rw [substitute, String.toList_empty, pieces]
    rfl
  have halone := replaces_of_isName hname hvalue (reference name) "" "" (by simp)
  rw [halone, hempty, around, String.append_empty, String.empty_append]

theorem renderAll_literals (vars : Bindings) (s : List Char) :
    vars.renderAll (s.map .literal) = .ok s := by
  induction s with
  | nil => rfl
  | cons c s ih =>
    rw [List.map_cons, renderAll, ih]
    rfl

/-- A reference to a trimmed text that is no name stays in the template. -/
theorem replaces_itself (hname : isName name.toList = false)
    (htrim : Text.trimmed name = name) (hopening : '#' ∉ name.toList)
    (hclosing : '\x7d' ∉ name.toList) (vars : Bindings) (template : String) :
    vars.Replaces template name (reference name) := by
  rintro before after rfl
  have htrim : Text.trim name.toList = name.toList := by
    rw [← String.toList_ofList (l := Text.trim name.toList)]
    exact congrArg String.toList htrim
  have hinside : '#' ∉ '\x7b' :: (name.toList ++ ['\x7d']) := by simp [hopening]
  have hnone (after : List Char) :
      placeholder? ('#' :: ('\x7b' :: (name.toList ++ ['\x7d'])) ++ after) = none := by
    simpa using placeholder?_reference hname htrim hclosing after
  have htemplate : (before ++ reference name ++ after).toList =
      before.toList ++ ('#' :: ('\x7b' :: (name.toList ++ ['\x7d']))) ++ after.toList := by
    simp [reference]
  simp only [substitute, htemplate, pieces_append_of_none _ hinside hnone, renderAll_append,
    renderAll_literals]
  cases vars.renderAll (pieces before.toList) with
  | error first => rfl
  | ok start =>
    cases vars.renderAll (pieces after.toList) with
    | error first => rfl
    | ok rest =>
      have hreference : String.ofList ('#' :: ('\x7b' :: (name.toList ++ ['\x7d']))) =
          reference name := by
        rw [← String.toList_inj, String.toList_ofList, reference]
        simp
      simp only [around, Except.map, String.ofList_append, hreference, String.append_assoc]

/-- What is bound to a text that is no name makes no difference. -/
theorem substitute_bind (hname : isName name.toList = false) (vars : Bindings)
    (value template : String) :
    (vars.bind name value).substitute template = vars.substitute template := by
  have hget (written inside : List Char)
      (hmem : .placeholder written inside ∈ pieces template.toList) :
      (vars.bind name value).get? (String.ofList inside) = vars.get? (String.ofList inside) := by
    obtain ⟨-, hne, hchars, -⟩ := (cut_pieces template.toList).sound written inside hmem
    refine get?_bind_of_ne vars value fun heq => ?_
    rw [← heq, String.toList_ofList, isName_iff.2 ⟨hne, hchars⟩] at hname
    cases hname
  rw [substitute, substitute, renderAll_congr hget]

end Bindings

end Inspection
