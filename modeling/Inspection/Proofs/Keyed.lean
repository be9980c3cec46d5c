import Inspection.Proofs.Report.Order
import Mathlib

/-!
# Keyed — Lists of members with names

Of several members of one name the last one counts, where each takes the place of those before it.
Sorting by names keeps what has one name as it came, and that together with the order says all about
the result.  So a member that gives way to another of its name stays where it was.

* `lookup_eq_some_iff_mem`: a lookup where no name stands twice.
* `IsLastOf`, `mem_foldl_iff_isLastOf`: the last member of a name.
* `eq_of_filter_eq`: lists in order are known by what they have under each name.
* `sortBy_around`: what comes before and after the members of one name does not depend on them.
* `exists_around`: lists in strict order of names that differ under one name only.
-/

namespace Inspection

theorem textAtMost_iff_le {a b : String} : textAtMost a b = true ↔ a ≤ b := by
  rw [textAtMost_iff, not_lt]

section Lookup

variable {β : Type} {l : List (String × β)} {name : String} {b : β}

theorem lookup_eq_some_iff_mem (h : (l.map (·.1)).Nodup) :
    l.lookup name = some b ↔ (name, b) ∈ l := by
  induction l with
  | nil => simp
  | cons x l ih =>
    obtain ⟨k, c⟩ := x
    obtain ⟨hk, hl⟩ := List.nodup_cons.1 h
    by_cases hname : name = k
    · subst hname
      have hnot : (name, b) ∉ l := fun hmem => hk (List.mem_map_of_mem (f := (·.1)) hmem)
      simp [hnot, eq_comm]
    · rw [List.lookup_cons, beq_false_of_ne hname, List.mem_cons, ih hl]
      simp [hname]

/-- A name is looked up as before where other members are left out or get other names. -/
theorem lookup_filterMap {f : String × β → Option (String × β)}
    (hname : ∀ b, f (name, b) = some (name, b))
    (hother : ∀ x y, x.1 ≠ name → f x = some y → y.1 ≠ name) :
    (l.filterMap f).lookup name = l.lookup name := by
  induction l with
  | nil => rfl
  | cons x l ih =>
    obtain ⟨k, c⟩ := x
    by_cases hk : k = name
    · subst hk
      rw [List.filterMap_cons_some (hname c), List.lookup_cons, List.lookup_cons, beq_self_eq_true]
    · rw [List.lookup_cons, beq_false_of_ne (Ne.symm hk), ← ih]
      cases hf : f (k, c) with
      | none => rw [List.filterMap_cons_none hf]
      | some y =>
        rw [List.filterMap_cons_some hf, List.lookup_cons,
          beq_false_of_ne (hother _ _ hk hf).symm]

/-- A member that takes the place of those of its name leaves names that differ. -/
theorem nodup_filter_append (h : (l.map (·.1)).Nodup) (name : String) (b : β) :
    ((l.filter (·.1 != name) ++ [(name, b)]).map (·.1)).Nodup := by
  rw [List.map_append, List.nodup_append]
  refine ⟨h.sublist (List.filter_sublist.map _), List.nodup_singleton _, ?_⟩
  simp [List.mem_filter]

/-- The last member of a name. -/
def IsLastOf (l : List (String × β)) (name : String) (b : β) : Prop :=
  ∃ before after, l = before ++ (name, b) :: after ∧ ∀ x ∈ after, x.1 ≠ name

theorem isLastOf_concat {x : String × β} :
    IsLastOf (l ++ [x]) name b ↔ x = (name, b) ∨ x.1 ≠ name ∧ IsLastOf l name b := by
  constructor
  · rintro ⟨before, after, heq, hafter⟩
    obtain rfl | ⟨after, y, rfl⟩ := List.eq_nil_or_concat after
    · exact .inl (List.cons.inj (List.append_inj' heq rfl).2).1
    · rw [List.concat_eq_append, ← List.cons_append, ← List.append_assoc] at heq
      obtain ⟨rfl, hy⟩ := List.append_inj' heq rfl
      obtain rfl := (List.cons.inj hy).1
      exact .inr ⟨hafter x (by simp), before, after, rfl, fun z hz => hafter z (by simp [hz])⟩
  · rintro (rfl | ⟨hx, before, after, rfl, hafter⟩)
    · exact ⟨l, [], rfl, List.forall_mem_nil _⟩
    · refine ⟨before, after ++ [x], by simp, fun y hy => ?_⟩
      obtain hy | hy := List.mem_append.1 hy
      · exact hafter y hy
      · rwa [List.mem_singleton.1 hy]

theorem isLastOf_map {γ : Type} {g : β → γ} {c : γ} :
    IsLastOf (l.map fun x => (x.1, g x.2)) name c ↔ ∃ b, IsLastOf l name b ∧ g b = c := by
  constructor
  · rintro ⟨_, _, heq, hafter⟩
    obtain ⟨before, rest, rfl, rfl, hrest⟩ := List.map_eq_append_iff.1 heq
    obtain ⟨⟨name', b⟩, after, rfl, hx, rfl⟩ := List.map_eq_cons_iff.1 hrest
    obtain ⟨rfl, rfl⟩ := Prod.mk.inj hx
    exact ⟨b, ⟨before, after, rfl, fun x hx => hafter _ (List.mem_map_of_mem hx)⟩, rfl⟩
  · rintro ⟨b, ⟨before, after, rfl, hafter⟩, rfl⟩
    refine ⟨_, _, List.map_append.trans (congrArg _ List.map_cons), fun y hy => ?_⟩
    obtain ⟨x, hx, rfl⟩ := List.mem_map.1 hy
    exact hafter x hx

/-- Read from the end, the last member of a name is the first. -/
theorem isLastOf_iff_lookup_reverse : IsLastOf l name b ↔ l.reverse.lookup name = some b := by
  rw [List.lookup_eq_some_iff]
  constructor
  · rintro ⟨before, after, rfl, hafter⟩
    exact ⟨after.reverse, before.reverse, by simp,
      fun x hx => bne_iff_ne.2 (hafter x (List.mem_reverse.1 hx)).symm⟩
  · rintro ⟨before, after, heq, hbefore⟩
    refine ⟨after.reverse, before.reverse, ?_,
      fun x hx => (bne_iff_ne.1 (hbefore x (List.mem_reverse.1 hx))).symm⟩
    rw [← List.reverse_reverse l, heq]
    simp

theorem exists_isLastOf (h : (name, b) ∈ l) : ∃ b', IsLastOf l name b' := by
  induction l using List.reverseRecOn with
  | nil => cases h
  | append_singleton l x ih =>
    by_cases hx : x.1 = name
    · exact ⟨x.2, isLastOf_concat.2 (.inl (Prod.ext hx rfl))⟩
    · obtain h | h := List.mem_append.1 h
      · exact (ih h).imp fun _ hlast => isLastOf_concat.2 (.inr ⟨hx, hlast⟩)
      · obtain rfl := List.mem_singleton.1 h
        exact absurd rfl hx

/-- **Each name with its last member**, where every member takes the place of those before it. -/
theorem mem_foldl_iff_isLastOf :
    (name, b) ∈ l.foldl (fun kept x => kept.filter (·.1 != x.1) ++ [x]) [] ↔
      IsLastOf l name b := by
  induction l using List.reverseRecOn with
  | nil => simp [IsLastOf]
  | append_singleton l x ih =>
    rw [List.foldl_concat, isLastOf_concat, List.mem_append, List.mem_filter, ih,
      List.mem_singleton, bne_iff_ne, ne_comm, or_comm, and_comm, eq_comm]

theorem nodup_foldl_filter_append (l : List (String × β)) :
    ((l.foldl (fun kept x => kept.filter (·.1 != x.1) ++ [x]) []).map (·.1)).Nodup := by
  induction l using List.reverseRecOn with
  | nil => exact List.nodup_nil
  | append_singleton l x ih =>
    rw [List.foldl_concat]
    exact nodup_filter_append ih x.1 x.2

end Lookup

section Order

variable {α : Type} {key : α → String}

theorem pairwise_le_sortBy (key : α → String) (l : List α) :
    (sortBy key l).Pairwise fun a b => key a ≤ key b :=
  (pairwise_sortBy key l).imp textAtMost_iff_le.1

theorem mem_iff_of_filter_eq {l m : List α}
    (h : ∀ name, l.filter (key · == name) = m.filter (key · == name)) {a : α} :
    a ∈ l ↔ a ∈ m := by
  have hself (n : List α) : a ∈ n ↔ a ∈ n.filter (key · == key a) := by simp
  rw [hself l, h, ← hself m]

/-- **Lists in order are known by what they have under each name.** -/
theorem eq_of_filter_eq {l m : List α} (hl : l.Pairwise fun a b => key a ≤ key b)
    (hm : m.Pairwise fun a b => key a ≤ key b)
    (h : ∀ name, l.filter (key · == name) = m.filter (key · == name)) : l = m := by
  induction l generalizing m with
  | nil =>
    exact (List.eq_nil_iff_forall_not_mem.2 fun a ha =>
      List.not_mem_nil ((mem_iff_of_filter_eq h).2 ha)).symm
  | cons a l ih =>
    cases m with
    | nil =>
      exact absurd ((mem_iff_of_filter_eq h).1 (List.mem_cons_self ..)) List.not_mem_nil
    | cons b m =>
      obtain ⟨ha, hl'⟩ := List.pairwise_cons.1 hl
      obtain ⟨hb, hm'⟩ := List.pairwise_cons.1 hm
      -- each of the two heads has the least name of both lists
      have hle : key a ≤ key b := by
        obtain rfl | hmem := List.mem_cons.1 ((mem_iff_of_filter_eq h).2 (List.mem_cons_self ..))
        · exact le_rfl
        · exact ha b hmem
      have hge : key b ≤ key a := by
        obtain rfl | hmem := List.mem_cons.1 ((mem_iff_of_filter_eq h).1 (List.mem_cons_self ..))
        · exact le_rfl
        · exact hb a hmem
      have hkey : key b = key a := le_antisymm hge hle
      have hhead := h (key a)
      rw [List.filter_cons_of_pos (by simp), List.filter_cons_of_pos (by simp [hkey])] at hhead
      obtain ⟨rfl, -⟩ := List.cons.inj hhead
      refine congrArg (a :: ·) (ih hl' hm' fun name => ?_)
      by_cases hname : key a = name
      · simpa [hname] using h name
      · simpa [hname] using h name

/-- What is kept by its name is kept under each name as a whole or not at all. -/
theorem filter_filter_name (p : String → Bool) (l : List α) (name : String) :
    (l.filter (p <| key ·)).filter (key · == name) =
      if p name then l.filter (key · == name) else [] := by
  rw [List.filter_filter]
  split
  · rename_i hp
    refine List.filter_congr fun a _ => ?_
    by_cases hname : key a = name
    · simp [hname, hp]
    · simp [hname]
  · rename_i hp
    refine List.filter_eq_nil_iff.2 fun a _ h => hp ?_
    obtain ⟨hname, hpa⟩ := Bool.and_eq_true_iff.1 h
    rwa [beq_iff_eq.1 hname] at hpa

/-- **Sorting around members of one name.**  What comes before them and what comes after them does
not depend on them, nor on how many they are. -/
theorem sortBy_around (key : α → String) (front back : List α) (name : String) :
    ∃ before after, ∀ m : List α, (∀ a ∈ m, key a = name) →
      sortBy key (front ++ m ++ back) = before ++ m ++ after := by
  refine ⟨sortBy key (front.filter (key · ≤ name) ++ back.filter (key · < name)),
    sortBy key (front.filter (name < key ·) ++ back.filter (name ≤ key ·)), fun m hm => ?_⟩
  have hbefore {a : α}
      (ha : a ∈ sortBy key (front.filter (key · ≤ name) ++ back.filter (key · < name))) :
      key a ≤ name := by
    obtain ha | ha := List.mem_append.1 ((sortBy_perm key _).mem_iff.1 ha)
    · simpa using (List.mem_filter.1 ha).2
    · exact le_of_lt (by simpa using (List.mem_filter.1 ha).2)
  have hafter {a : α}
      (ha : a ∈ sortBy key (front.filter (name < key ·) ++ back.filter (name ≤ key ·))) :
      name ≤ key a := by
    obtain ha | ha := List.mem_append.1 ((sortBy_perm key _).mem_iff.1 ha)
    · exact le_of_lt (by simpa using (List.mem_filter.1 ha).2)
    · simpa using (List.mem_filter.1 ha).2
  -- both sides are in order, so they are compared under one name at a time
  refine eq_of_filter_eq (pairwise_le_sortBy ..) ?_ fun k => ?_
  · rw [List.append_assoc, List.pairwise_append, List.pairwise_append]
    refine ⟨pairwise_le_sortBy .., ⟨List.pairwise_of_forall_mem_list fun a ha b hb => ?_,
      pairwise_le_sortBy .., fun a ha b hb => ?_⟩, fun a ha b hb => ?_⟩
    · rw [hm a ha, hm b hb]
    · rw [hm a ha]
      exact hafter hb
    · refine (hbefore ha).trans ?_
      obtain hb | hb := List.mem_append.1 hb
      · rw [hm b hb]
      · exact hafter hb
  · have hmk : k ≠ name → m.filter (key · == k) = [] := fun hne =>
      List.filter_eq_nil_iff.2 fun a ha => by simpa [hm a ha] using hne.symm
    simp only [List.filter_append, filter_sortBy, filter_filter_name fun k => decide (k ≤ name),
      filter_filter_name fun k => decide (k < name), filter_filter_name fun k => decide (name < k),
      filter_filter_name fun k => decide (name ≤ k), decide_eq_true_eq]
    -- only under `name` itself do all three parts have a share
    rcases lt_trichotomy k name with hk | rfl | hk
    · rw [if_pos hk.le, if_pos hk, if_neg hk.not_gt, if_neg hk.not_ge, hmk hk.ne]
      simp
    · rw [if_pos le_rfl, if_neg (lt_irrefl _), if_neg (lt_irrefl _), if_pos le_rfl]
      simp
    · rw [if_neg hk.not_ge, if_neg hk.not_gt, if_pos hk, if_pos hk.le, hmk hk.ne']
      simp

end Order

section Strict

variable {κ β : Type} [LinearOrder κ] {l m front back : List (κ × β)} {k : κ} {a b : β}
  {x : κ × β}

/-- In strict order no other member has the name of one. -/
theorem mem_around_iff (h : (front ++ (k, a) :: back).Pairwise fun x y => x.1 < y.1) :
    x ∈ front ++ (k, a) :: back ↔ x = (k, a) ∨ x.1 ≠ k ∧ (x ∈ front ∨ x ∈ back) := by
  obtain ⟨-, hback, hcross⟩ := List.pairwise_append.1 h
  have hfront (hx : x ∈ front) : x.1 ≠ k := (hcross x hx _ (List.mem_cons_self ..)).ne
  have hafter (hx : x ∈ back) : x.1 ≠ k := ((List.pairwise_cons.1 hback).1 x hx).ne'
  rw [List.mem_append, List.mem_cons]
  constructor
  · rintro (hx | hx | hx)
    · exact .inr ⟨hfront hx, .inl hx⟩
    · exact .inl hx
    · exact .inr ⟨hafter hx, .inr hx⟩
  · rintro (hx | ⟨-, hx | hx⟩)
    · exact .inr (.inl hx)
    · exact .inl hx
    · exact .inr (.inr hx)

/-- **Lists in strict order that differ under one name** are the same before it and after it. -/
theorem exists_around (hl : l.Pairwise fun x y => x.1 < y.1) (hm : m.Pairwise fun x y => x.1 < y.1)
    (ha : (k, a) ∈ l) (hb : (k, b) ∈ m) (h : ∀ x : κ × β, x.1 ≠ k → (x ∈ l ↔ x ∈ m)) :
    ∃ front back, l = front ++ (k, a) :: back ∧ m = front ++ (k, b) :: back := by
  obtain ⟨front, back, rfl⟩ := List.append_of_mem ha
  obtain ⟨front', back', rfl⟩ := List.append_of_mem hb
  refine ⟨front, back, rfl, ?_⟩
  have : Std.Irrefl fun x y : κ × β => x.1 < y.1 := ⟨fun x => lt_irrefl x.1⟩
  have : Std.Antisymm fun x y : κ × β => x.1 < y.1 := ⟨fun x y hx hy => absurd hx hy.not_gt⟩
  -- the names of the second list are those of the first
  have hnew : (front ++ (k, b) :: back).Pairwise fun x y => x.1 < y.1 := by
    rw [← List.pairwise_map (f := Prod.fst)] at hl ⊢
    simpa using hl
  refine hm.eq_of_mem_iff hnew fun x => ?_
  by_cases hx : x.1 = k
  · rw [mem_around_iff hm, mem_around_iff hnew]
    simp [hx]
  · rw [← h x hx, mem_around_iff hl, mem_around_iff hnew]
    have hne (c : β) : x ≠ (k, c) := fun heq => hx (congrArg Prod.fst heq)
    simp [hne]

end Strict

end Inspection
