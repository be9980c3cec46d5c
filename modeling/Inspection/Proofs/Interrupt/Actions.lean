import Inspection.Proofs.Interrupt.Waiting
import Inspection.Run.Schedule

/-!
# Interrupt — What is done with a token

A token is cancelled by its sender and by nothing else.  While the sender is in hand it can do so,
be handed to a timer, or be given up; out of hand, all that is left is to let time pass.

* `Moves`: all that an action can do.
* `Later`: what all actions keep.
* `Fired`: the sender has cancelled the token, told from what was done.
* `triggered_advance`: the instant of an interrupt that is left alone.
* `AsItLooks`, `performs_as_it_looks`: looks and waitings after all that can be done before.
-/

namespace Inspection

namespace Interrupt

variable {i j : Interrupt}

/-! ### One action after another -/

/-- All that an action can do. -/
inductive Moves (i : Interrupt) : Interrupt → Prop where
  | raised (h : i.sender = .held) : Moves i { i with token := i.token.raise }
  | handed (h : i.sender = .held) (ms : Nat) : Moves i (i.handOver ms)
  | dropped (h : i.sender = .held) : Moves i { i with token := i.token.leave, sender := .gone }
  | advanced (ms : Nat) : Moves i (i.advance ms)

/-- After actions, one after another. -/
def after (i : Interrupt) : List Action → Interrupt
  | [] => i
  | act :: rest => (i.perform act).2.after rest

theorem after_append (i : Interrupt) (acts more : List Action) :
    i.after (acts ++ more) = (i.after acts).after more := by
  induction acts generalizing i with
  | nil => rfl
  | cons act rest ih => exact ih _

/-- The last answer is that of the last action, after all others. -/
theorem performAll_append (i : Interrupt) (acts : List Action) (act : Action) :
    i.performAll (acts ++ [act]) = i.performAll acts ++
      [(((i.after acts).perform act).1, ((i.after acts).perform act).2.now)] := by
  induction acts generalizing i with
  | nil => rfl
  | cons first rest ih => exact congrArg (_ :: ·) (ih _)

/-- The sender is still in hand after the action. -/
def Action.keepsSender : Action → Bool
  | .cancelIn _ | .dropSender => false
  | _ => true

theorem Settled.moves_self (hi : i.Settled) : i.Moves i := by
  have h := Moves.advanced (i := i) 0
  rwa [hi.advance_zero] at h

/-- All other actions only let time pass. -/
theorem perform_eq_advance (hi : i.Settled) {act : Action} (hkeeps : act.keepsSender = true)
    (hne : act ≠ .cancel) : ∃ ms, (i.perform act).2 = i.advance ms := by
  cases act with
  | cancel => exact absurd rfl hne
  | cancelIn ms => cases hkeeps
  | dropSender => cases hkeeps
  | advance ms => exact ⟨ms, rfl⟩
  | wait ms => exact waitFor_eq_advance hi .triggered ms
  | waitToken ms => exact waitFor_eq_advance hi .cancelled ms
  | isTriggered => exact ⟨0, hi.advance_zero.symm⟩
  | isCancelled => exact ⟨0, hi.advance_zero.symm⟩

theorem perform_dropSender (h : i.sender = .held) :
    (i.perform .dropSender).2 = { i with token := i.token.leave, sender := .gone } := by
  rw [perform, if_pos h]

theorem perform_moves (hi : i.Settled) (act : Action) : i.Moves (i.perform act).2 := by
  by_cases hact : act.keepsSender = true ∧ act ≠ .cancel
  · obtain ⟨ms, hms⟩ := perform_eq_advance hi hact.1 hact.2
    exact hms ▸ .advanced ms
  · by_cases hheld : i.sender = .held
    · cases act with
      | cancel =>
        rw [perform, if_pos hheld]
        exact .raised hheld
      | cancelIn ms =>
        rw [perform, if_pos hheld]
        exact .handed hheld ms
      | dropSender =>
        rw [perform_dropSender hheld]
        exact .dropped hheld
      | _ => exact absurd ⟨rfl, by simp⟩ hact
    · have hself : (i.perform act).2 = i := by
        cases act with
        | cancel => rw [perform, if_neg hheld]
        | cancelIn ms => rw [perform, if_neg hheld]
        | dropSender => rw [perform, if_neg hheld]
        | _ => exact absurd ⟨rfl, by simp⟩ hact
      rw [hself]
      exact hi.moves_self

theorem Moves.settled (hi : i.Settled) (h : i.Moves j) : j.Settled := by
  cases h with
  | raised _ => exact ⟨hi.timer, hi.left⟩
  | handed hheld ms =>
    have hleft : i.token.isLeft = true → Sender.timer (i.now + ms) = .gone := fun hleft => by
      rw [hi.left hleft] at hheld
      cases hheld
    exact settled_advance (i := { i with sender := .timer (i.now + ms) }) hleft 0
  | dropped _ => exact ⟨by rintro _ ⟨⟩, fun _ => rfl⟩
  | advanced ms => exact hi.advance ms

theorem Settled.after (hi : i.Settled) (acts : List Action) : (i.after acts).Settled := by
  induction acts generalizing i with
  | nil => exact hi
  | cons act rest ih => exact ih ((perform_moves hi act).settled hi)

/-- What stays as it is, or stays once it is there. -/
structure Later (i j : Interrupt) : Prop where
  now_le : i.now ≤ j.now
  deadline : j.deadline = i.deadline
  isLinked : j.isLinked = i.isLinked
  cancelled : i.cancelled = true → j.cancelled = true

theorem Later.refl (i : Interrupt) : i.Later i := ⟨Nat.le_refl _, rfl, rfl, id⟩

theorem Later.trans {k : Interrupt} (h : i.Later j) (h' : j.Later k) : i.Later k :=
  ⟨Nat.le_trans h.now_le h'.now_le, h'.deadline.trans h.deadline, h'.isLinked.trans h.isLinked,
    h'.cancelled ∘ h.cancelled⟩

theorem later_advance (i : Interrupt) (ms : Nat) : i.Later (i.advance ms) := by
  rcases i.due_or_coming ms with ⟨instant, hdue, hle⟩ | hcoming
  · rw [advance_of_due hdue hle]
    exact ⟨Nat.le_add_right _ _, rfl, rfl, fun _ => rfl⟩
  · rw [advance_eq ms hcoming]
    exact ⟨Nat.le_add_right _ _, rfl, rfl, id⟩

theorem Moves.later (h : i.Moves j) : i.Later j := by
  cases h with
  | raised _ => exact ⟨Nat.le_refl _, rfl, rfl, fun _ => rfl⟩
  | handed _ ms =>
    have hlater := later_advance { i with sender := .timer (i.now + ms) } 0
    exact ⟨hlater.now_le, hlater.deadline, hlater.isLinked, hlater.cancelled⟩
  | dropped _ => exact ⟨Nat.le_refl _, rfl, rfl, id⟩
  | advanced ms => exact later_advance i ms

theorem Settled.later_after (hi : i.Settled) (acts : List Action) : i.Later (i.after acts) := by
  induction acts generalizing i with
  | nil => exact .refl i
  | cons act rest ih =>
    have hmoves := perform_moves hi act
    exact hmoves.later.trans (ih (hmoves.settled hi))

theorem triggered_iff (h : i.isLinked = true) :
    i.triggered = true ↔
      i.cancelled = true ∨ ∃ instant, i.deadline = some instant ∧ instant ≤ i.now := by
  simp [triggered, isPast, alarm?, flag, h, cancelled, Option.any_eq_true]

theorem Later.triggered (h : i.Later j) (hlinked : i.isLinked = true)
    (htriggered : i.triggered = true) : j.triggered = true := by
  rw [triggered_iff hlinked] at htriggered
  rw [triggered_iff (h.isLinked.trans hlinked), h.deadline]
  exact htriggered.imp h.cancelled fun ⟨instant, hinstant, hle⟩ =>
    ⟨instant, hinstant, Nat.le_trans hle h.now_le⟩

/-! ### Who has cancelled the token -/

theorem cancelled_advance_iff (i : Interrupt) (ms : Nat) :
    (i.advance ms).cancelled = true ↔
      i.cancelled = true ∨ ∃ instant, i.sender.due? = some instant ∧ instant ≤ i.now + ms := by
  rcases i.due_or_coming ms with ⟨instant, hdue, hle⟩ | hcoming
  · rw [advance_of_due hdue hle]
    exact iff_of_true rfl (.inr ⟨instant, hdue, hle⟩)
  · rw [advance_eq ms hcoming]
    refine (or_iff_left ?_).symm
    rintro ⟨instant, hdue, hle⟩
    exact Nat.not_le.2 (hcoming instant hdue) hle

theorem sender_advance_ne_held (h : i.sender ≠ .held) (ms : Nat) :
    (i.advance ms).sender ≠ .held := by
  rcases i.due_or_coming ms with ⟨instant, hdue, hle⟩ | hcoming
  · rw [advance_of_due hdue hle]
    simp
  · rw [advance_eq ms hcoming]
    exact h

theorem Moves.eq_advance (hmoves : i.Moves j) (h : i.sender ≠ .held) :
    ∃ ms, j = i.advance ms := by
  cases hmoves with
  | raised hheld => exact absurd hheld h
  | handed hheld _ => exact absurd hheld h
  | dropped hheld => exact absurd hheld h
  | advanced ms => exact ⟨ms, rfl⟩

/-- Once the sender is out of hand, all that can be done is to let time pass. -/
theorem after_eq_advance (hi : i.Settled) (h : i.sender ≠ .held) (acts : List Action) :
    ∃ ms, i.after acts = i.advance ms := by
  induction acts generalizing i with
  | nil => exact ⟨0, hi.advance_zero.symm⟩
  | cons act rest ih =>
    obtain ⟨m, hm⟩ := (perform_moves hi act).eq_advance h
    obtain ⟨n, hn⟩ := ih (hm ▸ hi.advance m) (hm ▸ sender_advance_ne_held h m)
    refine ⟨m + n, ?_⟩
    rw [after, hn, hm, advance_advance]

/-- Handed to a timer, the sender cancels the token at the timer's instant. -/
theorem cancelled_after_handOver (hi : i.Settled) (h : i.sender = .held) (ms : Nat)
    (acts : List Action) :
    ((i.handOver ms).after acts).cancelled = true ↔
      i.cancelled = true ∨ i.now + ms ≤ ((i.handOver ms).after acts).now := by
  have hover : i.handOver ms = ({ i with sender := .timer (i.now + ms) } : Interrupt).advance 0 :=
    rfl
  have hne := sender_advance_ne_held (i := { i with sender := .timer (i.now + ms) }) (by simp) 0
  obtain ⟨n, hn⟩ := after_eq_advance ((Moves.handed h ms).settled hi) (hover ▸ hne) acts
  rw [hn, hover, advance_advance, cancelled_advance_iff, advance_now]
  simp [Sender.due?, cancelled]

/-- Given up, the sender cancels nothing more. -/
theorem cancelled_after_of_gone (hi : i.Settled) (h : i.sender = .gone) (acts : List Action) :
    (i.after acts).cancelled = i.cancelled := by
  obtain ⟨n, hn⟩ := after_eq_advance hi (by simp [h]) acts
  rw [hn, Bool.eq_iff_iff, cancelled_advance_iff]
  simp [h, Sender.due?]

/-- Among actions, begun with the sender in hand, it has cancelled the token: it did so itself, or
was handed to a timer whose instant has come. -/
def Fired (i : Interrupt) (acts : List Action) : Prop :=
  ∃ before act rest, acts = before ++ act :: rest ∧ (∀ x ∈ before, x.keepsSender = true) ∧
    (act = .cancel ∨
      ∃ ms, act = .cancelIn ms ∧ (i.after before).now + ms ≤ (i.after acts).now)

theorem not_fired_nil (i : Interrupt) : ¬i.Fired [] := by
  rintro ⟨before, act, rest, hacts, -⟩
  simp at hacts

theorem fired_cons_iff {act : Action} {rest : List Action} :
    i.Fired (act :: rest) ↔ act = .cancel ∨
      (∃ ms, act = .cancelIn ms ∧ i.now + ms ≤ (i.after (act :: rest)).now) ∨
      act.keepsSender = true ∧ (i.perform act).2.Fired rest := by
  constructor
  · rintro ⟨before, act', rest', hacts, hbefore, hfired⟩
    cases before with
    | nil =>
      obtain ⟨rfl, rfl⟩ := List.cons.inj hacts
      exact or_assoc.1 (.inl hfired)
    | cons first before =>
      obtain ⟨rfl, rfl⟩ := List.cons.inj hacts
      refine .inr (.inr ⟨hbefore _ List.mem_cons_self, before, act', rest', rfl, ?_, hfired⟩)
      exact fun x hx => hbefore x (List.mem_cons_of_mem _ hx)
  · rintro (rfl | hin | ⟨hkeeps, before, act', rest', rfl, hbefore, hfired⟩)
    · exact ⟨[], .cancel, rest, rfl, by simp, .inl rfl⟩
    · exact ⟨[], act, rest, rfl, by simp, .inr hin⟩
    · refine ⟨act :: before, act', rest', rfl, fun x hx => ?_, hfired⟩
      rcases List.mem_cons.1 hx with rfl | hx
      · exact hkeeps
      · exact hbefore x hx

/-- From the sender in hand, the token is cancelled exactly if it was, or its sender has done it. -/
theorem cancelled_after_iff (hi : i.Settled) (h : i.sender = .held) (acts : List Action) :
    (i.after acts).cancelled = true ↔ i.cancelled = true ∨ i.Fired acts := by
  induction acts generalizing i with
  | nil => exact (or_iff_left (not_fired_nil i)).symm
  | cons act rest ih =>
    have hsettled := (perform_moves hi act).settled hi
    by_cases hact : act.keepsSender = true ∧ act ≠ .cancel
    · have hcoming : ∀ instant, i.sender.due? ≠ some instant := by simp [h, Sender.due?]
      obtain ⟨ms, hms⟩ := perform_eq_advance hi hact.1 hact.2
      rw [advance_eq ms fun instant hdue => absurd hdue (hcoming instant)] at hms
      have hfired : i.Fired (act :: rest) ↔ (i.perform act).2.Fired rest := by
        rw [fired_cons_iff, or_iff_right hact.2, or_iff_right, and_iff_right hact.1]
        rintro ⟨ms, rfl, -⟩
        exact absurd hact.1 (by simp [Action.keepsSender])
      rw [hfired, after, ih hsettled (by rw [hms]; exact h), hms]
      rfl
    · rw [fired_cons_iff, after]
      cases act with
      | cancel =>
        have hup : (i.perform .cancel).2.cancelled = true := by rw [perform, if_pos h]; rfl
        exact iff_of_true ((hsettled.later_after rest).cancelled hup) (.inr (.inl rfl))
      | cancelIn ms =>
        have hover : (i.perform (.cancelIn ms)).2 = i.handOver ms := by rw [perform, if_pos h]
        rw [hover, cancelled_after_handOver hi h]
        simp [Action.keepsSender]
      | dropSender =>
        rw [perform_dropSender h, cancelled_after_of_gone (perform_dropSender h ▸ hsettled) rfl]
        simp [Action.keepsSender, cancelled, Flag.leave]
      | _ => exact absurd ⟨rfl, by simp⟩ hact

/-- Left alone, an interrupt is triggered from the instant on at which a schedule is to stop: the
earlier of the timer's and the deadline. -/
theorem triggered_advance (hlinked : i.isLinked = true) (h : i.cancelled = false) (ms : Nat) :
    (i.advance ms).triggered =
      !Schedule.isBefore (i.now + ms) (earlier i.sender.due? i.deadline) := by
  have hlater := later_advance i ms
  rw [Bool.eq_iff_iff, triggered_iff (hlater.isLinked.trans hlinked), hlater.deadline,
    cancelled_advance_iff, advance_now, h]
  cases i.sender.due? with
  | none => cases i.deadline <;> simp [earlier, Schedule.isBefore]
  | some due =>
    cases i.deadline with
    | none => simp [earlier, Schedule.isBefore]
    | some deadline =>
      simp only [Bool.false_eq_true, false_or, Option.some.injEq, exists_eq_left', earlier,
        Schedule.isBefore, Option.all_some, Bool.not_eq_true', decide_eq_false_iff_not]
      omega

theorem settled_begun (start : Nat) (deadline : Option Nat) :
    ({ now := start, deadline } : Interrupt).Settled :=
  ⟨by rintro _ ⟨⟩, fun h => by cases h⟩

/-- The deadline, if there is one, has passed by now. -/
def IsOver (deadline : Option Nat) (i : Interrupt) : Prop :=
  ∃ instant, deadline = some instant ∧ instant ≤ i.now

/-- What looks and waitings find of `begun` once the actions `acts` have made it `i`. -/
structure AsItLooks (begun : Interrupt) (acts : List Action) (i : Interrupt) : Prop where
  cancelled : i.cancelled = true ↔ begun.Fired acts
  triggered : i.triggered = true ↔ begun.Fired acts ∨ IsOver begun.deadline i
  stays : ∀ more, (i.cancelled = true → (begun.after (acts ++ more)).cancelled = true) ∧
    (i.triggered = true → (begun.after (acts ++ more)).triggered = true)
  dropped : ∀ more, i.sender = .held →
    let j := begun.after (acts ++ .dropSender :: more)
    (j.cancelled = true ↔ begun.Fired acts) ∧
    (j.triggered = true ↔ begun.Fired acts ∨ IsOver begun.deadline j)
  alone : i.cancelled = false → ∀ ms, (i.advance ms).triggered =
    !Schedule.isBefore (i.now + ms) (earlier i.sender.due? begun.deadline)
  waitToken : ∀ ms, ∃ answer j, i.perform (.waitToken ms) = (some answer, j) ∧
    Waited (·.cancelled) i ms answer j
  wait : ∀ ms, begun.deadline ≠ some (i.now + ms) → ∃ answer j,
    i.perform (.wait ms) = (some answer, j) ∧ Waited (·.triggered) i ms answer j
  /-- A deadline at the very end is found, though no look before it would find it. -/
  waitToDeadline : ∀ ms, begun.deadline = some (i.now + ms) →
    ∃ n ≤ ms, i.perform (.wait ms) = (some true, i.advance n) ∧
      (i.advance n).triggered = true ∧ ∀ k < n, (i.advance k).triggered = false

/-- **A waiting tells what looks would, after all that can be done.**  The token is cancelled
exactly if its sender has cancelled it; the interrupt is triggered exactly if that is so or the
deadline has passed; and both stay.  Giving the sender up changes neither.  Left alone, an interrupt
is triggered from the instant on at which a schedule is to stop.  Waiting for one of them is
answered with yes exactly if a look now or before the end of the waiting would find it, and is over
at the first such instant; else it is answered with no when the time is over.  Only a deadline at
the very end of a waiting is found, though no look before it would do so. -/
theorem performs_as_it_looks (start : Nat) (deadline : Option Nat) (acts : List Action) :
    let begun : Interrupt := { now := start, deadline }
    let i := begun.after acts
    (∀ act, begun.performAll (acts ++ [act]) =
      begun.performAll acts ++ [((i.perform act).1, (i.perform act).2.now)]) ∧
    AsItLooks begun acts i := by
  intro begun i
  have hbegun := settled_begun start deadline
  have hi : i.Settled := hbegun.after acts
  have hlater : begun.Later i := hbegun.later_after acts
  have hlinked : i.isLinked = true := hlater.isLinked
  have hcancelled : i.cancelled = true ↔ begun.Fired acts := by
    rw [cancelled_after_iff hbegun rfl]
    simp [begun, Interrupt.cancelled]
  have halarm : i.alarm? .triggered = begun.deadline := by
    rw [alarm?, if_pos hlinked, hlater.deadline]
  refine ⟨performAll_append begun acts, hcancelled, ?_, fun more => ?_, fun more hheld => ?_,
    fun hup ms => ?_, fun ms => ?_, fun ms hms => ?_, fun ms hms => ?_⟩
  · rw [triggered_iff hlinked, hlater.deadline, hcancelled]
    rfl
  · rw [after_append]
    have hmore : i.Later (i.after more) := hi.later_after more
    exact ⟨hmore.cancelled, hmore.triggered hlinked⟩
  · intro j
    have hj : j = ({ i with token := i.token.leave, sender := .gone } : Interrupt).after more := by
      rw [← perform_dropSender hheld]
      exact after_append begun acts _
    have hdropped := (Moves.dropped hheld).settled hi
    have hj' := hdropped.later_after more
    have hsame : j.cancelled = true ↔ begun.Fired acts := by
      rw [hj, cancelled_after_of_gone hdropped rfl]
      exact hcancelled
    refine ⟨hsame, ?_⟩
    rw [triggered_iff (hj ▸ hj'.isLinked.trans hlinked), hsame, IsOver, hj, hj'.deadline,
      hlater.deadline]
  · rw [triggered_advance hlinked hup, hlater.deadline]
  · exact waitFor_waited hi (by rintro ⟨⟩)
  · exact waitFor_waited hi (by rwa [halarm])
  · exact waitFor_of_alarm hi (by rwa [halarm])

/-- A deadline before a cancellation, and a token that is cancelled and left at once. -/
example :
    ({ deadline := some 30 } : Interrupt).performAll
        [.cancelIn 45, .wait 100, .isCancelled, .waitToken 100, .isCancelled] =
      [(none, 0), (some true, 30), (some false, 30), (some true, 45), (some true, 45)] := by
  decide_cbv

end Interrupt

end Inspection
