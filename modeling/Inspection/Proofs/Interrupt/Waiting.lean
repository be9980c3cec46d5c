import Inspection.Run.Interrupt

/-!
# Interrupt — Waiting and looking

Whether a token is cancelled, or an interrupt triggered, can be looked at and can be waited for.
The two are written apart: a look reads the flag and the clock, while a waiting watches the flag
from the place where it last stood and is woken when something may have changed.  They agree.  A
waiting ends as if the clock had been moved on with a look at every instant.

* `Flag.Watching`: what a watcher knows of a flag, so that it misses no raise.
* `Settled.quiet`: nothing happens before the instant for which a waiting is woken.
* `await_awaits`: a waiting ends at the first instant at which a look finds what is waited for.
* `waitFor_waited`: so it is answered as looks would be.
-/

namespace Inspection

namespace Flag

/-- The watching has seen no raise that it did not answer. -/
def Watching (f : Flag) : Watch → Prop
  | .unread => True
  | .since raises => raises ≤ f.raises ∧ (f.isUp = true → raises < f.raises)
  | .forever => f.isUp = false ∧ f.isLeft = true

variable {f : Flag} {w w' : Watch}

theorem watching_awaitRaise (h : f.isUp = false) : f.Watching f.awaitRaise := by
  unfold awaitRaise
  split
  · rename_i hleft
    exact ⟨h, hleft⟩
  · exact ⟨Nat.le_refl _, fun hup => by simp [h] at hup⟩

/-- Nothing is left to wait for exactly if the flag is up. -/
theorem Watching.look_eq_none_iff (h : f.Watching w) : f.look w = none ↔ f.isUp = true := by
  cases w with
  | unread => simp [look, read]
  | since raises =>
    by_cases hraises : raises = f.raises
    · have hup : ¬f.isUp = true := fun hup => by have := h.2 hup; omega
      simp [look, hraises, hup]
    · simp [look, hraises, read]
  | forever => simp [look, h.1]

theorem Watching.look (h : f.Watching w) (hlook : f.look w = some w') : f.Watching w' := by
  have hup : f.isUp = false := by
    rw [← Bool.not_eq_true, ← h.look_eq_none_iff, hlook]
    exact Option.some_ne_none w'
  cases w with
  | unread =>
    simp only [Flag.look, read, hup, Bool.false_eq_true, if_false, Option.some.injEq] at hlook
    exact hlook ▸ watching_awaitRaise hup
  | since raises =>
    simp only [Flag.look, read, hup, Bool.false_eq_true, if_false, ite_self,
      Option.some.injEq] at hlook
    exact hlook ▸ watching_awaitRaise hup
  | forever =>
    obtain rfl := Option.some.inj hlook
    exact h

/-- A raise is not missed, even if the sender is given up at once. -/
theorem Watching.raise_leave (h : f.Watching w) (hleft : f.isLeft = false) :
    f.raise.leave.Watching w := by
  cases w with
  | unread => trivial
  | since raises => exact ⟨Nat.le_succ_of_le h.1, fun _ => Nat.lt_succ_of_le h.1⟩
  | forever => simp [h.2] at hleft

end Flag

namespace Interrupt

/-- What a look finds. -/
def holds (i : Interrupt) : Awaited → Bool
  | .cancelled => i.cancelled
  | .triggered => i.triggered

/-- Every timer that was due has had its turn, and only then, or when it is dropped, is a sender
gone that has left the token. -/
structure Settled (i : Interrupt) : Prop where
  timer : ∀ instant, i.sender.due? = some instant → i.now < instant
  left : i.token.isLeft = true → i.sender = .gone

variable {i j : Interrupt} {a : Awaited} {stop : Nat} {w : Watch}

theorem holds_eq (i : Interrupt) (a : Awaited) : i.holds a = ((i.flag a).isUp || i.isPast a) := by
  cases a with
  | cancelled => simp [holds, cancelled, flag, isPast, alarm?]
  | triggered => rfl

theorem look_eq_none_iff (hw : (i.flag a).Watching w) : i.look a w = none ↔ i.holds a = true := by
  rw [look, holds_eq]
  cases hpast : i.isPast a with
  | true => simp
  | false => simp [hw.look_eq_none_iff]

theorem watching_of_look {w' : Watch} (hw : (i.flag a).Watching w) (h : i.look a w = some w') :
    (i.flag a).Watching w' := by
  rw [look] at h
  split at h
  · cases h
  · exact hw.look h

/-! ### The clock -/

/-- The timer is due after so long, or it is still to come. -/
theorem due_or_coming (i : Interrupt) (ms : Nat) :
    (∃ instant, i.sender.due? = some instant ∧ instant ≤ i.now + ms) ∨
      ∀ instant, i.sender.due? = some instant → i.now + ms < instant := by
  cases i.sender.due? with
  | none => exact .inr fun _ h => by cases h
  | some due =>
    rcases Nat.lt_or_ge (i.now + ms) due with hlt | hle
    · exact .inr fun _ h => Option.some.inj h ▸ hlt
    · exact .inl ⟨due, rfl, hle⟩

theorem runTimer_eq_self (h : ∀ instant, i.sender.due? = some instant → i.now < instant) :
    i.runTimer = i := by
  rw [runTimer, if_neg]
  rw [Option.any_eq_true]
  rintro ⟨instant, hdue, hle⟩
  have hlt := h instant hdue
  simp only [decide_eq_true_eq] at hle
  omega

theorem runTimer_of_due {instant : Nat} (h : i.sender.due? = some instant) (hle : instant ≤ i.now) :
    i.runTimer = { i with token := i.token.raise.leave, sender := .gone } := by
  rw [runTimer, if_pos]
  simp [h, hle]

theorem advance_eq (ms : Nat) (h : ∀ instant, i.sender.due? = some instant → i.now + ms < instant) :
    i.advance ms = { i with now := i.now + ms } :=
  runTimer_eq_self h

theorem advance_of_due {instant : Nat} (h : i.sender.due? = some instant) {ms : Nat}
    (hle : instant ≤ i.now + ms) :
    i.advance ms =
      { i with now := i.now + ms, token := i.token.raise.leave, sender := .gone } :=
  runTimer_of_due (i := { i with now := i.now + ms }) h hle

@[simp] theorem advance_now (i : Interrupt) (ms : Nat) : (i.advance ms).now = i.now + ms :=
  runTimer_now _

theorem Settled.advance_zero (h : i.Settled) : i.advance 0 = i := runTimer_eq_self h.timer

theorem advance_advance (i : Interrupt) (m n : Nat) :
    (i.advance m).advance n = i.advance (m + n) := by
  rcases i.due_or_coming m with ⟨instant, hdue, hle⟩ | hcoming
  · rw [advance_of_due hdue hle, advance_of_due hdue (by omega : instant ≤ i.now + (m + n)),
      advance_eq n (by rintro _ ⟨⟩), Nat.add_assoc]
  · rw [advance_eq m hcoming, Interrupt.advance, Interrupt.advance, Nat.add_assoc]

/-- A timer that had its turn has left the token, and is gone. -/
theorem settled_advance (h : i.token.isLeft = true → i.sender = .gone) (ms : Nat) :
    (i.advance ms).Settled := by
  rcases i.due_or_coming ms with ⟨instant, hdue, hle⟩ | hcoming
  · rw [advance_of_due hdue hle]
    exact ⟨by rintro _ ⟨⟩, fun _ => rfl⟩
  · rw [advance_eq ms hcoming]
    exact ⟨hcoming, h⟩

theorem Settled.advance (h : i.Settled) (ms : Nat) : (i.advance ms).Settled :=
  settled_advance h.left ms

/-- Time does not make a watcher miss a raise. -/
theorem Settled.watching_advance (h : i.Settled) (hw : (i.flag a).Watching w) (ms : Nat) :
    ((i.advance ms).flag a).Watching w := by
  rcases i.due_or_coming ms with ⟨instant, hdue, hle⟩ | hcoming
  · have hleft : i.token.isLeft = false := by
      rw [← Bool.not_eq_true]
      intro hleft
      rw [h.left hleft] at hdue
      cases hdue
    rw [advance_of_due hdue hle]
    cases a with
    | cancelled => exact hw.raise_leave hleft
    | triggered =>
      cases hlinked : i.isLinked with
      | true =>
        simp only [flag, hlinked, if_true] at hw ⊢
        exact hw.raise_leave hleft
      | false => simpa only [flag, hlinked, Bool.false_eq_true, if_false] using hw
  · rw [advance_eq ms hcoming]
    exact hw

/-! ### Waiting -/

theorem coming_of_lt_comingBefore {n instant : Nat} {instant? : Option Nat}
    (h : n < i.comingBefore stop instant?) (hinstant : instant? = some instant)
    (hnow : i.now < instant) (hstop : n < stop) : n < instant := by
  subst hinstant
  rw [comingBefore, Option.filter_some] at h
  split at h
  · exact h
  · rename_i hout
    simp only [Bool.and_eq_true, decide_eq_true_eq, not_and, Nat.not_lt] at hout
    exact Nat.lt_of_lt_of_le hstop (hout hnow)

/-- Before the next instant nothing happens: the timer is still to come, and so is the alarm unless
it has gone off. -/
theorem Settled.quiet (h : i.Settled) (hstop : i.now < stop) {ms : Nat}
    (hms : i.now + ms < i.nextInstant a stop) :
    i.advance ms = { i with now := i.now + ms } ∧ (i.advance ms).holds a = i.holds a := by
  have htimer := comingBefore_mem hstop i.sender.due?
  have halarm := comingBefore_mem htimer.1 (i.alarm? a)
  have hfirst : i.now + ms < i.comingBefore stop i.sender.due? := Nat.lt_of_lt_of_le hms halarm.2
  have hadvance : i.advance ms = { i with now := i.now + ms } := by
    refine advance_eq ms fun instant hdue => ?_
    exact coming_of_lt_comingBefore hfirst hdue (h.timer instant hdue)
      (Nat.lt_of_lt_of_le hfirst htimer.2)
  refine ⟨hadvance, ?_⟩
  rw [hadvance, holds_eq, holds_eq]
  have hpast : ({ i with now := i.now + ms } : Interrupt).isPast a = i.isPast a := by
    have halarm? : ({ i with now := i.now + ms } : Interrupt).alarm? a = i.alarm? a := by
      cases a <;> rfl
    rw [isPast, isPast, halarm?]
    cases hinstant : i.alarm? a with
    | none => rfl
    | some instant =>
      rw [Option.any_some, Option.any_some, decide_eq_decide]
      refine ⟨fun hle => Nat.le_of_not_lt fun hlt => ?_, fun hle => Nat.le_add_right_of_le hle⟩
      exact Nat.not_lt.2 hle (coming_of_lt_comingBefore hms hinstant hlt hfirst)
  have hflag : ({ i with now := i.now + ms } : Interrupt).flag a = i.flag a := by cases a <;> rfl
  rw [hpast, hflag]

/-- How a waiting up to an instant ends: with the clock at the first instant at which a look finds
what is waited for, or at its end.  Only the alarm counts at the very end. -/
inductive Awaits (i : Interrupt) (a : Awaited) (stop : Nat) : Bool × Interrupt → Prop where
  | came {j : Interrupt} {ms : Nat} (hj : j.runTimer = i.advance ms)
      (hstop : ms = 0 ∨ i.now + ms < stop ∨ i.now + ms = stop ∧ i.alarm? a = some stop)
      (holds : (i.advance ms).holds a = true)
      (first : ∀ n < ms, (i.advance n).holds a = false) : Awaits i a stop (true, j)
  | late {j : Interrupt} {ms : Nat} (hj : j.runTimer = i.advance ms) (hstop : i.now + ms = stop)
      (halarm : i.alarm? a ≠ some stop)
      (before : ∀ n, n = 0 ∨ n < ms → (i.advance n).holds a = false) : Awaits i a stop (false, j)

/-- At its end a waiting takes a last look, before the timer has its turn. -/
theorem await_at_end (hw : (i.flag a).Watching w) (h : i.now = stop) :
    i.await a stop w = (i.holds a, i) := by
  rw [await]
  cases hlook : i.look a w with
  | none => simp [(look_eq_none_iff hw).1 hlook]
  | some w' =>
    have hholds : ¬i.holds a = true := fun hup => by simp [(look_eq_none_iff hw).2 hup] at hlook
    simp [hholds, h]

/-- A waiting that goes on from a later instant, where nothing has happened before. -/
theorem Awaits.of_advance {x : Bool × Interrupt} {ms : Nat}
    (h : (i.advance ms).Awaits a stop x) (hms : 0 < ms) (hstop : i.now + ms < stop)
    (quiet : ∀ n < ms, (i.advance n).holds a = false) : i.Awaits a stop x := by
  have halarm? : (i.advance ms).alarm? a = i.alarm? a := by
    rcases i.due_or_coming ms with ⟨instant, hdue, hle⟩ | hcoming
    · rw [advance_of_due hdue hle]
      cases a <;> rfl
    · rw [advance_eq ms hcoming]
      cases a <;> rfl
  cases h with
  | @came j n hj hn hholds first =>
    rw [advance_advance] at hj hholds
    rw [advance_now, halarm?] at hn
    refine .came hj (.inr ?_) hholds fun k hk => ?_
    · rcases hn with rfl | hn
      · exact .inl hstop
      · rwa [Nat.add_assoc] at hn
    · rcases Nat.lt_or_ge k ms with hlt | hge
      · exact quiet k hlt
      · have := first (k - ms) (by omega)
        rwa [advance_advance, Nat.add_sub_cancel' hge] at this
  | @late j n hj hn halarm before =>
    rw [advance_advance] at hj
    rw [advance_now, Nat.add_assoc] at hn
    rw [halarm?] at halarm
    refine .late hj hn halarm fun k hk => ?_
    rcases Nat.lt_or_ge k ms with hlt | hge
    · exact quiet k hlt
    · have := before (k - ms) (by omega)
      rwa [advance_advance, Nat.add_sub_cancel' hge] at this

/-- What was there before the timer has its turn is there after it. -/
theorem holds_runTimer (h : i.holds a = true) : i.runTimer.holds a = true := by
  rw [runTimer]
  split
  · rw [holds_eq, Bool.or_eq_true] at h ⊢
    refine h.imp (fun hup => ?_) fun hpast => ?_
    · cases a with
      | cancelled => rfl
      | triggered =>
        simp only [flag] at hup ⊢
        split at hup
        · rename_i hlinked
          rw [if_pos hlinked]
          rfl
        · cases hup
    · cases a with
      | cancelled => exact hpast
      | triggered => exact hpast
  · exact h

theorem wake_of_lt (hnow : i.now < stop) (h : i.nextInstant a stop < stop) :
    i.wake a stop = i.advance (i.nextInstant a stop - i.now) := by
  have hmem := nextInstant_mem (a := a) hnow
  rw [wake, if_pos h, advance, Nat.add_sub_cancel' (Nat.le_of_lt hmem.1)]

theorem wake_of_eq (h : i.nextInstant a stop = stop) : i.wake a stop = { i with now := stop } := by
  rw [wake, h, if_neg (Nat.lt_irrefl stop)]

/-- If nothing else happens before the end, the alarm is not before it. -/
theorem alarm_of_nextInstant_eq (hnow : i.now < stop) (h : i.nextInstant a stop = stop)
    {alarm : Nat} (halarm : i.alarm? a = some alarm) (hlt : i.now < alarm) : stop ≤ alarm := by
  have htimer := comingBefore_mem hnow i.sender.due?
  refine Nat.le_of_not_lt fun hstop => ?_
  have hle := (comingBefore_mem htimer.1 (i.alarm? a)).2
  rw [nextInstant] at h
  have hfirst : i.comingBefore stop i.sender.due? = stop := by omega
  rw [hfirst] at h
  exact Nat.lt_irrefl alarm (coming_of_lt_comingBefore (h.symm ▸ hstop) halarm hlt hstop)

/-- A waiting in which nothing else happens takes its last look at the end. -/
theorem awaits_of_nextInstant_eq (hi : i.Settled) (hw : (i.flag a).Watching w)
    (hholds : i.holds a = false) (hnow : i.now < stop) (h : i.nextInstant a stop = stop) :
    i.Awaits a stop ((i.wake a stop).await a stop w) := by
  obtain ⟨hup, hpast⟩ := Bool.or_eq_false_iff.1 ((holds_eq i a).symm.trans hholds)
  have hquiet : ∀ n, n = 0 ∨ n < stop - i.now → (i.advance n).holds a = false := fun n hn => by
    rw [(hi.quiet hnow (by omega : i.now + n < i.nextInstant a stop)).2, hholds]
  have hstop : i.now + (stop - i.now) = stop := Nat.add_sub_cancel' (Nat.le_of_lt hnow)
  have hj : ({ i with now := stop } : Interrupt).runTimer = i.advance (stop - i.now) := by
    rw [advance, hstop]
  have hflag : ({ i with now := stop } : Interrupt).flag a = i.flag a := by cases a <;> rfl
  have hlast : ({ i with now := stop } : Interrupt).holds a = (i.alarm? a).any (· ≤ stop) := by
    rw [holds_eq, hflag, hup, Bool.false_or]
    cases a <;> rfl
  rw [wake_of_eq h, await_at_end (hflag.symm ▸ hw) rfl]
  cases hend : ({ i with now := stop } : Interrupt).holds a with
  | true =>
    rw [hlast, Option.any_eq_true] at hend
    obtain ⟨alarm, halarm, hle⟩ := hend
    have hlt : i.now < alarm := by
      rw [isPast, halarm, Option.any_some, decide_eq_false_iff_not] at hpast
      exact Nat.lt_of_not_le hpast
    have heq : alarm = stop :=
      Nat.le_antisymm (of_decide_eq_true hle) (alarm_of_nextInstant_eq hnow h halarm hlt)
    refine .came hj (.inr (.inr ⟨hstop, heq ▸ halarm⟩)) ?_ fun n hn => hquiet n (.inr hn)
    rw [← hj]
    refine holds_runTimer ?_
    rw [hlast, halarm]
    exact hle
  | false =>
    refine .late hj hstop (fun halarm => ?_) hquiet
    rw [hlast, halarm] at hend
    simp at hend

/-- **A waiting ends as looks would.** -/
theorem await_awaits (hi : i.Settled) (hw : (i.flag a).Watching w) (hstop : i.now ≤ stop) :
    i.Awaits a stop (i.await a stop w) := by
  fun_induction Interrupt.await i a stop w with
  | case1 i w hlook =>
    have hnow : i.runTimer = i.advance 0 := rfl
    refine .came hnow (.inl rfl) ?_ fun n hn => absurd hn (Nat.not_lt_zero n)
    rw [hi.advance_zero]
    exact (look_eq_none_iff hw).1 hlook
  | case2 i w w' hlook hlt ih =>
    have hholds : i.holds a = false := by
      rw [← Bool.not_eq_true, ← look_eq_none_iff hw, hlook]
      exact Option.some_ne_none w'
    have hw' := watching_of_look hw hlook
    have hmem := nextInstant_mem (a := a) hlt
    rcases Nat.lt_or_eq_of_le hmem.2 with hnext | hnext
    · rw [wake_of_lt hlt hnext] at ih ⊢
      have hrest := ih (hi.advance _) (hi.watching_advance hw' _) (by rw [advance_now]; omega)
      refine hrest.of_advance (by omega) (by omega) fun n hn => ?_
      rw [(hi.quiet hlt (by omega : i.now + n < i.nextInstant a stop)).2, hholds]
    · exact awaits_of_nextInstant_eq hi hw' hholds hlt hnext
  | case3 i w w' hlook hlt =>
    have hnow : i.now = stop := Nat.le_antisymm hstop (Nat.le_of_not_lt hlt)
    have hholds : i.holds a = false := by
      rw [← Bool.not_eq_true, ← look_eq_none_iff hw, hlook]
      exact Option.some_ne_none w'
    have hlast : i.runTimer = i.advance 0 := rfl
    refine .late hlast hnow (fun halarm => ?_) fun n hn => ?_
    · have hpast := (Bool.or_eq_false_iff.1 ((holds_eq i a).symm.trans hholds)).2
      simp [isPast, halarm, hnow] at hpast
    · obtain rfl : n = 0 := by omega
      rw [hi.advance_zero, hholds]

/-- A waiting that tells what looks would: whether one of them, now or before the end, finds what is
waited for.  It is over at the first such instant, and else when the time is. -/
structure Waited (look : Interrupt → Bool) (i : Interrupt) (ms : Nat) (answer : Bool)
    (j : Interrupt) : Prop where
  answer_iff : answer = true ↔ look i = true ∨ ∃ n < ms, look (i.advance n) = true
  first : answer = true →
    ∃ n, j = i.advance n ∧ look j = true ∧ ∀ k < n, look (i.advance k) = false
  late : answer = false → j = i.advance ms

theorem waitFor_awaits (hi : i.Settled) (a : Awaited) (ms : Nat) :
    ∃ answer j, i.waitFor a ms = (some answer, j.runTimer) ∧
      i.Awaits a (i.now + ms) (answer, j) :=
  ⟨_, _, rfl, await_awaits hi trivial (Nat.le_add_right _ _)⟩

/-- Where the alarm does not go off at the very end of a waiting, it tells what looks would. -/
theorem waitFor_waited (hi : i.Settled) {ms : Nat} (h : i.alarm? a ≠ some (i.now + ms)) :
    ∃ answer j, i.waitFor a ms = (some answer, j) ∧ Waited (·.holds a) i ms answer j := by
  obtain ⟨answer, j, hwait, hawaits⟩ := waitFor_awaits hi a ms
  refine ⟨answer, j.runTimer, hwait, ?_⟩
  cases hawaits with
  | @came j n hj hn hholds first =>
    refine ⟨iff_of_true rfl ?_, fun _ => ⟨n, hj, hj ▸ hholds, first⟩, fun h => by cases h⟩
    rcases hn with rfl | hlt | ⟨-, halarm⟩
    · rw [hi.advance_zero] at hholds
      exact .inl hholds
    · exact .inr ⟨n, Nat.lt_of_add_lt_add_left hlt, hholds⟩
    · exact absurd halarm h
  | @late j n hj hn halarm before =>
    obtain rfl : n = ms := Nat.add_left_cancel hn
    refine ⟨iff_of_false Bool.false_ne_true ?_, fun h => (by cases h), fun _ => hj⟩
    rintro (hnow | ⟨k, hk, hlook⟩)
    · rw [← hi.advance_zero, before 0 (.inl rfl)] at hnow
      cases hnow
    · rw [before k (.inr hk)] at hlook
      cases hlook

/-- An alarm at the very end of a waiting counts. -/
theorem waitFor_of_alarm (hi : i.Settled) {ms : Nat} (h : i.alarm? a = some (i.now + ms)) :
    ∃ n ≤ ms, i.waitFor a ms = (some true, i.advance n) ∧ (i.advance n).holds a = true ∧
      ∀ k < n, (i.advance k).holds a = false := by
  obtain ⟨answer, j, hwait, hawaits⟩ := waitFor_awaits hi a ms
  cases hawaits with
  | @came j n hj hn hholds first =>
    refine ⟨n, by omega, hj ▸ hwait, hholds, first⟩
  | late _ _ halarm _ => exact absurd h halarm

theorem waitFor_eq_advance (hi : i.Settled) (a : Awaited) (ms : Nat) :
    ∃ n, (i.waitFor a ms).2 = i.advance n := by
  obtain ⟨answer, j, hwait, hawaits⟩ := waitFor_awaits hi a ms
  rw [hwait]
  cases hawaits with
  | came hj _ _ _ => exact ⟨_, hj⟩
  | late hj _ _ _ => exact ⟨_, hj⟩

end Interrupt

end Inspection
