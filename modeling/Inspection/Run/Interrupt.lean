/-!
# Run — Interrupts

A run ends early when its token is cancelled or its deadline passes.  A token is a flag: its sender
raises it for good, and whoever holds the token sees that it is up, or watches it until it is.  The
sender may be handed to a timer, which raises the flag at its instant and gives the sender up at
once, or be given up without that.  Instants are milliseconds from the start.

* `Interrupt.cancelled`, `Interrupt.triggered`: what holds now.
* `Interrupt.await`: waiting for one of the two, with a look whenever something may have changed.
* `Interrupt.perform`: what is done with a token, its sender and its interrupt.
-/

namespace Inspection

/-- A flag that is raised at one end and watched at the other. -/
structure Flag where
  isUp : Bool := false
  /-- How often it was raised, so that a watcher can tell that it was. -/
  raises : Nat := 0
  /-- Nobody is left who could raise it. -/
  isLeft : Bool := false
deriving DecidableEq, Repr

/-- Where the watching of a flag stands. -/
inductive Watch where
  | unread
  /-- Waits until the flag has been raised more often than that. -/
  | since (raises : Nat)
  /-- Nobody can raise the flag any more, and nothing else will come. -/
  | forever
deriving DecidableEq, Repr

namespace Flag

/-- A flag that nobody can raise. -/
def never : Flag := { isLeft := true }

/-- Raises the flag. -/
def raise (f : Flag) : Flag := { f with isUp := true, raises := f.raises + 1 }

/-- Gives up the end at which the flag is raised. -/
def leave (f : Flag) : Flag := { f with isLeft := true }

/-- Waits for a raise later than the last one; without anybody left it waits for ever. -/
def awaitRaise (f : Flag) : Watch := if f.isLeft then .forever else .since f.raises

/-- Reads the flag: nothing is left to wait for if it is up. -/
def read (f : Flag) : Option Watch := if f.isUp then none else some f.awaitRaise

/-- Looks at the flag from where the watching stands: nothing is left to wait for, or where it then
stands.  A raise that was missed is seen before it is seen that nobody is left. -/
def look (f : Flag) : Watch → Option Watch
  | .unread => f.read
  | .since raises => if raises = f.raises then some f.awaitRaise else f.read
  | .forever => some .forever

end Flag

/-- Who can still cancel a token. -/
inductive Sender where
  | held
  /-- A timer cancels the token at an instant and gives the sender up. -/
  | timer (instant : Nat)
  | gone
deriving DecidableEq, Repr

/-- The instant at which a timer with the sender is due. -/
def Sender.due? : Sender → Option Nat
  | .timer instant => some instant
  | _ => none

/-- A token with its sender, a deadline, and the instant now. -/
structure Interrupt where
  now : Nat := 0
  token : Flag := {}
  sender : Sender := .held
  deadline : Option Nat := none
  /-- The interrupt looks at the token and the deadline; else it never triggers. -/
  isLinked : Bool := true
deriving DecidableEq, Repr

namespace Interrupt

/-- The earlier of two instants, where there may be none. -/
def earlier : Option Nat → Option Nat → Option Nat
  | some a, some b => some (min a b)
  | a, none => a
  | none, b => b

/-- What can be waited for. -/
inductive Awaited where
  | cancelled
  | triggered
deriving DecidableEq, Repr

/-- The flag that is watched. -/
def flag (i : Interrupt) : Awaited → Flag
  | .cancelled => i.token
  | .triggered => if i.isLinked then i.token else .never

/-- The instant from which nothing else is needed. -/
def alarm? (i : Interrupt) : Awaited → Option Nat
  | .cancelled => none
  | .triggered => if i.isLinked then i.deadline else none

/-- The alarm, if there is one, has gone off. -/
def isPast (i : Interrupt) (a : Awaited) : Bool := (i.alarm? a).any (· ≤ i.now)

/-- The token is cancelled. -/
def cancelled (i : Interrupt) : Bool := i.token.isUp

/-- The interrupt is triggered. -/
def triggered (i : Interrupt) : Bool := (i.flag .triggered).isUp || i.isPast .triggered

/-- A timer that is due cancels the token and gives the sender up. -/
def runTimer (i : Interrupt) : Interrupt :=
  if i.sender.due?.any (· ≤ i.now) then { i with token := i.token.raise.leave, sender := .gone }
  else i

/-- The clock moves on. -/
def advance (i : Interrupt) (ms : Nat) : Interrupt := { i with now := i.now + ms }.runTimer

/-- The instant, if it is to come before another one; else that one. -/
def comingBefore (i : Interrupt) (stop : Nat) (instant? : Option Nat) : Nat :=
  (instant?.filter fun instant => i.now < instant && instant < stop).getD stop

/-- The next instant, up to `stop`, at which something may happen. -/
def nextInstant (i : Interrupt) (a : Awaited) (stop : Nat) : Nat :=
  i.comingBefore (i.comingBefore stop i.sender.due?) (i.alarm? a)

/-- The clock moves on to the next instant at which something may happen.  A timer has its turn
then, but at the very end of a waiting the waiting comes first. -/
def wake (i : Interrupt) (a : Awaited) (stop : Nat) : Interrupt :=
  let i := { i with now := i.nextInstant a stop }
  if i.now < stop then i.runTimer else i

/-- Looks for what is waited for: nothing if it is there, else where the watching then stands. -/
def look (i : Interrupt) (a : Awaited) (w : Watch) : Option Watch :=
  if i.isPast a then none else (i.flag a).look w

theorem comingBefore_mem {i : Interrupt} {stop : Nat} (h : i.now < stop) (instant? : Option Nat) :
    i.now < i.comingBefore stop instant? ∧ i.comingBefore stop instant? ≤ stop := by
  cases instant? with
  | none => exact ⟨h, Nat.le_refl stop⟩
  | some instant =>
    rw [comingBefore, Option.filter_some]
    split
    · rename_i hinstant
      simp only [Bool.and_eq_true, decide_eq_true_eq] at hinstant
      exact ⟨hinstant.1, Nat.le_of_lt hinstant.2⟩
    · exact ⟨h, Nat.le_refl stop⟩

theorem nextInstant_mem {i : Interrupt} {a : Awaited} {stop : Nat} (h : i.now < stop) :
    i.now < i.nextInstant a stop ∧ i.nextInstant a stop ≤ stop := by
  have htimer := comingBefore_mem h i.sender.due?
  have halarm := comingBefore_mem htimer.1 (i.alarm? a)
  exact ⟨halarm.1, Nat.le_trans halarm.2 htimer.2⟩

@[simp] theorem runTimer_now (i : Interrupt) : i.runTimer.now = i.now := by
  unfold runTimer
  split <;> rfl

@[simp] theorem wake_now (i : Interrupt) (a : Awaited) (stop : Nat) :
    (i.wake a stop).now = i.nextInstant a stop := by
  dsimp only [wake]
  split
  · exact runTimer_now _
  · rfl

/-- Waits until an instant for one of the two: whether it came, and the clock after that. -/
def await (i : Interrupt) (a : Awaited) (stop : Nat) (w : Watch) : Bool × Interrupt :=
  match i.look a w with
  | none => (true, i)
  | some w => if i.now < stop then (i.wake a stop).await a stop w else (false, i)
termination_by stop - i.now
decreasing_by
  rename_i h
  have := nextInstant_mem (a := a) h
  rw [wake_now]
  omega

/-- Waits so long for one of the two; after that a timer that is due has its turn. -/
def waitFor (i : Interrupt) (a : Awaited) (ms : Nat) : Option Bool × Interrupt :=
  let (answer, i) := i.await a (i.now + ms) .unread
  (some answer, i.runTimer)

/-- What is done with a token, its sender and its interrupt. -/
inductive Action where
  | cancel
  | cancelIn (ms : Nat)
  | dropSender
  | advance (ms : Nat)
  | wait (ms : Nat)
  | waitToken (ms : Nat)
  | isTriggered
  | isCancelled
deriving DecidableEq, Repr

/-- The sender is handed to a timer, which may be due at once. -/
def handOver (i : Interrupt) (ms : Nat) : Interrupt :=
  { i with sender := .timer (i.now + ms) }.runTimer

/-- Carries out an action; some answer a question. -/
def perform (i : Interrupt) : Action → Option Bool × Interrupt
  | .cancel =>
    if i.sender = .held then (some true, { i with token := i.token.raise }) else (some false, i)
  | .cancelIn ms => (none, if i.sender = .held then i.handOver ms else i)
  | .dropSender =>
    (none, if i.sender = .held then { i with token := i.token.leave, sender := .gone } else i)
  | .advance ms => (none, i.advance ms)
  | .wait ms => i.waitFor .triggered ms
  | .waitToken ms => i.waitFor .cancelled ms
  | .isTriggered => (some i.triggered, i)
  | .isCancelled => (some i.cancelled, i)

/-- Carries out actions one after another: each answer with the instant after it. -/
def performAll (i : Interrupt) : List Action → List (Option Bool × Nat)
  | [] => []
  | a :: rest =>
    let (answer, i) := i.perform a
    (answer, i.now) :: performAll i rest

end Interrupt

end Inspection
