/-!
# Run — Schedules

Jobs of known durations are carried out in order on a number of slots.  A job starts as soon as a
slot is free, holds it while it runs and gives it back when it ends; the clock advances only while
no job can start, and then to the first end of a running job.  From the instant of an interrupt on
no job starts; what runs then has a grace period to end, and is abandoned after it.

* `Schedule.next?`: the next thing that happens.
* `Schedule.run`: all that happens.
* `schedule`: the whole course.
-/

namespace Inspection

/-- A job with the instants of its start and its end. -/
structure Job (α : Type) where
  item : α
  start : Nat
  finish : Nat
deriving DecidableEq, Repr

/-- What a schedule keeps to. -/
structure Plan (α : Type) where
  /-- The number of jobs at a time. -/
  slots : Nat
  /-- The time that a job takes. -/
  duration : α → Nat
  /-- The instant of the interrupt, if there is one. -/
  stop : Option Nat
  /-- The time that running jobs get after the interrupt. -/
  grace : Nat

/-- Where a schedule stands. -/
structure Schedule (α : Type) where
  now : Nat
  /-- The number of slots that no job holds. -/
  free : Nat
  waiting : List α
  running : List (Job α) := []
  finished : List (Job α) := []
  /-- The jobs that were given up; each ends when it was. -/
  abandoned : List (Job α) := []
  /-- From the interrupt on, the instant at which what still runs is given up. -/
  limit : Option Nat := none

namespace Schedule

variable {α : Type}

/-- Nothing has started. -/
def initial (slots now : Nat) (items : List α) : Schedule α :=
  { now, free := slots, waiting := items }

/-- All jobs that have started. -/
def jobs (s : Schedule α) : List (Job α) := s.finished ++ s.abandoned ++ s.running

/-- The job takes a slot and starts now. -/
def start (s : Schedule α) (duration : α → Nat) (item : α) (rest : List α) : Schedule α :=
  { s with
    free := s.free - 1
    waiting := rest
    running := s.running ++ [{ item, start := s.now, finish := s.now + duration item }] }

/-- The clock stands at an instant at which running jobs end; they give their slots back. -/
def finishAt (s : Schedule α) (instant : Nat) : Schedule α :=
  let ended := s.running.filter fun j => j.finish ≤ instant
  { s with
    now := instant
    free := s.free + ended.length
    running := s.running.filter fun j => instant < j.finish
    finished := s.finished ++ ended }

/-- The interrupt comes, or has come already; from here on no job starts. -/
def interrupt (s : Schedule α) (stop grace : Nat) : Schedule α :=
  let began := max s.now stop
  { s with now := began, limit := some (began + grace) }

/-- The grace period is over; what still runs is given up, and its slots are free again. -/
def abandon (s : Schedule α) (limit : Nat) : Schedule α :=
  { s with
    now := limit
    free := s.free + s.running.length
    running := []
    abandoned := s.abandoned ++ s.running.map fun j => { j with finish := limit } }

/-- The instant is before the interrupt. -/
def isBefore (instant : Nat) (stop : Option Nat) : Bool := stop.all (instant < ·)

/-- The first end of a running job. -/
def firstFinish? (s : Schedule α) : Option Nat := (s.running.map (·.finish)).min?

/-- The next thing that happens: a job starts, running jobs end, the interrupt comes, or what runs
is given up. -/
def next? (p : Plan α) (s : Schedule α) : Option (Schedule α) :=
  match s.limit, s.waiting with
  | some limit, _ =>
    s.firstFinish?.map fun instant =>
      if instant < limit then s.finishAt instant else s.abandon limit
  | none, item :: rest =>
    if isBefore s.now p.stop && 0 < s.free then some (s.start p.duration item rest)
    else advance
  | none, [] => advance
where
  /-- The clock advances to the first end of a running job, or to the interrupt if that is earlier;
  once no job waits or runs, there is nothing to interrupt. -/
  advance : Option (Schedule α) :=
    match s.firstFinish? with
    | some instant =>
      if isBefore instant p.stop then some (s.finishAt instant) else interrupted
    | none => if s.waiting.isEmpty then none else interrupted
  /-- The interrupt comes, if there is one. -/
  interrupted : Option (Schedule α) := p.stop.map fun instant => s.interrupt instant p.grace

/-- Every event takes a job out of the waiting or the running ones, but for the interrupt, which
comes once. -/
def measure (s : Schedule α) : Nat :=
  2 * s.waiting.length + s.running.length + if s.limit.isNone then 1 else 0

theorem firstFinish?_eq_none_iff {s : Schedule α} : s.firstFinish? = none ↔ s.running = [] := by
  simp [firstFinish?]

theorem exists_finish_eq_of_firstFinish? {s : Schedule α} {instant : Nat}
    (h : s.firstFinish? = some instant) : ∃ j ∈ s.running, j.finish = instant :=
  List.mem_map.1 (List.min?_mem h)

theorem le_finish_of_firstFinish? {s : Schedule α} {instant : Nat}
    (h : s.firstFinish? = some instant) : ∀ j ∈ s.running, instant ≤ j.finish :=
  fun j hj => (List.min?_eq_some_iff.1 h).2 j.finish (List.mem_map_of_mem hj)

/-- What happens next, one constructor for each kind of event, with all that allows it. -/
inductive Step (p : Plan α) (s : Schedule α) : Schedule α → Prop where
  | start {item : α} {rest : List α} (hlimit : s.limit = none) (hwaiting : s.waiting = item :: rest)
      (hbefore : isBefore s.now p.stop = true) (hfree : 0 < s.free) :
      Step p s (s.start p.duration item rest)
  | finish {instant : Nat} (hlimit : s.limit = none)
      (hfull : s.waiting ≠ [] → isBefore s.now p.stop = true → s.free = 0)
      (hfirst : s.firstFinish? = some instant) (hbefore : isBefore instant p.stop = true) :
      Step p s (s.finishAt instant)
  | interrupt {stop : Nat} (hlimit : s.limit = none) (hstop : p.stop = some stop)
      (hfull : s.waiting ≠ [] → isBefore s.now p.stop = true → s.free = 0)
      (hlater : ∀ j ∈ s.running, stop ≤ j.finish) :
      Step p s (s.interrupt stop p.grace)
  | drain {limit instant : Nat} (hlimit : s.limit = some limit)
      (hfirst : s.firstFinish? = some instant) (hlt : instant < limit) :
      Step p s (s.finishAt instant)
  | abandon {limit instant : Nat} (hlimit : s.limit = some limit)
      (hfirst : s.firstFinish? = some instant) (hle : limit ≤ instant) :
      Step p s (s.abandon limit)

/-- The interrupt leaves nothing running that ends before it. -/
theorem step_of_interrupted {p : Plan α} {s t : Schedule α} (hlimit : s.limit = none)
    (hfull : s.waiting ≠ [] → isBefore s.now p.stop = true → s.free = 0)
    (hlater : ∀ instant, s.firstFinish? = some instant → isBefore instant p.stop = false)
    (h : next?.interrupted p s = some t) : Step p s t := by
  obtain ⟨stop, hstop, rfl⟩ := Option.map_eq_some_iff.1 h
  refine .interrupt hlimit hstop hfull fun j hj => ?_
  cases hfirst : s.firstFinish? with
  | none => simp [firstFinish?_eq_none_iff.1 hfirst] at hj
  | some instant =>
    have hge : stop ≤ instant := by simpa [isBefore, hstop] using hlater instant hfirst
    exact Nat.le_trans hge (le_finish_of_firstFinish? hfirst j hj)

theorem step_of_advance {p : Plan α} {s t : Schedule α} (hlimit : s.limit = none)
    (hfull : s.waiting ≠ [] → isBefore s.now p.stop = true → s.free = 0)
    (h : next?.advance p s = some t) : Step p s t := by
  unfold next?.advance at h
  cases hfirst : s.firstFinish? with
  | none =>
    simp only [hfirst] at h
    split at h
    · cases h
    · exact step_of_interrupted hlimit hfull (by simp [hfirst]) h
  | some instant =>
    simp only [hfirst] at h
    split at h
    · rename_i hbefore
      obtain rfl := Option.some.inj h
      exact .finish hlimit hfull hfirst hbefore
    · rename_i hbefore
      exact step_of_interrupted hlimit hfull (by simpa [hfirst] using hbefore) h

/-- The next thing that happens is one of the five. -/
theorem step_of_next? {p : Plan α} {s t : Schedule α} (h : next? p s = some t) : Step p s t := by
  unfold next? at h
  split at h
  · rename_i limit _ hlimit
    obtain ⟨instant, hfirst, rfl⟩ := Option.map_eq_some_iff.1 h
    split
    · exact .drain hlimit hfirst ‹_›
    · exact .abandon hlimit hfirst (by omega)
  · rename_i item rest hlimit hwaiting
    split at h
    · rename_i hstart
      obtain rfl := Option.some.inj h
      simp only [Bool.and_eq_true, decide_eq_true_eq] at hstart
      exact .start hlimit hwaiting hstart.1 hstart.2
    · rename_i hstart
      refine step_of_advance hlimit (fun _ hbefore => ?_) h
      simpa [hbefore] using hstart
  · rename_i hlimit hwaiting
    exact step_of_advance hlimit (fun hne => absurd hwaiting hne) h

theorem length_running_finishAt_lt {s : Schedule α} {instant : Nat}
    (h : s.firstFinish? = some instant) :
    (s.finishAt instant).running.length < s.running.length := by
  obtain ⟨j, hj, hjf⟩ := exists_finish_eq_of_firstFinish? h
  apply List.length_filter_lt_length_iff_exists.2
  exact ⟨j, hj, by simp [hjf]⟩

theorem Step.measure_lt {p : Plan α} {s t : Schedule α} (h : Step p s t) :
    t.measure < s.measure := by
  cases h with
  | start hlimit hwaiting _ _ =>
    simp only [measure, Schedule.start, hlimit, hwaiting, List.length_append, List.length_cons,
      List.length_nil]
    omega
  | finish hlimit _ hfirst _ =>
    have := length_running_finishAt_lt hfirst
    simp only [measure, finishAt, hlimit] at this ⊢
    omega
  | interrupt hlimit _ _ _ =>
    simp [measure, Schedule.interrupt, hlimit]
  | drain hlimit hfirst _ =>
    have := length_running_finishAt_lt hfirst
    simp only [measure, finishAt, hlimit] at this ⊢
    omega
  | abandon hlimit hfirst _ =>
    obtain ⟨j, hj, -⟩ := exists_finish_eq_of_firstFinish? hfirst
    have := List.length_pos_of_mem hj
    simp only [measure, Schedule.abandon, hlimit, List.length_nil]
    omega

/-- All that happens. -/
def run (p : Plan α) (s : Schedule α) : Schedule α :=
  match _h : next? p s with
  | some t => run p t
  | none => s
termination_by s.measure
decreasing_by exact (step_of_next? ‹_›).measure_lt

end Schedule

/-- How a schedule has gone. -/
structure Course (α : Type) where
  /-- The jobs that ended. -/
  finished : List (Job α)
  /-- The jobs that started and were given up; each ends when it was. -/
  abandoned : List (Job α)
  /-- The jobs that never started. -/
  unstarted : List α
  /-- The instant at which all is over. -/
  finish : Nat

/-- How a schedule that is over has gone. -/
def Schedule.course {α : Type} (s : Schedule α) : Course α :=
  { finished := s.finished, abandoned := s.abandoned, unstarted := s.waiting, finish := s.now }

/-- The course of jobs, from an instant on. -/
def schedule {α : Type} (p : Plan α) (now : Nat) (items : List α) : Course α :=
  ((Schedule.initial p.slots now items).run p).course

end Inspection
