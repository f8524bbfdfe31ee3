import RobotFirmware.Encoder.QuadratureEncoder

/-!
# How often the encoder is sampled

The cycles between two samples depend on what the pins did and on whether the processor asked. At
each place of the program the cycles since the last sample lie between two bounds, and the bounds
at `IN PINS` are the shortest and the longest gap. Cycles spent waiting for the queue of the answers
are not counted; a processor that fetches its answers causes none.
-/

namespace RobotFirmware.Encoder

open Pio (Word Event Machine)

/-- Whether the event is one of a cycle that did not wait. -/
def working : Event → Bool
  | .quiet | .sampled _ | .pulled _ | .pushed _ => true
  | .stalled | .written _ | .read _ | .refused => false

/-- Whether the pins were sampled. -/
def samples : Event → Bool
  | .sampled _ => true
  | _ => false

/-- Whether an answer was given. -/
def answers : Event → Bool
  | .pushed _ => true
  | _ => false

/-- A stopwatch that is restarted by each sample. -/
structure Stopwatch where
  /-- The cycles since then. -/
  since : Nat
  /-- Whether an answer was given since then. -/
  answered : Bool

/-- The stopwatch after an event. -/
def Stopwatch.observe (watch : Stopwatch) (event : Event) : Stopwatch :=
  if samples event then ⟨0, false⟩
  else ⟨watch.since + (working event).toNat, watch.answered || answers event⟩

/-- The fewest cycles since the sample at each place. -/
def Place.earliest : Place → Nat
  | .dispatch => 0
  | .entry => 1
  | .lower => 1
  | .update => 1
  | .pull => 2
  | .keep _ => 3
  | .save _ => 4
  | .branch _ => 5
  | .load => 6
  | .push => 7
  | .clear => 6
  | .shift => 7
  | .sample => 8
  | .negate => 2
  | .raise => 3
  | .restore => 4

/-- The most cycles since the sample at each place, given whether an answer was given on the way. -/
def Place.latest (answered : Bool) : Place → Nat
  | .dispatch => 0
  | .entry => 1
  | .lower => 2
  | .update => 5
  | .pull => 6
  | .keep _ => 7
  | .save _ => 8
  | .branch _ => 9
  | .load => 10
  | .push => 11
  | .clear => if answered then 12 else 10
  | .shift => if answered then 13 else 11
  | .sample => if answered then 14 else 12
  | .negate => 2
  | .raise => 3
  | .restore => 4

/-- The stopwatch is within the bounds of the place; an answer takes a while. -/
structure Punctual (watch : Stopwatch) (place : Place) : Prop where
  /-- Not too early. -/
  earliest : place.earliest ≤ watch.since
  /-- Not too late. -/
  latest : watch.since ≤ place.latest watch.answered
  /-- No answer is given in the first cycles. -/
  answered : watch.answered = true → 8 ≤ watch.since

/-- Every way of the program keeps the bounds. -/
theorem punctual_move {watch : Stopwatch} {place next : Place} {event : Event}
    (move : Move place event next) (punctual : Punctual watch place) :
    Punctual (watch.observe event) next := by
  obtain ⟨since, answered⟩ := watch
  obtain ⟨early, late, slow⟩ := punctual
  cases move <;> cases answered <;> constructor <;>
    simp [Place.earliest, Place.latest, Stopwatch.observe, samples, working, answers]
      at early late slow ⊢ <;> omega

/-- The processor does not move the stopwatch. -/
theorem observe_of_access (watch : Stopwatch) (event : Event) (access : event.isCycle = false) :
    watch.observe event = watch := by
  obtain ⟨since, answered⟩ := watch
  cases event with
  | written | read | refused => cases answered <;> rfl
  | _ => cases access

/-- The stopwatch after some events, set as if the pins had been sampled just before the start. -/
def timed (events : List Event) : Stopwatch := events.foldl Stopwatch.observe ⟨1, false⟩

/-- In every run the program is at a place whose bounds the stopwatch keeps. -/
theorem run_punctual (x y osr : Word) (actions : List Pio.Action) :
    ∃ place : Place,
      place.Holds (counted y (ran x y osr actions).2)
        (ran x y osr actions).1 ∧
      Punctual (timed (ran x y osr actions).2) place :=
  run_places Stopwatch.observe Punctual (fun _ _ _ _ move known => punctual_move move known)
    observe_of_access x y osr actions ⟨1, false⟩ ⟨Nat.le_refl 1, Nat.le_refl 1, nofun⟩

/-- The working cycles among some events. -/
def cycles (events : List Event) : Nat := events.countP working

/-- Without a sample the stopwatch goes on. -/
theorem observe_unsampled {events : List Event} (unsampled : events.any samples = false)
    (watch : Stopwatch) :
    events.foldl Stopwatch.observe watch =
      ⟨watch.since + cycles events, watch.answered || events.any answers⟩ := by
  induction events generalizing watch with
  | nil => simp [cycles]
  | cons event events ih =>
    rw [List.any_cons, Bool.or_eq_false_iff] at unsampled
    rw [List.foldl_cons, ih unsampled.2, Stopwatch.observe, unsampled.1, cycles, cycles,
      List.countP_cons, List.any_cons]
    cases working event with
    | false => simp [Bool.or_assoc]
    | true =>
      simp only [Bool.toNat_true, Bool.or_assoc, ↓reduceIte, Bool.false_eq_true]
      congr 1
      omega

/-- The latest place is `IN PINS` after an answer. -/
theorem latest_le (answered : Bool) (place : Place) :
    place.latest answered ≤ if answered then 14 else 12 := by
  cases place <;> cases answered <;> simp [Place.latest]

/-- What the stopwatch shows at any point of a run. -/
theorem timed_le (x y osr : Word) (actions : List Pio.Action) (before after : List Event)
    (events : (ran x y osr actions).2 = before ++ after) :
    ((timed before).since ≤ if (timed before).answered then 14 else 12) ∧
      ((timed before).answered = true → 8 ≤ (timed before).since) := by
  obtain ⟨first, seen⟩ := Machine.run_prefix events
  obtain ⟨place, _, punctual⟩ := run_punctual x y osr first
  rw [seen] at punctual
  exact ⟨Nat.le_trans punctual.latest (latest_le _ _), punctual.answered⟩

/-- A stretch of a run without a sample is short. -/
theorem unsampled_short (x y osr : Word) (actions : List Pio.Action)
    (before middle after : List Event)
    (events : (ran x y osr actions).2 = before ++ middle ++ after)
    (unsampled : middle.any samples = false) :
    cycles middle ≤ 14 ∧ (middle.any answers = false → cycles middle ≤ 12) := by
  obtain ⟨late, _⟩ := timed_le x y osr actions _ _ events
  obtain ⟨_, slow⟩ := timed_le x y osr actions before (middle ++ after)
    (events.trans (List.append_assoc _ _ _))
  have ended : timed (before ++ middle) =
      ⟨(timed before).since + cycles middle, (timed before).answered || middle.any answers⟩ := by
    rw [timed, List.foldl_append]
    exact observe_unsampled unsampled _
  rw [ended] at late
  dsimp only at late
  cases answered : (timed before).answered with
  | true =>
    have far := slow answered
    simp only [answered, Bool.true_or, ↓reduceIte] at late
    omega
  | false =>
    rw [answered, Bool.false_or] at late
    cases asked : middle.any answers with
    | true =>
      rw [asked, if_pos rfl] at late
      exact ⟨by omega, nofun⟩
    | false =>
      rw [asked, if_neg Bool.false_ne_true] at late
      omega

/-- Only `IN PINS` samples the pins. -/
theorem Move.of_sampled {place next : Place} {pins : Word}
    (move : Move place (.sampled pins) next) :
    place = .sample := by
  cases move
  rfl

/-- Samples are a while apart. -/
theorem sampled_apart (x y osr : Word) (actions : List Pio.Action)
    (before middle after : List Event) (earlier later : Word)
    (events : (ran x y osr actions).2 =
      before ++ .sampled earlier :: middle ++ .sampled later :: after)
    (unsampled : middle.any samples = false) : 8 ≤ cycles middle := by
  obtain ⟨first, pins, seen, sampled⟩ := Machine.run_split_cycle events rfl
  obtain ⟨place, holds, punctual⟩ := run_punctual x y osr first
  have ended : timed (before ++ .sampled earlier :: middle) =
      ⟨cycles middle, middle.any answers⟩ := by
    rw [timed, List.foldl_append, List.foldl_cons, observe_unsampled unsampled]
    simp [Stopwatch.observe, samples]
  rw [← seen, ended] at punctual
  obtain ⟨next, move, _⟩ := (advances pins holds).moves
  rw [← sampled] at move
  obtain rfl := move.of_sampled
  exact punctual.earliest

/-- At most fifteen cycles after a sample comes the next one, at most thirteen if no answer is given
on the way, and at the earliest nine. -/
theorem sampling_intervals (x y osr : Word) (actions : List Pio.Action)
    (before middle after : List Event)
    (events : (ran x y osr actions).2 = before ++ middle ++ after)
    (unsampled : middle.any samples = false) :
    cycles middle ≤ 14 ∧ (middle.any answers = false → cycles middle ≤ 12) ∧
      ∀ earlier later first rest, before = first ++ [.sampled earlier] →
        after = .sampled later :: rest → 8 ≤ cycles middle := by
  obtain ⟨fourteen, twelve⟩ := unsampled_short x y osr actions before middle after events unsampled
  refine ⟨fourteen, twelve, fun earlier later first rest preceded followed => ?_⟩
  refine sampled_apart x y osr actions first middle rest earlier later ?_ unsampled
  rw [events, preceded, followed]
  simp only [List.append_assoc, List.cons_append, List.nil_append]

/-- What is seen between two samples when the first one was a step forwards and the processor asks
at once. -/
def longest : List Event :=
  .written 1 :: List.replicate 6 .quiet ++ [.pulled 1] ++ List.replicate 4 .quiet ++ [.pushed 1] ++
    List.replicate 2 .quiet

/-- The longest interval. -/
theorem sampling_intervals_longest :
    cycles longest = 14 ∧ cycles longest ≤ 14 ∧
      (longest.any answers = false → cycles longest ≤ 12) ∧
      ∀ earlier later first rest,
        List.replicate 8 Event.quiet ++ [.sampled 2] = first ++ [.sampled earlier] →
        [Event.sampled 3] = .sampled later :: rest → 8 ≤ cycles longest :=
  ⟨rfl, sampling_intervals 0 0 0 (List.replicate 9 (.cycle 2) ++ .access (.write 1) ::
    (List.replicate 14 (.cycle 2) ++ [.cycle 3])) (List.replicate 8 .quiet ++ [.sampled 2]) longest
    [.sampled 3] rfl rfl⟩

end RobotFirmware.Encoder
