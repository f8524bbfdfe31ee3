import RobotFirmware.Encoder.Timing

/-!
# Asking for the count

`quadrature_encoder_get_count` writes a word, polls until the queue of the answers has something in
it, and reads it. The processor does so while the state machine runs and the wheel turns; its steps
fall between any two cycles. A wheel is slow enough when it moves at most one quarter step in any
fifteen cycles, the longest interval between two samples.
-/

namespace RobotFirmware.Encoder

open Pio (Word Event Machine)

/-- Where a wheel is at each cycle, in quarter steps. -/
structure Wheel where
  /-- The position. -/
  position : Nat → Int
  /-- No sample is more than one quarter step behind. -/
  slow : ∀ time gap, gap ≤ 15 → (position (time + gap) - position time).natAbs ≤ 1

/-- The processor in `quadrature_encoder_get_count`. -/
inductive Caller where
  /-- It is outside. -/
  | idle
  /-- It wrote the request at that time and waits in `quadrature_encoder_fetch_count`. -/
  | waiting (asked : Nat)
  deriving DecidableEq

/-- The processor is not in two places. -/
theorem Caller.idle_ne_waiting {asked : Nat} : Caller.idle ≠ .waiting asked := nofun

/-- A state machine, its time in cycles and its processor. -/
structure Board where
  /-- The state machine. -/
  machine : Machine
  /-- The cycles so far. -/
  now : Nat
  /-- The processor. -/
  caller : Caller

/-- What happens on a board. -/
inductive Label where
  /-- A cycle of the state machine. -/
  | cycle
  /-- `quadrature_encoder_request_count`. -/
  | request
  /-- `pio_sm_is_rx_fifo_empty` says that there is no answer yet. -/
  | poll
  /-- `quadrature_encoder_get_count`, called and returned at those times, returns the count. -/
  | answer (asked fetched : Nat) (count : Word)

/-- One step of a board. Each cycle sees the pins of the wheel, among other pins. -/
inductive Step (wheel : Wheel) : Board → Label → Board → Prop where
  /-- A cycle. -/
  | cycle {board : Board} (pins : Word) (shows : low pins = shown (wheel.position board.now)) :
      Step wheel board .cycle
        { board with
          machine := (board.machine.cycle quadratureEncoder pins).1
          now := board.now + 1 }
  /-- The processor asks. -/
  | request {board : Board} (idle : board.caller = .idle) :
      Step wheel board .request
        { board with
          machine := (board.machine.serve (.write 1)).1
          caller := .waiting board.now }
  /-- The processor polls in vain. -/
  | poll {board : Board} {asked : Nat} (waiting : board.caller = .waiting asked)
      (empty : board.machine.rx = []) : Step wheel board .poll board
  /-- The processor reads the answer. -/
  | answer {board : Board} {asked : Nat} {count : Word} {rest : List Word}
      (waiting : board.caller = .waiting asked) (ready : board.machine.rx = count :: rest) :
      Step wheel board (.answer asked board.now count)
        { board with
          machine := (board.machine.serve .read).1
          caller := .idle }

/-- A run of a board. -/
inductive Run (wheel : Wheel) (first : Board) : List Label → Board → Prop where
  /-- Nothing has happened. -/
  | refl : Run wheel first [] first
  /-- One more step. -/
  | step {labels : List Label} {board next : Board} {label : Label}
      (before : Run wheel first labels board) (taken : Step wheel board label next) :
      Run wheel first (labels ++ [label]) next

/-- The board after `quadrature_encoder_program_init`. -/
def Board.start (x y osr : Word) : Board := ⟨quadratureEncoderProgramInit x y osr, 0, .idle⟩

/-! ## Requests on their way -/

/-- The program holds a request that it has not answered. -/
def Place.carrying : Place → Bool
  | .keep asked | .save asked | .branch asked => asked
  | .load | .push => true
  | _ => false

/-- The most cycles that a request can have waited in the queue. -/
def Place.queued : Place → Nat
  | .keep _ => 0
  | .save _ => 1
  | .branch _ => 2
  | .load | .push => 0
  | .clear => 3
  | .shift => 4
  | .sample => 5
  | .dispatch => 6
  | .entry => 7
  | .lower => 8
  | .negate => 8
  | .raise => 9
  | .restore => 10
  | .update => 11
  | .pull => 12

/-- The cycles since the pull. -/
def Place.carried : Place → Nat
  | .keep _ => 1
  | .save _ => 2
  | .branch _ => 3
  | .load => 4
  | .push => 5
  | _ => 0

/-- A program that carries no request and pulls none does not give an answer. -/
theorem Move.free {place next : Place} {event : Event} (move : Move place event next)
    (free : place.carrying = false) (unpulled : ∀ word, event ≠ .pulled word) :
    next.carrying = false ∧ (event = .quiet ∨ ∃ pins, event = .sampled pins) := by
  cases move with
  | pull word => exact absurd rfl (unpulled word)
  | answer | load | push | wait => cases free
  | keep asked | save asked => exact ⟨free, .inl rfl⟩
  | sample pins => exact ⟨rfl, .inr ⟨pins, rfl⟩⟩
  | _ => exact ⟨rfl, .inl rfl⟩

/-- A request that is not pulled may have waited one cycle more. -/
theorem Move.queued {place next : Place} {event : Event} (move : Move place event next)
    (free : place.carrying = false) (elsewhere : place ≠ .pull) :
    place.queued + 1 ≤ next.queued := by
  cases move with
  | nothing | pull => exact absurd rfl elsewhere
  | answer | load | push | wait => cases free
  | keep | save => exact Nat.le_refl _
  | _ => decide

/-- A request that is carried is carried on for one cycle more, until it is answered. -/
theorem Move.carried {place next : Place} {event : Event} (move : Move place event next)
    (carrying : place.carrying = true) (moving : event ≠ .stalled) :
    (next.carrying = true ∧ event = .quiet ∧ next.carried = place.carried + 1) ∨
      (place.carried = 5 ∧ next.carrying = false ∧ ∃ word, event = .pushed word) := by
  cases move with
  | wait => exact absurd rfl moving
  | push word => exact .inr ⟨rfl, rfl, word, rfl⟩
  | keep asked | save asked => exact .inl ⟨carrying, rfl, rfl⟩
  | answer | load => exact .inl ⟨rfl, rfl, rfl⟩
  | _ => cases carrying

/-- The count that the processor fetches: that of a time at most seven cycles before it asked, from
some home position. -/
def Fits (wheel : Wheel) (home : Word) (asked fetched : Nat) (count : Word) : Prop :=
  ∃ time, asked ≤ time + 7 ∧ time < fetched ∧
    count = home + BitVec.ofInt 32 (wheel.position time)

/-- Where the request of the processor is. Requests from before the pins were first sampled may be
answered with anything. -/
inductive Errand (wheel : Wheel) (home : Word) (board : Board) (place : Place) : Prop where
  /-- There is none, and nothing is left of earlier ones. -/
  | none (idle : board.caller = .idle) (free : place.carrying = false)
      (tx : board.machine.tx = []) (rx : board.machine.rx = [])
  /-- It is in the queue. -/
  | queued (asked : Nat) (waiting : board.caller = .waiting asked) (free : place.carrying = false)
      (tx : board.machine.tx = [1]) (rx : board.machine.rx = []) (past : asked ≤ board.now)
      (soon : board.now ≤ asked + place.queued)
  /-- The program carries it. -/
  | carried (asked : Nat) (waiting : board.caller = .waiting asked)
      (carrying : place.carrying = true) (tx : board.machine.tx = [])
      (rx : board.machine.rx = []) (past : asked + place.carried ≤ board.now)
      (soon : board.now ≤ asked + place.carried + 12)
  /-- It has been answered. -/
  | answered (asked : Nat) (count : Word) (waiting : board.caller = .waiting asked)
      (free : place.carrying = false) (tx : board.machine.tx = [])
      (rx : board.machine.rx = [count]) (past : asked + 6 ≤ board.now)
      (fits : 16 ≤ asked → Fits wheel home asked board.now count)

/-- A time more has passed for the processor. -/
theorem Fits.later {wheel : Wheel} {home count : Word} {asked fetched : Nat}
    (fits : Fits wheel home asked fetched count) : Fits wheel home asked (fetched + 1) count := by
  obtain ⟨time, recent, past, same⟩ := fits
  exact ⟨time, recent, Nat.lt_succ_of_lt past, same⟩

section

variable {wheel : Wheel} {home : Word} {board : Board} {place next : Place} {event : Event}
  {machine : Machine}

/-- Without a word pulled or handed over the queues stay as they are. -/
theorem queues_same (queues : board.machine.Queues machine event)
    (still : event = .quiet ∨ ∃ pins, event = .sampled pins) :
    machine.tx = board.machine.tx ∧ machine.rx = board.machine.rx := by
  rcases still with rfl | ⟨pins, rfl⟩
  · exact queues
  · exact queues

/-- Nothing is pulled from an empty queue. -/
theorem queues_empty (queues : board.machine.Queues machine event) (tx : board.machine.tx = [])
    (word : Word) : event ≠ .pulled word := by
  rintro rfl
  have pulled := queues.1
  rw [tx] at pulled
  cases pulled

/-- A cycle takes the request on its way, one place at a time. -/
theorem errand_cycle (errand : Errand wheel home board place) (move : Move place event next)
    (queues : board.machine.Queues machine event)
    (takes : place = .pull → board.machine.tx = [1] → event = .pulled 1)
    (moving : board.machine.rx = [] → event ≠ .stalled)
    (fits : ∀ asked word, event = .pushed word → 16 ≤ asked → asked + 5 ≤ board.now →
      Fits wheel home asked (board.now + 1) word) :
    Errand wheel home ⟨machine, board.now + 1, board.caller⟩ next := by
  cases errand with
  | none idle free tx rx =>
    obtain ⟨later, still⟩ := move.free free (queues_empty queues tx)
    obtain ⟨sameTx, sameRx⟩ := queues_same queues still
    exact .none idle later (sameTx.trans tx) (sameRx.trans rx)
  | queued asked waiting free tx rx past soon =>
    by_cases here : place = .pull
    · obtain rfl := takes here tx
      subst here
      obtain ⟨pulled, sameRx⟩ := queues
      rw [tx] at pulled
      have empty : machine.tx = [] := (List.cons.inj pulled).2.symm
      have ends : next = .keep true := by
        cases move
        rfl
      subst ends
      have wait : Place.pull.queued = 12 := rfl
      have first : (Place.keep true).carried = 1 := rfl
      exact .carried asked waiting rfl empty (sameRx.trans rx) (by dsimp only; omega)
        (by dsimp only; omega)
    · have unpulled (word : Word) : event ≠ .pulled word := by
        rintro rfl
        cases move
        exact here rfl
      obtain ⟨later, still⟩ := move.free free unpulled
      obtain ⟨sameTx, sameRx⟩ := queues_same queues still
      have more := move.queued free here
      exact .queued asked waiting later (sameTx.trans tx) (sameRx.trans rx) (Nat.le_succ_of_le past)
        (by dsimp only; omega)
  | carried asked waiting carrying tx rx past soon =>
    obtain ⟨later, rfl, more⟩ | ⟨last, later, word, rfl⟩ := move.carried carrying (moving rx)
    · obtain ⟨sameTx, sameRx⟩ := queues
      exact .carried asked waiting later (sameTx.trans tx) (sameRx.trans rx)
        (by dsimp only; omega) (by dsimp only; omega)
    · obtain ⟨sameTx, handed⟩ := queues
      rw [rx] at handed
      exact .answered asked word waiting later (sameTx.trans tx) handed (by dsimp only; omega)
        fun settled => fits asked word rfl settled (by omega)
  | answered asked count waiting free tx rx past known =>
    obtain ⟨later, still⟩ := move.free free (queues_empty queues tx)
    obtain ⟨sameTx, sameRx⟩ := queues_same queues still
    exact .answered asked count waiting later (sameTx.trans tx) (sameRx.trans rx)
      (Nat.le_succ_of_le past) fun settled => (known settled).later

end

/-! ## Following the wheel -/

/-- The counter shows the position at the last sample, from some home position; before the first
sample the stopwatch runs ahead of the time. -/
structure Follows (wheel : Wheel) (home : Word) (now : Nat) (counter : Counter) (since : Nat) :
    Prop where
  /-- The pins have been sampled. -/
  sampled : since < now → counter.last = shown (wheel.position (now - 1 - since)) ∧
    counter.count = home + BitVec.ofInt 32 (wheel.position (now - 1 - since))
  /-- They have not. -/
  unsampled : now ≤ since → since = now + 1

section

variable {wheel : Wheel} {home : Word} {now since : Nat} {counter : Counter}

/-- Between samples nothing is counted. -/
theorem Follows.on (follows : Follows wheel home now counter since) :
    Follows wheel home (now + 1) counter (since + 1) where
  sampled past := by
    have same : now + 1 - 1 - (since + 1) = now - 1 - since := by omega
    rw [same]
    exact follows.sampled (by omega)
  unsampled ahead := by rw [follows.unsampled (by omega)]

/-- A sample that comes in time is counted exactly; the first one settles what home is. -/
theorem Follows.sample (follows : Follows wheel home now counter since) (short : since ≤ 14) :
    ∃ home', (since < now → home' = home) ∧
      Follows wheel home' (now + 1) (counter.sample (shown (wheel.position now))) 0 := by
  by_cases past : since < now
  · obtain ⟨last, count⟩ := follows.sampled past
    refine ⟨home, fun _ => rfl, fun _ => ⟨rfl, ?_⟩, fun ahead => by omega⟩
    have near := wheel.slow (now - 1 - since) (since + 1) (by omega)
    rw [show now - 1 - since + (since + 1) = now by omega] at near
    show counter.count + BitVec.ofInt 32 (quarterSteps counter.last _) = _
    have onwards (before after : Int) : before + (after - before) = after := by omega
    rw [last, quarterSteps_shown near, count, BitVec.add_assoc, ← BitVec.ofInt_add, onwards]
    rfl
  · refine ⟨(counter.sample (shown (wheel.position now))).count -
      BitVec.ofInt 32 (wheel.position now), fun settled => absurd settled past,
      fun _ => ⟨rfl, ?_⟩, fun ahead => by omega⟩
    exact (BitVec.sub_add_cancel _ _).symm

end

/-! ## Runs -/

/-- What stays true of a board. -/
structure Kept (wheel : Wheel) (home : Word) (board : Board) (place : Place) (counter : Counter)
    (watch : Stopwatch) : Prop where
  /-- The program is at the place. -/
  holds : place.Holds counter board.machine
  /-- It is there in time. -/
  punctual : Punctual watch place
  /-- The counter follows the wheel. -/
  follows : Follows wheel home board.now counter watch.since
  /-- The request is on its way. -/
  errand : Errand wheel home board place

section

variable {wheel : Wheel} {home : Word} {board : Board} {place : Place} {counter : Counter}
  {watch : Stopwatch}

/-- Early on it does not matter where home is. -/
theorem Errand.anyHome (errand : Errand wheel home board place) (early : board.now ≤ 15)
    (home' : Word) : Errand wheel home' board place := by
  cases errand with
  | none idle free tx rx => exact .none idle free tx rx
  | queued asked waiting free tx rx past soon => exact .queued asked waiting free tx rx past soon
  | carried asked waiting carrying tx rx past soon =>
    exact .carried asked waiting carrying tx rx past soon
  | answered asked count waiting free tx rx past fits =>
    exact .answered asked count waiting free tx rx past fun settled => by omega

/-- The stopwatch stays low. -/
theorem Punctual.since_le (punctual : Punctual watch place) : watch.since ≤ 14 := by
  have late := Nat.le_trans punctual.latest (latest_le watch.answered place)
  split at late <;> omega

/-- The pull takes the request. -/
theorem Kept.takes (kept : Kept wheel home board place counter watch) (pins : Word)
    (here : place = .pull) (tx : board.machine.tx = [1]) :
    (board.machine.cycle quadratureEncoder pins).2 = .pulled 1 := by
  subst here
  have address := kept.holds.1
  rw [Machine.cycle_pull (fetched address rfl) tx]

/-- A program that has room for its answer does not wait. -/
theorem Kept.moving (kept : Kept wheel home board place counter watch) (pins : Word)
    (rx : board.machine.rx = []) :
    (board.machine.cycle quadratureEncoder pins).2 ≠ .stalled := by
  intro stalled
  obtain ⟨next, move, _⟩ := (advances pins kept.holds).moves
  rw [stalled] at move
  cases move
  have address := kept.holds.1
  have room : board.machine.rx.length < Pio.depth := by
    rw [rx]
    decide
  rw [Machine.cycle_push (fetched address rfl) room] at stalled
  cases stalled

/-- An answer shows where the wheel was at the last sample. -/
theorem Kept.fits (kept : Kept wheel home board .push counter watch) {asked : Nat}
    (settled : 16 ≤ asked) (past : asked + 5 ≤ board.now) :
    Fits wheel home asked (board.now + 1) counter.count := by
  have late := kept.punctual.latest
  have limit : Place.push.latest watch.answered = 11 := rfl
  rw [limit] at late
  obtain ⟨_, count⟩ := kept.follows.sampled (by omega)
  exact ⟨board.now - 1 - watch.since, by omega, by omega, count⟩

/-- The program of a board never waits. -/
theorem Kept.works (kept : Kept wheel home board place counter watch) (pins : Word) :
    (board.machine.cycle quadratureEncoder pins).2 ≠ .stalled := by
  intro stalled
  obtain ⟨next, move, _⟩ := (advances pins kept.holds).moves
  rw [stalled] at move
  cases move
  cases kept.errand with
  | none idle free => cases free
  | queued asked waiting free => cases free
  | carried asked waiting carrying tx rx => exact kept.moving pins rx stalled
  | answered asked count waiting free => cases free

/-- A cycle keeps the board; what home is changes at the first sample only. -/
theorem Kept.cycle (kept : Kept wheel home board place counter watch) {pins : Word}
    (shows : low pins = shown (wheel.position board.now)) :
    ∃ home' place' counter' watch',
      Kept wheel home' ⟨(board.machine.cycle quadratureEncoder pins).1, board.now + 1, board.caller⟩
        place' counter' watch' ∧ (15 ≤ board.now → home' = home) := by
  obtain ⟨next, move, holds⟩ := (advances pins kept.holds).moves
  have honest := (advances pins kept.holds).honest
  have fits (asked : Nat) (word : Word)
      (pushed : (board.machine.cycle quadratureEncoder pins).2 = .pushed word)
      (settled : 16 ≤ asked) (past : asked + 5 ≤ board.now) :
      Fits wheel home asked (board.now + 1) word := by
    rw [pushed] at move
    cases move
    rw [honest word pushed]
    exact kept.fits settled past
  have errand := errand_cycle kept.errand move (Machine.cycle_queues pins) (kept.takes pins)
    (kept.moving pins) fits
  have punctual := punctual_move move kept.punctual
  have short := kept.punctual.since_le
  cases seen : (board.machine.cycle quadratureEncoder pins).2 with
  | sampled word =>
    obtain rfl := Machine.cycle_sampled seen
    rw [seen] at holds punctual
    obtain ⟨home', same, follows⟩ := kept.follows.sample short
    rw [← shows] at follows
    have moved : Errand wheel home' ⟨(board.machine.cycle quadratureEncoder word).1,
        board.now + 1, board.caller⟩ next := by
      by_cases settled : watch.since < board.now
      · rw [same settled]
        exact errand
      · exact errand.anyHome (by dsimp only; omega) home'
    exact ⟨home', next, _, _, ⟨holds, punctual, follows, moved⟩, fun late => same (by omega)⟩
  | quiet | pulled | pushed =>
    rw [seen] at holds punctual
    exact ⟨home, next, _, _, ⟨holds, punctual, kept.follows.on, errand⟩, fun _ => rfl⟩
  | stalled => exact absurd seen (kept.works pins)
  | written | read | refused =>
    rw [seen] at move
    cases move

/-- The processor asks for the count. -/
theorem Kept.request (kept : Kept wheel home board place counter watch)
    (idle : board.caller = .idle) :
    Kept wheel home ⟨(board.machine.serve (.write 1)).1, board.now, .waiting board.now⟩ place
      counter watch := by
  have held := holds_serve (.write 1) kept.holds
  rw [Counter.observe_of_access (board.machine.serve_isCycle _)] at held
  refine ⟨held, kept.punctual, kept.follows, ?_⟩
  cases kept.errand with
  | none _ free tx rx =>
    have room : board.machine.serve (.write 1) =
        ({ board.machine with tx := [1] }, .written 1) := by
      rw [Machine.serve, tx]
      rfl
    rw [room]
    exact .queued board.now rfl free rfl rx (Nat.le_refl _) (Nat.le_add_right _ _)
  | queued asked waiting => exact absurd (idle.symm.trans waiting) Caller.idle_ne_waiting
  | carried asked waiting => exact absurd (idle.symm.trans waiting) Caller.idle_ne_waiting
  | answered asked count waiting => exact absurd (idle.symm.trans waiting) Caller.idle_ne_waiting

/-- The processor fetches the answer to its own request. -/
theorem Kept.answer (kept : Kept wheel home board place counter watch) {asked : Nat} {count : Word}
    {rest : List Word} (waiting : board.caller = .waiting asked)
    (ready : board.machine.rx = count :: rest) :
    Kept wheel home ⟨(board.machine.serve .read).1, board.now, .idle⟩ place counter watch ∧
      asked ≤ board.now ∧ (16 ≤ asked → Fits wheel home asked board.now count) := by
  have held := holds_serve .read kept.holds
  rw [Counter.observe_of_access (board.machine.serve_isCycle _)] at held
  have taken : board.machine.serve .read = ({ board.machine with rx := rest }, .read count) := by
    rw [Machine.serve, ready]
  cases kept.errand with
  | none idle => exact absurd (idle.symm.trans waiting) Caller.idle_ne_waiting
  | queued _ _ _ _ rx => exact absurd (ready.symm.trans rx) (List.cons_ne_nil _ _)
  | carried _ _ _ _ rx => exact absurd (ready.symm.trans rx) (List.cons_ne_nil _ _)
  | answered asked' count' waiting' free tx rx past fits =>
    obtain rfl : asked' = asked := Caller.waiting.inj (waiting'.symm.trans waiting)
    obtain ⟨rfl, rfl⟩ := List.cons.inj (rx.symm.trans ready)
    refine ⟨⟨held, kept.punctual, kept.follows, ?_⟩, by omega, fits⟩
    rw [taken]
    exact .none rfl free tx rfl

end

/-- A new board is kept. -/
theorem kept_start (wheel : Wheel) (home x y osr : Word) :
    Kept wheel home (Board.start x y osr) .entry (Counter.start y) ⟨1, false⟩ where
  holds := holds_start x y osr
  punctual := ⟨Nat.le_refl 1, Nat.le_refl 1, nofun⟩
  follows := ⟨nofun, fun _ => rfl⟩
  errand := .none rfl rfl rfl rfl

/-- Every board reached is kept, and the answers so far all fit one home. -/
theorem run_kept {wheel : Wheel} {x y osr : Word} {labels : List Label} {board : Board}
    (run : Run wheel (Board.start x y osr) labels board) :
    ∃ home place counter watch, Kept wheel home board place counter watch ∧
      ∀ asked fetched count, .answer asked fetched count ∈ labels →
        asked ≤ board.now ∧ (16 ≤ asked → Fits wheel home asked fetched count) := by
  induction run with
  | refl => exact ⟨0, _, _, _, kept_start wheel 0 x y osr, fun _ _ _ member => nomatch member⟩
  | step before taken ih =>
    obtain ⟨home, place, counter, watch, kept, known⟩ := ih
    cases taken with
    | cycle pins shows =>
      obtain ⟨home', place', counter', watch', later, same⟩ := kept.cycle shows
      refine ⟨home', place', counter', watch', later, fun asked fetched count member => ?_⟩
      rw [List.mem_append, List.mem_singleton] at member
      obtain earlier | last := member
      · obtain ⟨past, fits⟩ := known asked fetched count earlier
        refine ⟨Nat.le_succ_of_le past, fun settled => ?_⟩
        rw [same (by omega)]
        exact fits settled
      · cases last
    | request idle =>
      refine ⟨home, place, counter, watch, kept.request idle, fun asked fetched count member => ?_⟩
      rw [List.mem_append, List.mem_singleton] at member
      exact known asked fetched count (member.resolve_right nofun)
    | poll waiting empty =>
      refine ⟨home, place, counter, watch, kept, fun asked fetched count member => ?_⟩
      rw [List.mem_append, List.mem_singleton] at member
      exact known asked fetched count (member.resolve_right nofun)
    | answer waiting ready =>
      obtain ⟨later, past, fits⟩ := kept.answer waiting ready
      refine ⟨home, place, counter, watch, later, fun asked fetched count member => ?_⟩
      rw [List.mem_append, List.mem_singleton] at member
      obtain earlier | last := member
      · exact known asked fetched count earlier
      · cases last
        exact ⟨past, fits⟩

/-- A wheel that stands still. -/
def parked : Wheel where
  position _ := 0
  slow _ _ _ := Nat.zero_le 1

/-- Some cycles in front of a parked wheel. -/
def Board.spin (board : Board) : Nat → Board
  | 0 => board
  | count + 1 =>
    let before := board.spin count
    { before with
      machine := (before.machine.cycle quadratureEncoder 0).1
      now := before.now + 1 }

/-- A board may spin at any time. -/
theorem run_spin {first board : Board} {labels : List Label} (run : Run parked first labels board)
    (count : Nat) : Run parked first (labels ++ List.replicate count .cycle)
        (board.spin count) := by
  induction count with
  | zero =>
    rw [List.replicate_zero, List.append_nil]
    exact run
  | succ count ih =>
    rw [List.replicate_succ', ← List.append_assoc]
    exact ih.step (.cycle 0 rfl)

/-- A call that has waited for eighteen cycles. -/
def Board.ask (board : Board) : Board :=
  Board.spin ⟨(board.machine.serve (.write 1)).1, board.now, .waiting board.now⟩ 18

/-- A call may be made whenever there is none. -/
theorem run_ask {first board : Board} {labels : List Label} (run : Run parked first labels board)
    (idle : board.caller = .idle) :
    Run parked first (labels ++ [.request] ++ List.replicate 18 .cycle) board.ask :=
  run_spin (run.step (.request idle)) 18

/-- A call made at the sixteenth cycle. -/
def Board.asked : Board := ((Board.start 0 0 0).spin 16).ask

/-- The board is reached. -/
theorem run_asked : Run parked (Board.start 0 0 0)
    (List.replicate 16 .cycle ++ [.request] ++ List.replicate 18 .cycle) Board.asked :=
  run_ask (run_spin .refl 16) rfl

/-- The answer is there. -/
theorem asked_ready : Board.asked.machine.rx = [0] := by
  decide +kernel

/-- However the cycles and the processor's steps are mixed, a call of `quadrature_encoder_get_count`
finds its answer between six and eighteen cycles after its request, outside of calls nothing is left
in the queues, and there is never more than one word in them. -/
theorem answered_in_time {wheel : Wheel} {x y osr : Word} {labels : List Label} {board : Board}
    (run : Run wheel (Board.start x y osr) labels board) :
    (∀ asked, board.caller = .waiting asked →
      (board.machine.rx = [] → board.now < asked + 18) ∧
      (board.machine.rx ≠ [] → asked + 6 ≤ board.now)) ∧
    (board.caller = .idle → board.machine.tx = [] ∧ board.machine.rx = []) ∧
    board.machine.tx.length + board.machine.rx.length ≤ 1 := by
  obtain ⟨home, place, counter, watch, kept, _⟩ := run_kept run
  cases kept.errand with
  | none idle free tx rx =>
    rw [idle, tx, rx]
    exact ⟨nofun, fun _ => ⟨rfl, rfl⟩, Nat.zero_le _⟩
  | queued asked waiting free tx rx past soon =>
    have limit : place.queued ≤ 12 := by cases place <;> simp [Place.queued]
    rw [waiting, tx, rx]
    refine ⟨fun other same => ?_, nofun, Nat.le_refl 1⟩
    obtain rfl := Caller.waiting.inj same
    exact ⟨fun _ => by omega, fun some => absurd rfl some⟩
  | carried asked waiting carrying tx rx past soon =>
    have limit : place.carried ≤ 5 := by cases place <;> simp [Place.carried]
    rw [waiting, tx, rx]
    refine ⟨fun other same => ?_, nofun, Nat.zero_le 1⟩
    obtain rfl := Caller.waiting.inj same
    exact ⟨fun _ => by omega, fun some => absurd rfl some⟩
  | answered asked count waiting free tx rx past fits =>
    rw [waiting, tx, rx]
    refine ⟨fun other same => ?_, nofun, Nat.le_refl 1⟩
    obtain rfl := Caller.waiting.inj same
    exact ⟨nofun, fun _ => past⟩

/-- A call that has waited for eighteen cycles. -/
theorem answered_in_time_asked :
    (∀ asked, Board.asked.caller = .waiting asked →
      (Board.asked.machine.rx = [] → Board.asked.now < asked + 18) ∧
      (Board.asked.machine.rx ≠ [] → asked + 6 ≤ Board.asked.now)) ∧
    (Board.asked.caller = .idle → Board.asked.machine.tx = [] ∧ Board.asked.machine.rx = []) ∧
    Board.asked.machine.tx.length + Board.asked.machine.rx.length ≤ 1 :=
  answered_in_time run_asked

/-- However the cycles and the processor's steps are mixed while the wheel turns, all counts
returned after the first cycles are positions of the wheel from one home, each of a time at most
seven cycles before its own call. -/
theorem counts_are_positions {wheel : Wheel} {x y osr : Word} {labels : List Label} {board : Board}
    (run : Run wheel (Board.start x y osr) labels board) :
    ∃ home, ∀ asked fetched count, .answer asked fetched count ∈ labels → 16 ≤ asked →
      Fits wheel home asked fetched count := by
  obtain ⟨home, _, _, _, _, known⟩ := run_kept run
  exact ⟨home, fun asked fetched count member => (known asked fetched count member).2⟩

/-- The count of a parked wheel. -/
theorem counts_are_positions_parked :
    ∃ home, ∀ asked fetched count,
      .answer asked fetched count ∈ List.replicate 16 Label.cycle ++ [.request] ++
        List.replicate 18 .cycle ++ [.answer 16 34 0] →
      16 ≤ asked → Fits parked home asked fetched count :=
  counts_are_positions (run_asked.step (.answer rfl asked_ready))

end RobotFirmware.Encoder
