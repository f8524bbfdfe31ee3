import RobotFirmware.Pio.Machine
import RobotFirmware.Structure.Dial

/-!
# The quadrature encoder program

`quadrature_encoder.pio` keeps the count of a wheel in `Y`. Each round of its loop answers the
processor if it asked, samples the two pins of the encoder behind the previous sample, and jumps to
the address that the four bits form. The program refines a counter that follows the wheel through
the four phases of its pins.
-/

namespace RobotFirmware.Encoder

open Pio (Word Event Instruction Machine)

/-! ## The counter -/

/-- The place of a state of the pins in the order in which a wheel turning forwards shows them. -/
def phase (pins : BitVec 2) : Int :=
  if pins = 0b00 then 0 else if pins = 0b10 then 1 else if pins = 0b11 then 2 else 3

/-- What the pins show of a position in quarter steps. -/
def shown (position : Int) : BitVec 2 :=
  if position % 4 = 0 then 0b00
  else if position % 4 = 1 then 0b10
  else if position % 4 = 2 then 0b11
  else 0b01

/-- The pins show the phase of the position. -/
theorem phase_shown (position : Int) : phase (shown position) = position % 4 := by
  have low := Int.emod_nonneg position (show (4 : Int) ≠ 0 by decide)
  have high := Int.emod_lt_of_pos position (show (0 : Int) < 4 by decide)
  unfold shown
  split_ifs with zero one two
  · rw [zero]
    rfl
  · rw [one]
    rfl
  · rw [two]
    rfl
  · have three : position % 4 = 3 := by omega
    rw [three]
    rfl

/-- The quarter steps between two samples; a change of both pins counts as none. -/
def quarterSteps (before after : BitVec 2) : Int := Dial.turn 4 (phase before) (phase after)

/-- Between samples a wheel that moved at most one quarter step is followed exactly. -/
theorem quarterSteps_shown {before after : Int} (near : (after - before).natAbs ≤ 1) :
    quarterSteps (shown before) (shown after) = after - before := by
  rw [quarterSteps, phase_shown, phase_shown]
  exact Dial.turn_reading (by omega)

/-- What the program computes: the last sample of the pins, and the count. -/
structure Counter where
  /-- The pins when they were last sampled. -/
  last : BitVec 2
  /-- The count, modulo `2 ^ 32`. -/
  count : Word

namespace Counter

/-- The pins are sampled. -/
def sample (counter : Counter) (pins : BitVec 2) : Counter where
  last := pins
  count := counter.count + BitVec.ofInt 32 (quarterSteps counter.last pins)

/-- The counter moves when the pins are sampled, and at nothing else. -/
def observe (counter : Counter) : Event → Counter
  | .sampled pins => counter.sample (pins.setWidth 2)
  | _ => counter

/-- Accesses of the processor leave the counter alone. -/
theorem observe_of_access {counter : Counter} {event : Event} (access : event.isCycle = false) :
    counter.observe event = counter := by
  cases event <;> first | rfl | cases access

end Counter

/-! ## The program -/

/-- The address of `update`, the target of the wrap. -/
def update : Nat := 15

/-- The address of `decrement`, which is also the entry for 11 becoming 10. -/
def decrement : Nat := 14

/-- The address of `sample_pins`. -/
def samplePins : Nat := 22

/-- The address of `increment`. -/
def increment : Nat := 26

/-- The program `quadrature_encoder`. -/
def quadratureEncoder : Pio.Program where
  code := [
    -- 00 state
    .jmp .always update,
    .jmp .always decrement,
    .jmp .always increment,
    .jmp .always update,
    -- 01 state
    .jmp .always increment,
    .jmp .always update,
    .jmp .always update,
    .jmp .always decrement,
    -- 10 state
    .jmp .always decrement,
    .jmp .always update,
    .jmp .always update,
    .jmp .always increment,
    -- 11 state
    .jmp .always update,
    .jmp .always increment,
    .jmp .yDecrement update,
    -- update
    .setX 0,
    .pull false,
    .mov .x false .osr,
    .mov .osr false .isr,
    .jmp .xZero samplePins,
    .mov .isr false .y,
    .push true,
    -- sample_pins
    .mov .isr false .null,
    .shiftIn .osr 2,
    .shiftIn .pins 2,
    .mov .pc false .isr,
    -- increment
    .mov .x true .y,
    .jmp .xDecrement 28,
    .mov .y true .x]
  wrapTarget := update
  wrapTop := 28

/-- The machine after `quadrature_encoder_program_init`: the queues and `ISR` are clear, the other
registers hold what they held. -/
def quadratureEncoderProgramInit (x y osr : Word) : Machine where
  pc := 0
  x := x
  y := y
  isr := 0
  osr := osr
  tx := []
  rx := []

/-! ## The places of the program -/

/-- A place in the program. From the pull to the push, `asked` says that the word pulled from the
processor asks for the count. -/
inductive Place where
  /-- An entry of the jump table, except the last two. -/
  | entry
  /-- `JMP Y--, update`. -/
  | lower
  /-- `SET X, 0`. -/
  | update
  /-- `PULL noblock`. -/
  | pull
  /-- `MOV X, OSR`. -/
  | keep (asked : Bool)
  /-- `MOV OSR, ISR`. -/
  | save (asked : Bool)
  /-- `JMP !X, sample_pins`. -/
  | branch (asked : Bool)
  /-- `MOV ISR, Y`. -/
  | load
  /-- `PUSH`. -/
  | push
  /-- `MOV ISR, NULL`. -/
  | clear
  /-- `IN OSR, 2`. -/
  | shift
  /-- `IN PINS, 2`. -/
  | sample
  /-- `MOV PC, ISR`. -/
  | dispatch
  /-- `MOV X, !Y`. -/
  | negate
  /-- `JMP X--, increment_cont`. -/
  | raise
  /-- `MOV Y, !X`. -/
  | restore

/-- The two bits of the state in a register. -/
def low (word : Word) : BitVec 2 := word.setWidth 2

/-- What the registers hold at each place, and what is left to do to the count. -/
def Place.Holds (counter : Counter) (m : Machine) : Place → Prop
  | .entry => ∃ before, m.pc = 4 * before.toNat + counter.last.toNat ∧ m.pc < decrement ∧
      low m.isr = counter.last ∧
      counter.count = m.y + BitVec.ofInt 32 (quarterSteps before counter.last)
  | .lower => m.pc = decrement ∧ low m.isr = counter.last ∧ counter.count = m.y - 1
  | .update => m.pc = 15 ∧ low m.isr = counter.last ∧ counter.count = m.y
  | .pull => m.pc = 16 ∧ low m.isr = counter.last ∧ counter.count = m.y ∧ m.x = 0
  | .keep asked => m.pc = 17 ∧ low m.isr = counter.last ∧ counter.count = m.y ∧
      asked = decide (m.osr ≠ 0)
  | .save asked => m.pc = 18 ∧ low m.isr = counter.last ∧ counter.count = m.y ∧
      asked = decide (m.x ≠ 0)
  | .branch asked => m.pc = 19 ∧ low m.osr = counter.last ∧ counter.count = m.y ∧
      asked = decide (m.x ≠ 0)
  | .load => m.pc = 20 ∧ low m.osr = counter.last ∧ counter.count = m.y
  | .push => m.pc = 21 ∧ low m.osr = counter.last ∧ counter.count = m.y ∧ m.isr = m.y
  | .clear => m.pc = 22 ∧ low m.osr = counter.last ∧ counter.count = m.y
  | .shift => m.pc = 23 ∧ low m.osr = counter.last ∧ counter.count = m.y ∧ m.isr = 0
  | .sample => m.pc = 24 ∧ m.isr = counter.last.setWidth 32 ∧ counter.count = m.y
  | .dispatch => m.pc = 25 ∧ ∃ before : BitVec 2,
      m.isr = (before ++ counter.last).setWidth 32 ∧
      counter.count = m.y + BitVec.ofInt 32 (quarterSteps before counter.last)
  | .negate => m.pc = increment ∧ low m.isr = counter.last ∧ counter.count = m.y + 1
  | .raise => m.pc = 27 ∧ low m.isr = counter.last ∧ counter.count = m.y + 1 ∧ m.x = ~~~m.y
  | .restore => m.pc = 28 ∧ low m.isr = counter.last ∧ counter.count = ~~~m.x

/-- The ways of the program through its places, with what is seen of each cycle. -/
inductive Move : Place → Event → Place → Prop where
  /-- The pins did not change, or both did. -/
  | stay : Move .entry .quiet .update
  /-- A step back. -/
  | back : Move .entry .quiet .lower
  /-- A step forwards. -/
  | forth : Move .entry .quiet .negate
  /-- The count has been decremented. -/
  | lower : Move .lower .quiet .update
  /-- `X` is zero, for when there is nothing to pull. -/
  | update : Move .update .quiet .pull
  /-- There was nothing to pull. -/
  | nothing : Move .pull .quiet (.keep false)
  /-- A word was pulled, which asks for the count unless it is zero. -/
  | pull (word : Word) : Move .pull (.pulled word) (.keep (decide (word ≠ 0)))
  /-- The word is in `X`. -/
  | keep (asked : Bool) : Move (.keep asked) .quiet (.save asked)
  /-- The state is in `OSR`. -/
  | save (asked : Bool) : Move (.save asked) .quiet (.branch asked)
  /-- The processor did not ask. -/
  | skip : Move (.branch false) .quiet .clear
  /-- The processor asked. -/
  | answer : Move (.branch true) .quiet .load
  /-- The count is in `ISR`. -/
  | load : Move .load .quiet .push
  /-- The answer is given. -/
  | push (word : Word) : Move .push (.pushed word) .clear
  /-- The queue of the answers is full. -/
  | wait : Move .push .stalled .push
  /-- `ISR` is clear. -/
  | clear : Move .clear .quiet .shift
  /-- The last sample is in `ISR`. -/
  | shift : Move .shift .quiet .sample
  /-- The pins are sampled. -/
  | sample (pins : Word) : Move .sample (.sampled pins) .dispatch
  /-- The jump goes to one of the entries. -/
  | dispatch : Move .dispatch .quiet .entry
  /-- The entry for 11 becoming 10 is the decrement itself. -/
  | fallen : Move .dispatch .quiet .lower
  /-- The entry for 11 staying 11 is the beginning of the loop. -/
  | stayed : Move .dispatch .quiet .update
  /-- The inverted count is in `X`. -/
  | negate : Move .negate .quiet .raise
  /-- It is decremented. -/
  | raise : Move .raise .quiet .restore
  /-- It is inverted back. -/
  | restore : Move .restore .quiet .update

/-! ## The program refines the counter -/

/-- What a cycle does at a place: it goes one of the ways of the program, the counter sees what the
machine did, and a word handed over is the count. -/
structure Advances (counter : Counter) (place : Place) (result : Machine × Event) : Prop where
  /-- There is a next place. -/
  moves : ∃ next, Move place result.2 next ∧ next.Holds (counter.observe result.2) result.1
  /-- Answers are counts. -/
  honest : ∀ word, result.2 = .pushed word → word = counter.count

variable {counter : Counter} {m : Machine} {pins : Word}

/-- A cycle that touches nothing outside goes on to a place at which the counter is the same. -/
theorem Advances.quietly {place next : Place} {after : Machine} (way : Move place .quiet next)
    (holds : next.Holds counter after) : Advances counter place (after, .quiet) :=
  ⟨⟨next, way, holds⟩, fun _ pushed => nomatch pushed⟩

/-- Where the table sends a change of the pins. -/
def target (steps : Int) : Nat :=
  if steps = 1 then increment else if steps = -1 then decrement else update

/-- The jump table. -/
theorem fetch_entry : ∀ before after : BitVec 2,
    4 * before.toNat + after.toNat < decrement →
      quadratureEncoder.fetch (4 * before.toNat + after.toNat) =
        .jmp .always (target (quarterSteps before after)) := by
  decide

/-- A change of the pins is at most one step. -/
theorem quarterSteps_cases : ∀ before after : BitVec 2,
    quarterSteps before after = 0 ∨ quarterSteps before after = 1 ∨
      quarterSteps before after = -1 := by
  decide

/-- The address of the four bits is an entry with a jump, or one of the two that have none. -/
theorem entry_cases : ∀ before after : BitVec 2,
    4 * before.toNat + after.toNat < decrement ∨
      4 * before.toNat + after.toNat = decrement ∧ quarterSteps before after = -1 ∨
      4 * before.toNat + after.toNat = update ∧ quarterSteps before after = 0 := by
  decide

/-- An entry of the jump table. -/
theorem advances_entry (holds : Place.entry.Holds counter m) :
    Advances counter .entry (m.cycle quadratureEncoder pins) := by
  obtain ⟨before, address, inside, last, count⟩ := holds
  have fetched : quadratureEncoder.fetch m.pc =
      .jmp .always (target (quarterSteps before counter.last)) := by
    rw [address] at inside ⊢
    exact fetch_entry before counter.last inside
  rw [Machine.cycle_jmp fetched]
  rcases quarterSteps_cases before counter.last with same | forth | back
  · rw [same, show BitVec.ofInt 32 0 = 0#32 from rfl, BitVec.add_zero] at count
    rw [same]
    exact .quietly .stay ⟨rfl, last, count⟩
  · rw [forth] at count
    rw [forth]
    exact .quietly .forth ⟨rfl, last, count⟩
  · rw [back, show BitVec.ofInt 32 (-1) = -1 from rfl, ← BitVec.sub_eq_add_neg] at count
    rw [back]
    exact .quietly .back ⟨rfl, last, count⟩

/-- The instruction at the address of the machine. -/
theorem fetched {address : Nat} {instruction : Instruction} (here : m.pc = address)
    (code : quadratureEncoder.fetch address = instruction) :
    quadratureEncoder.fetch m.pc = instruction := here ▸ code

/-- `JMP Y--, update` goes on at the next address whether `Y` is zero or not. -/
theorem advances_lower (holds : Place.lower.Holds counter m) :
    Advances counter .lower (m.cycle quadratureEncoder pins) := by
  obtain ⟨address, last, count⟩ := holds
  rw [Machine.cycle_jmp (fetched address rfl), address]
  exact .quietly .lower ⟨ite_self _, last, count⟩

/-- `SET X, 0`. -/
theorem advances_update (holds : Place.update.Holds counter m) :
    Advances counter .update (m.cycle quadratureEncoder pins) := by
  obtain ⟨address, last, count⟩ := holds
  rw [Machine.cycle_setX (fetched address rfl), address]
  exact .quietly .update ⟨rfl, last, count, rfl⟩

/-- `PULL noblock`. -/
theorem advances_pull (holds : Place.pull.Holds counter m) :
    Advances counter .pull (m.cycle quadratureEncoder pins) := by
  obtain ⟨address, last, count, zero⟩ := holds
  cases queued : m.tx with
  | nil =>
    rw [Machine.cycle_pull_empty (fetched address rfl) queued, address]
    exact .quietly .nothing ⟨rfl, last, count, by simp [zero]⟩
  | cons word rest =>
    rw [Machine.cycle_pull (fetched address rfl) queued, address]
    exact ⟨⟨_, .pull word, rfl, last, count, rfl⟩, fun _ pushed => nomatch pushed⟩

/-- `MOV X, OSR`. -/
theorem advances_keep {asked : Bool} (holds : (Place.keep asked).Holds counter m) :
    Advances counter (.keep asked) (m.cycle quadratureEncoder pins) := by
  obtain ⟨address, last, count, asks⟩ := holds
  rw [Machine.cycle_mov (fetched address rfl), address]
  exact .quietly (.keep asked) ⟨rfl, last, count, asks⟩

/-- `MOV OSR, ISR`. -/
theorem advances_save {asked : Bool} (holds : (Place.save asked).Holds counter m) :
    Advances counter (.save asked) (m.cycle quadratureEncoder pins) := by
  obtain ⟨address, last, count, asks⟩ := holds
  rw [Machine.cycle_mov (fetched address rfl), address]
  exact .quietly (.save asked) ⟨rfl, last, count, asks⟩

/-- `JMP !X, sample_pins`. -/
theorem advances_branch {asked : Bool} (holds : (Place.branch asked).Holds counter m) :
    Advances counter (.branch asked) (m.cycle quadratureEncoder pins) := by
  obtain ⟨address, last, count, asks⟩ := holds
  rw [Machine.cycle_jmp (fetched address rfl), address]
  by_cases zero : m.x = 0
  · obtain rfl : asked = false := asks.trans (decide_eq_false (not_not_intro zero))
    exact .quietly .skip ⟨if_pos zero, last, count⟩
  · obtain rfl : asked = true := asks.trans (decide_eq_true zero)
    exact .quietly .answer ⟨if_neg zero, last, count⟩

/-- `MOV ISR, Y`. -/
theorem advances_load (holds : Place.load.Holds counter m) :
    Advances counter .load (m.cycle quadratureEncoder pins) := by
  obtain ⟨address, last, count⟩ := holds
  rw [Machine.cycle_mov (fetched address rfl), address]
  exact .quietly .load ⟨rfl, last, count, rfl⟩

/-- `PUSH` hands over the count, and waits when there is no room. -/
theorem advances_push (holds : Place.push.Holds counter m) :
    Advances counter .push (m.cycle quadratureEncoder pins) := by
  have holds' := holds
  obtain ⟨address, last, count, loaded⟩ := holds
  by_cases room : m.rx.length < Pio.depth
  · rw [Machine.cycle_push (fetched address rfl) room, address, loaded]
    refine ⟨⟨_, .push m.y, rfl, last, count⟩, fun word pushed => ?_⟩
    rw [count]
    exact (Event.pushed.inj pushed).symm
  · rw [Machine.cycle_push_full (fetched address rfl) room]
    exact ⟨⟨_, .wait, holds'⟩, fun _ pushed => nomatch pushed⟩

/-- `MOV ISR, NULL`. -/
theorem advances_clear (holds : Place.clear.Holds counter m) :
    Advances counter .clear (m.cycle quadratureEncoder pins) := by
  obtain ⟨address, last, count⟩ := holds
  rw [Machine.cycle_mov (fetched address rfl), address]
  exact .quietly .clear ⟨rfl, last, count, rfl⟩

/-- `IN OSR, 2`. -/
theorem advances_shift (holds : Place.shift.Holds counter m) :
    Advances counter .shift (m.cycle quadratureEncoder pins) := by
  obtain ⟨address, last, count, zero⟩ := holds
  rw [Machine.cycle_shiftIn (fetched address rfl), address]
  refine .quietly .shift ⟨rfl, ?_, count⟩
  show m.isr <<< 2 ||| (low m.osr).setWidth 32 = _
  rw [zero, last]
  exact BitVec.zero_or

/-- Two bits shifted in behind two bits make the four bits of the jump. -/
theorem shifted : ∀ before after : BitVec 2,
    (before.setWidth 32 <<< 2 ||| after.setWidth 32 : Word) = (before ++ after).setWidth 32 := by
  decide

/-- `IN PINS, 2`. -/
theorem advances_sample (holds : Place.sample.Holds counter m) :
    Advances counter .sample (m.cycle quadratureEncoder pins) := by
  obtain ⟨address, last, count⟩ := holds
  rw [Machine.cycle_shiftIn (fetched address rfl), address]
  refine ⟨⟨_, .sample pins, rfl, counter.last, ?_, ?_⟩, fun _ pushed => nomatch pushed⟩
  · show m.isr <<< 2 ||| (pins.setWidth 2).setWidth 32 = _
    rw [last]
    exact shifted _ _
  · show counter.count + _ = m.y + _
    rw [count]
    rfl

/-- The address that the four bits form, and the state that is left in them. -/
theorem dispatched : ∀ before after : BitVec 2,
    ((before ++ after).setWidth 32 : Word).toNat % 32 = 4 * before.toNat + after.toNat ∧
      low ((before ++ after).setWidth 32) = after := by
  decide

/-- `MOV PC, ISR`. -/
theorem advances_dispatch (holds : Place.dispatch.Holds counter m) :
    Advances counter .dispatch (m.cycle quadratureEncoder pins) := by
  obtain ⟨address, before, bits, count⟩ := holds
  rw [Machine.cycle_mov (fetched address rfl)]
  obtain ⟨jumps, state⟩ := dispatched before counter.last
  rw [← bits] at jumps state
  rcases entry_cases before counter.last with inside | ⟨fallen, back⟩ | ⟨stayed, same⟩
  · exact .quietly .dispatch
      ⟨before, jumps, Nat.lt_of_le_of_lt (Nat.le_of_eq jumps) inside, state, count⟩
  · rw [back, show BitVec.ofInt 32 (-1) = -1 from rfl, ← BitVec.sub_eq_add_neg] at count
    exact .quietly .fallen ⟨jumps.trans fallen, state, count⟩
  · rw [same, show BitVec.ofInt 32 0 = 0#32 from rfl, BitVec.add_zero] at count
    exact .quietly .stayed ⟨jumps.trans stayed, state, count⟩

/-- `MOV X, !Y`. -/
theorem advances_negate (holds : Place.negate.Holds counter m) :
    Advances counter .negate (m.cycle quadratureEncoder pins) := by
  obtain ⟨address, last, count⟩ := holds
  rw [Machine.cycle_mov (fetched address rfl), address]
  exact .quietly .negate ⟨rfl, last, count, rfl⟩

/-- Decrementing the inverted count increments the count. -/
theorem not_decrement (count : Word) : ~~~(~~~count - 1) = count + 1 := by
  bv_omega

/-- `JMP X--, increment_cont` goes on at the next address whether `X` is zero or not. -/
theorem advances_raise (holds : Place.raise.Holds counter m) :
    Advances counter .raise (m.cycle quadratureEncoder pins) := by
  obtain ⟨address, last, count, inverted⟩ := holds
  rw [Machine.cycle_jmp (fetched address rfl), address]
  refine .quietly .raise ⟨ite_self _, last, ?_⟩
  show counter.count = ~~~(m.x - 1)
  rw [inverted, not_decrement]
  exact count

/-- `MOV Y, !X`. -/
theorem advances_restore (holds : Place.restore.Holds counter m) :
    Advances counter .restore (m.cycle quadratureEncoder pins) := by
  obtain ⟨address, last, count⟩ := holds
  rw [Machine.cycle_mov (fetched address rfl), address]
  exact .quietly .restore ⟨rfl, last, count⟩

/-- A cycle at any place goes one of the ways of the program. -/
theorem advances {place : Place} (pins : Word) (holds : place.Holds counter m) :
    Advances counter place (m.cycle quadratureEncoder pins) := by
  cases place with
  | entry => exact advances_entry holds
  | lower => exact advances_lower holds
  | update => exact advances_update holds
  | pull => exact advances_pull holds
  | keep asked => exact advances_keep holds
  | save asked => exact advances_save holds
  | branch asked => exact advances_branch holds
  | load => exact advances_load holds
  | push => exact advances_push holds
  | clear => exact advances_clear holds
  | shift => exact advances_shift holds
  | sample => exact advances_sample holds
  | dispatch => exact advances_dispatch holds
  | negate => exact advances_negate holds
  | raise => exact advances_raise holds
  | restore => exact advances_restore holds

/-- The processor does not move the program. -/
theorem holds_serve {place : Place} (access : Pio.Access) (holds : place.Holds counter m) :
    place.Holds (counter.observe (m.serve access).2) (m.serve access).1 := by
  obtain ⟨tx, rx, same⟩ := m.serve_queues access
  rw [Counter.observe_of_access (m.serve_isCycle access), same]
  cases place <;> exact holds

/-- The counter before the first sample: as if the pins had shown 00. -/
def Counter.start (y : Word) : Counter where
  last := 0
  count := y

/-- After `quadrature_encoder_program_init` the program is at the first entry of its table. -/
theorem holds_start (x y osr : Word) :
    Place.entry.Holds (Counter.start y) (quadratureEncoderProgramInit x y osr) :=
  ⟨0, rfl, Nat.zero_lt_succ 13, rfl, (BitVec.add_zero y).symm⟩

/-- A run of the program from its start. -/
abbrev ran (x y osr : Word) (actions : List Pio.Action) : Machine × List Event :=
  (quadratureEncoderProgramInit x y osr).run quadratureEncoder actions

/-- The counter after some events. -/
def counted (y : Word) (events : List Event) : Counter :=
  events.foldl Counter.observe (Counter.start y)

/-- The run rule of the program: it is always somewhere, with the count of everything sampled so
far, and what every way of the program keeps is true there. -/
theorem run_places {σ : Type} (observe : σ → Event → σ) (knows : σ → Place → Prop)
    (moves : ∀ state place event next, Move place event next → knows state place →
      knows (observe state event) next)
    (accesses : ∀ state event, event.isCycle = false → observe state event = state)
    (x y osr : Word) (actions : List Pio.Action) (state : σ) (initially : knows state .entry) :
    ∃ place : Place,
      place.Holds (counted y (ran x y osr actions).2)
        (ran x y osr actions).1 ∧
      knows ((ran x y osr actions).2.foldl observe state) place := by
  refine Machine.run_induction (fun events m => ∃ place : Place,
    place.Holds (counted y events) m ∧ knows (events.foldl observe state) place) ?_ actions []
    ⟨.entry, holds_start x y osr, initially⟩
  rintro events m action ⟨place, holds, known⟩
  rw [counted, List.foldl_append, List.foldl_append]
  cases action with
  | cycle pins =>
    obtain ⟨next, move, later⟩ := (advances pins holds).moves
    exact ⟨next, later, moves _ _ _ _ move known⟩
  | access access =>
    refine ⟨place, holds_serve access holds, ?_⟩
    show knows (observe _ (m.serve access).2) place
    rw [accesses _ _ (m.serve_isCycle access)]
    exact known

/-- Whatever the pins show and the processor does, every word that the program hands over is what
the counter says of the samples taken before it. -/
theorem pushes_counted (x y osr : Word) (actions : List Pio.Action) (before after : List Event)
    (word : Word)
    (events : (ran x y osr actions).2 =
      before ++ .pushed word :: after) : word = (counted y before).count := by
  obtain ⟨first, pins, rfl, pushed⟩ := Machine.run_split_cycle events rfl
  obtain ⟨place, holds, _⟩ := run_places (fun _ _ => ()) (fun _ _ => True)
    (fun _ _ _ _ _ _ => trivial) (fun _ _ _ => rfl) x y osr first () trivial
  exact (advances pins holds).honest word pushed.symm

/-- A wheel that went one step forwards is counted once. -/
theorem pushes_counted_forth :
    (6 : Word) = (counted 5 (List.replicate 8 .quiet ++ [.sampled 2, .written 1] ++
      List.replicate 6 .quiet ++ [.pulled 1] ++ List.replicate 4 .quiet)).count :=
  pushes_counted 0 5 0
    (List.replicate 9 (.cycle 2) ++ .access (.write 1) :: List.replicate 12 (.cycle 2)) _ [] 6 rfl

end RobotFirmware.Encoder
