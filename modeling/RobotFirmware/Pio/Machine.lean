import Mathlib.Data.List.Basic

/-!
# A state machine of a programmable I/O block

The state machine executes one instruction each cycle, on two scratch registers and two shift
registers of 32 bits, and exchanges words with the processor through a queue in each direction.
The embedding covers jumps, shifts into `ISR`, moves, `PUSH`, `PULL` and `SET`; automatic pushes
and pulls, side-set pins and delays are switched off, so that the shift counters play no part.
A cycle reports what it did to the queues and the pins, and a run is any mixture of cycles and
accesses of the processor.
-/

namespace Pio

/-- A register. -/
abbrev Word := BitVec 32

/-- What an instruction reads. -/
inductive Source where
  /-- The input pins, from the base pin on. -/
  | pins
  /-- The scratch register `X`. -/
  | x
  /-- The scratch register `Y`. -/
  | y
  /-- Zero. -/
  | null
  /-- The input shift register. -/
  | isr
  /-- The output shift register. -/
  | osr
  deriving DecidableEq

/-- What a move writes. -/
inductive Destination where
  /-- The scratch register `X`. -/
  | x
  /-- The scratch register `Y`. -/
  | y
  /-- The input shift register. -/
  | isr
  /-- The output shift register. -/
  | osr
  /-- The program counter. -/
  | pc
  deriving DecidableEq

/-- When a jump is taken. -/
inductive Condition where
  /-- Always. -/
  | always
  /-- `!X`: the scratch register is zero. -/
  | xZero
  /-- `X--`: the scratch register is not zero before it is decremented, taken or not. -/
  | xDecrement
  /-- `Y--`, in the same way. -/
  | yDecrement
  deriving DecidableEq

/-- The instructions. -/
inductive Instruction where
  /-- `JMP`. -/
  | jmp (condition : Condition) (target : Nat)
  /-- `IN`: shift that many bits of the source into `ISR`, to the left. -/
  | shiftIn (source : Source) (count : Nat)
  /-- `PUSH`: hand `ISR` to the processor and clear it, waiting for room if asked to. -/
  | push (block : Bool)
  /-- `PULL`: take a word into `OSR`; if there is none, wait or take `X` instead. -/
  | pull (block : Bool)
  /-- `MOV`, inverting the word if asked to. -/
  | mov (destination : Destination) (invert : Bool) (source : Source)
  /-- `SET X`. -/
  | setX (value : Nat)
  deriving DecidableEq

/-- A program loaded at address 0. -/
structure Program where
  /-- The instructions. -/
  code : List Instruction
  /-- Where execution goes on after the last instruction of the loop. -/
  wrapTarget : Nat
  /-- The last instruction of the loop. -/
  wrapTop : Nat

namespace Program

variable (program : Program)

/-- The instruction at an address. -/
def fetch (address : Nat) : Instruction := program.code.getD address (.jmp .always address)

/-- The address after an instruction that does not jump. -/
def following (address : Nat) : Nat :=
  if address = program.wrapTop then program.wrapTarget else (address + 1) % 32

end Program

/-- The words that each queue holds. -/
def depth : Nat := 4

/-- The state machine and its queues. -/
structure Machine where
  /-- The address of the next instruction. -/
  pc : Nat
  /-- The first scratch register. -/
  x : Word
  /-- The second scratch register. -/
  y : Word
  /-- The input shift register. -/
  isr : Word
  /-- The output shift register. -/
  osr : Word
  /-- The words from the processor, oldest first. -/
  tx : List Word
  /-- The words for the processor, oldest first. -/
  rx : List Word

/-- What can be seen of a cycle or of an access. -/
inductive Event where
  /-- A cycle that touched neither pins nor queues. -/
  | quiet
  /-- A cycle that read the pins. -/
  | sampled (pins : Word)
  /-- A cycle that took a word from the processor. -/
  | pulled (word : Word)
  /-- A cycle that handed a word to the processor. -/
  | pushed (word : Word)
  /-- A cycle spent waiting for a queue. -/
  | stalled
  /-- The processor wrote a word. -/
  | written (word : Word)
  /-- The processor read a word. -/
  | read (word : Word)
  /-- The processor accessed a queue that was not ready. -/
  | refused

/-- Whether the event is one of a cycle. -/
def Event.isCycle : Event → Bool
  | .quiet | .sampled _ | .pulled _ | .pushed _ | .stalled => true
  | .written _ | .read _ | .refused => false

/-- What the processor does to the queues. -/
inductive Access where
  /-- Write a word for the state machine. -/
  | write (word : Word)
  /-- Read a word from the state machine. -/
  | read

/-- What happens next. -/
inductive Action where
  /-- One cycle of the state machine, with what the pins show. -/
  | cycle (pins : Word)
  /-- An access of the processor. -/
  | access (access : Access)

namespace Machine

/-- The word that an instruction reads. -/
def source (m : Machine) (pins : Word) : Source → Word
  | .pins => pins
  | .x => m.x
  | .y => m.y
  | .null => 0
  | .isr => m.isr
  | .osr => m.osr

/-- Write the target of a move and go on at an address; the program counter keeps five bits. -/
def move (m : Machine) (following : Nat) (value : Word) : Destination → Machine
  | .x => { m with pc := following, x := value }
  | .y => { m with pc := following, y := value }
  | .isr => { m with pc := following, isr := value }
  | .osr => { m with pc := following, osr := value }
  | .pc => { m with pc := value.toNat % 32 }

/-- A jump. -/
def jump (m : Machine) (following target : Nat) : Condition → Machine
  | .always => { m with pc := target }
  | .xZero => { m with pc := if m.x = 0 then target else following }
  | .xDecrement => { m with pc := if m.x = 0 then following else target, x := m.x - 1 }
  | .yDecrement => { m with pc := if m.y = 0 then following else target, y := m.y - 1 }

/-- The event of reading a source. -/
def seen (pins : Word) (source : Source) : Event :=
  if source = .pins then .sampled pins else .quiet

/-- One cycle. -/
def cycle (program : Program) (pins : Word) (m : Machine) : Machine × Event :=
  let following := program.following m.pc
  match program.fetch m.pc with
  | .jmp condition target => (m.jump following target condition, .quiet)
  | .shiftIn source count =>
    ({ m with
        pc := following
        isr := m.isr <<< count ||| ((m.source pins source).setWidth count).setWidth 32 },
      seen pins source)
  | .push block =>
    if m.rx.length < depth then
      ({ m with pc := following, rx := m.rx ++ [m.isr], isr := 0 }, .pushed m.isr)
    else if block then (m, .stalled)
    else ({ m with pc := following, isr := 0 }, .quiet)
  | .pull block =>
    match m.tx with
    | word :: rest => ({ m with pc := following, osr := word, tx := rest }, .pulled word)
    | [] => if block then (m, .stalled) else ({ m with pc := following, osr := m.x }, .quiet)
  | .mov destination invert source =>
    let value := m.source pins source
    (m.move following (if invert then ~~~value else value) destination, seen pins source)
  | .setX value => ({ m with pc := following, x := BitVec.ofNat 32 value }, .quiet)

/-- An access of the processor. A write to a full queue is lost. -/
def serve (m : Machine) : Access → Machine × Event
  | .write word =>
    if m.tx.length < depth then ({ m with tx := m.tx ++ [word] }, .written word) else (m, .refused)
  | .read =>
    match m.rx with
    | word :: rest => ({ m with rx := rest }, .read word)
    | [] => (m, .refused)

/-- A cycle or an access. -/
def step (program : Program) (m : Machine) : Action → Machine × Event
  | .cycle pins => m.cycle program pins
  | .access access => m.serve access

/-- A run, and what can be seen of it. -/
def run (program : Program) (m : Machine) : List Action → Machine × List Event
  | [] => (m, [])
  | action :: actions =>
    let (next, event) := m.step program action
    let (final, events) := run program next actions
    (final, event :: events)

variable {program : Program} {m : Machine}

/-- Nothing happens. -/
@[simp] theorem run_nil : m.run program [] = (m, []) := rfl

/-- One action after another. -/
@[simp] theorem run_cons (action : Action) (actions : List Action) :
    m.run program (action :: actions) =
      (((m.step program action).1.run program actions).1,
        (m.step program action).2 :: ((m.step program action).1.run program actions).2) := rfl

section

variable {pins : Word} {source : Source}

/-- A cycle that jumps. -/
theorem cycle_jmp {condition : Condition} {target : Nat}
    (fetched : program.fetch m.pc = .jmp condition target) :
    m.cycle program pins = (m.jump (program.following m.pc) target condition, .quiet) := by
  rw [cycle, fetched]

/-- A cycle that shifts into `ISR`. -/
theorem cycle_shiftIn {count : Nat} (fetched : program.fetch m.pc = .shiftIn source count) :
    m.cycle program pins =
      ({ m with
          pc := program.following m.pc
          isr := m.isr <<< count ||| ((m.source pins source).setWidth count).setWidth 32 },
        seen pins source) := by
  rw [cycle, fetched]

/-- A cycle that hands a word over, when there is room. -/
theorem cycle_push {block : Bool} (fetched : program.fetch m.pc = .push block)
    (room : m.rx.length < depth) :
    m.cycle program pins =
      ({ m with pc := program.following m.pc, rx := m.rx ++ [m.isr], isr := 0 },
        .pushed m.isr) := by
  rw [cycle, fetched]
  exact if_pos room

/-- A cycle that waits for room. -/
theorem cycle_push_full (fetched : program.fetch m.pc = .push true)
    (full : ¬ m.rx.length < depth) : m.cycle program pins = (m, .stalled) := by
  rw [cycle, fetched]
  exact if_neg full

/-- A cycle that takes a word. -/
theorem cycle_pull {block : Bool} {word : Word} {rest : List Word}
    (fetched : program.fetch m.pc = .pull block) (queued : m.tx = word :: rest) :
    m.cycle program pins =
      ({ m with pc := program.following m.pc, osr := word, tx := rest }, .pulled word) := by
  rw [cycle, fetched, queued]

/-- A cycle that finds no word and does not wait. -/
theorem cycle_pull_empty (fetched : program.fetch m.pc = .pull false) (empty : m.tx = []) :
    m.cycle program pins = ({ m with pc := program.following m.pc, osr := m.x }, .quiet) := by
  rw [cycle, fetched, empty]
  rfl

/-- A cycle that moves a word. -/
theorem cycle_mov {destination : Destination} {invert : Bool}
    (fetched : program.fetch m.pc = .mov destination invert source) :
    m.cycle program pins =
      (m.move (program.following m.pc)
        (if invert then ~~~(m.source pins source) else m.source pins source) destination,
        seen pins source) := by
  rw [cycle, fetched]

/-- A cycle that sets `X`. -/
theorem cycle_setX {value : Nat} (fetched : program.fetch m.pc = .setX value) :
    m.cycle program pins =
      ({ m with pc := program.following m.pc, x := BitVec.ofNat 32 value }, .quiet) := by
  rw [cycle, fetched]

end

/-- An access moves words in the queues and touches no register. -/
theorem serve_queues (m : Machine) (access : Access) :
    ∃ tx rx, (m.serve access).1 = { m with tx := tx, rx := rx } := by
  cases access with
  | write word =>
    rw [serve]
    split
    · exact ⟨m.tx ++ [word], m.rx, rfl⟩
    · exact ⟨m.tx, m.rx, rfl⟩
  | read =>
    rw [serve]
    split
    · exact ⟨m.tx, _, rfl⟩
    · exact ⟨m.tx, m.rx, rfl⟩

/-- The events of accesses are not those of cycles. -/
theorem serve_isCycle (m : Machine) (access : Access) : (m.serve access).2.isCycle = false := by
  cases access <;> rw [serve] <;> split <;> rfl

/-- What the event of a cycle says of the queues before and after it. -/
def Queues (before after : Machine) : Event → Prop
  | .pulled word => before.tx = word :: after.tx ∧ after.rx = before.rx
  | .pushed word => after.tx = before.tx ∧ after.rx = before.rx ++ [word]
  | _ => after.tx = before.tx ∧ after.rx = before.rx

/-- Reading a source leaves the queues alone. -/
theorem queues_seen {before after : Machine} {pins : Word} {source : Source}
    (tx : after.tx = before.tx) (rx : after.rx = before.rx) :
    Queues before after (seen pins source) := by
  unfold seen
  split <;> exact ⟨tx, rx⟩

/-- A cycle moves the words that its event reports. -/
theorem cycle_queues (pins : Word) :
    Queues m (m.cycle program pins).1 (m.cycle program pins).2 := by
  cases fetched : program.fetch m.pc with
  | jmp condition target =>
    rw [cycle_jmp fetched]
    cases condition <;> exact ⟨rfl, rfl⟩
  | shiftIn source count =>
    rw [cycle_shiftIn fetched]
    exact queues_seen rfl rfl
  | push block =>
    by_cases room : m.rx.length < depth
    · rw [cycle_push fetched room]
      exact ⟨rfl, rfl⟩
    · rw [cycle, fetched]
      simp only [if_neg room]
      split <;> exact ⟨rfl, rfl⟩
  | pull block =>
    cases queued : m.tx with
    | cons word rest =>
      rw [cycle_pull fetched queued]
      exact ⟨queued, rfl⟩
    | nil =>
      rw [cycle, fetched]
      simp only [queued]
      split
      · exact ⟨rfl, rfl⟩
      · exact ⟨queued.symm, rfl⟩
  | mov destination invert source =>
    rw [cycle_mov fetched]
    cases destination <;> exact queues_seen rfl rfl
  | setX value =>
    rw [cycle_setX fetched]
    exact ⟨rfl, rfl⟩

/-- What is sampled is what the pins show. -/
theorem cycle_sampled {pins sampled : Word} (seen : (m.cycle program pins).2 = .sampled sampled) :
    sampled = pins := by
  have reading {source : Source} (same : Machine.seen pins source = .sampled sampled) :
      sampled = pins := by
    unfold Machine.seen at same
    split at same
    · exact (Event.sampled.inj same).symm
    · cases same
  unfold cycle at seen
  split at seen
  · cases seen
  · exact reading seen
  · split at seen
    · cases seen
    · split at seen <;> cases seen
  · split at seen
    · cases seen
    · split at seen <;> cases seen
  · exact reading seen
  · cases seen

/-- The run rule: what is known of the machine from what was seen stays true when every step keeps
it. -/
theorem run_induction (knows : List Event → Machine → Prop)
    (keeps : ∀ events m action, knows events m →
      knows (events ++ [(m.step program action).2]) (m.step program action).1)
    (actions : List Action) (earlier : List Event) (initially : knows earlier m) :
    knows (earlier ++ (m.run program actions).2) (m.run program actions).1 := by
  induction actions generalizing earlier m with
  | nil => simpa using initially
  | cons action actions ih => simpa using ih _ (keeps earlier m action initially)

/-- An event of a run is the event of a step after what was seen before it. -/
theorem run_split {actions : List Action} {before after : List Event} {event : Event}
    (events : (m.run program actions).2 = before ++ event :: after) :
    ∃ first action, before = (m.run program first).2 ∧
      event = ((m.run program first).1.step program action).2 := by
  induction actions generalizing m before with
  | nil => simp at events
  | cons action actions ih =>
    cases before with
    | nil => exact ⟨[], action, rfl, (List.cons.inj events).1.symm⟩
    | cons earlier before =>
      obtain ⟨rfl, later⟩ := List.cons.inj events
      obtain ⟨first, last, rfl, same⟩ := ih later
      exact ⟨action :: first, last, rfl, same⟩

/-- The event of a cycle was seen in a cycle. -/
theorem run_split_cycle {actions : List Action} {before after : List Event} {event : Event}
    (events : (m.run program actions).2 = before ++ event :: after)
    (isCycle : event.isCycle = true) :
    ∃ first pins, before = (m.run program first).2 ∧
      event = ((m.run program first).1.cycle program pins).2 := by
  obtain ⟨first, action, seen, happened⟩ := run_split events
  cases action with
  | cycle pins => exact ⟨first, pins, seen, happened⟩
  | access access =>
    have other := serve_isCycle (m.run program first).1 access
    rw [happened] at isCycle
    exact absurd (isCycle.symm.trans other) nofun

/-- What was seen up to some point of a run is seen in a run. -/
theorem run_prefix {actions : List Action} {before after : List Event}
    (events : (m.run program actions).2 = before ++ after) :
    ∃ first, (m.run program first).2 = before := by
  cases after with
  | nil => exact ⟨actions, events.trans (List.append_nil before)⟩
  | cons event after =>
    obtain ⟨first, _, same, _⟩ := run_split events
    exact ⟨first, same.symm⟩

end Machine

end Pio
