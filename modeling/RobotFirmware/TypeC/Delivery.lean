import RobotFirmware.TypeC.Flow

/-!
# Delivery

No command is lost, doubled, overtaken or stranded in a run in which no pop finds the call
queue full and no two pops overlap. That none is stranded is an invariant of its own: while
the opcode queue holds a command, something drives the flow, be it a pop that is under way, a
command in flight, or a response.
-/

namespace RobotFirmware

open Interaction Max77958

namespace TypeC

/-- Whether a thread with this duty will pop a command, or core 1 will write one. -/
def Duty.drives : Duty → Nat
  | .cleared _ => 1
  | .added => 1
  | .holding .. => 1
  | .executing _ => 1
  | .noticed => 1
  | .replied _ => 1
  | .answered => 1
  | _ => 0

/-- Whether a thread with this duty has added a command. -/
def Duty.adds : Duty → Nat
  | .added => 1
  | _ => 0

/-- A thread adds one command at a time. -/
theorem adds_le_one (duty : Duty) : duty.adds ≤ 1 := by
  unfold Duty.adds
  split <;> decide

/-- What was added is popped. -/
theorem adds_le_drives (duty : Duty) : duty.adds ≤ duty.drives := by
  cases duty <;> first | exact Nat.zero_le _ | exact Nat.le_refl _

/-- Whether a thread with this duty is in the middle of adding or popping a command. -/
def Duty.Pairs : Duty → Prop
  | .cleared _ => True
  | .added => True
  | .holding .. => True
  | _ => False

instance : DecidablePred Duty.Pairs := fun duty => by
  unfold Duty.Pairs
  split <;> infer_instance

/-- Whether core 1 is handling a response. -/
def Duty.Responds : Duty → Prop
  | .noticed => True
  | .replied _ => True
  | .answered => True
  | _ => False

namespace Board

/-- What drives the flow. -/
def drive (board : Board) : Nat :=
  (commands board.callQueue).length + board.pending.length + board.apCmdResI.toNat +
    board.weigh Duty.drives

/-- No step of an add and pop pair is in progress. -/
def Settled (board : Board) : Prop := ¬board.core0.duty.Pairs ∧ ¬board.core1.duty.Pairs

instance (board : Board) : Decidable board.Settled := inferInstanceAs (Decidable (_ ∧ _))

/-- A command awaits its response: the chip has not answered, or the answer is not handled. -/
def Awaits (board : Board) : Prop :=
  board.pending ≠ [] ∨ board.apCmdResI = true ∨ board.core1.duty.Responds

/-- No command is lost, doubled, overtaken or stranded. -/
structure Delivers (board : Board) : Prop where
  /-- Core 1 executes commands in the order of their addition, each at most once. -/
  inOrder : board.executed <+: board.added
  /-- Every command was executed, or is in one of the queues. -/
  placed : board.Settled →
    board.added = board.executed ++ commands board.callQueue ++ board.opcodeQueue
  /-- A waiting command will be popped, for another one is on its way. -/
  driven : board.Settled → board.opcodeQueue ≠ [] →
    commands board.callQueue ≠ [] ∨ board.core1.duty.running ≠ [] ∨ board.Awaits

/-- What drives the flow while a command waits in the opcode queue. -/
structure Driven (board : Board) : Prop where
  /-- Before the first command of `max77958_init` only core 1 adds one, and pops it. -/
  early : board.core0.duty = .starting → board.opcodeQueue.length ≤ board.core1.duty.adds
  /-- Core 0 executes no command and handles no response. -/
  apart : ¬board.core0.duty.OfCore1
  /-- Something drives the flow. -/
  drive : board.opcodeQueue = [] ∨ 0 < board.drive

end Board

/-- A thread in no pair holds nothing. -/
theorem held_of_not_pairs {duty : Duty} (settled : ¬duty.Pairs) : duty.held = [] := by
  cases duty <;> first | rfl | exact absurd trivial settled

/-- On core 0 only a pair drives the flow. -/
theorem drives_core0 {duty : Duty} (settled : ¬duty.Pairs) (apart : ¬duty.OfCore1) :
    duty.drives = 0 := by
  cases duty <;> first | rfl | exact absurd trivial settled | exact absurd trivial apart

/-- On core 1 also a command that it executes, or a response that it handles. -/
theorem drives_core1 {duty : Duty} (settled : ¬duty.Pairs) (idle : duty.running = [])
    (quiet : ¬duty.Responds) : duty.drives = 0 := by
  cases duty <;>
    first | rfl | exact absurd trivial settled | exact absurd trivial quiet | cases idle

/-- With a flow that is driven, everything is delivered. -/
theorem delivers_of_driven {board : Board} (flow : Flow board) (driven : board.Driven) :
    board.Delivers := by
  obtain ⟨line, shows⟩ := flow.carries
  have placed (settled : board.Settled) :
      board.added = board.executed ++ commands board.callQueue ++ board.opcodeQueue := by
    have free : line.hand = [] := by
      rw [shows.hand, Board.hands, held_of_not_pairs settled.1, held_of_not_pairs settled.2,
        List.append_nil]
    rw [← shows.added, ← shows.taken, ← shows.belt, ← shows.store]
    exact line.added_eq free
  refine ⟨?_, placed, fun settled waiting => ?_⟩
  · rw [← shows.added, ← shows.taken]
    exact line.taken_isPrefix
  · by_contra none
    simp only [Board.Awaits, not_or, not_not, Bool.not_eq_true] at none
    obtain ⟨belt, idle, pending, quiet, responds⟩ := none
    have still : board.drive = 0 := by
      simp only [Board.drive, Board.weigh, belt, pending, quiet, List.length_nil, Bool.toNat_false,
        drives_core0 settled.1 driven.apart, drives_core1 settled.2 idle responds]
    exact Nat.ne_of_gt (driven.drive.resolve_left waiting) still

/-- Core 1 executes what it takes from the call queue. -/
theorem driven_dequeue {board : Board} {entry : QueueEntry} {rest : List QueueEntry}
    (driven : board.Driven) (free : board.core1.duty = .free)
    (queued : board.callQueue = entry :: rest) : (board.dequeue entry rest).Driven := by
  have none : board.core1.duty.adds = 0 := congrArg Duty.adds free
  unfold Board.dequeue
  split_ifs with opcode
  · exact {
      early := fun starting => Nat.le_trans (none ▸ driven.early starting) (Nat.zero_le _)
      apart := driven.apart
      drive := .inr (Nat.lt_of_lt_of_le Nat.one_pos (Nat.le_trans (Nat.le_add_left _ _)
        (Nat.le_add_left _ _))) }
  · have same : commands board.callQueue = commands rest := by
      rw [queued, commands_cons_plain _ (Bool.eq_false_iff.mpr opcode)]
    have drive := driven.drive
    rw [Board.drive, same] at drive
    exact ⟨driven.early, driven.apart, drive⟩

/-- No command waits at the start. -/
theorem driven_start (callQueue : List QueueEntry) (pdStatus0 : UInt8) :
    (Board.start callQueue pdStatus0).Driven := ⟨fun _ => Nat.zero_le _, id, .inl rfl⟩

/-- A core that leaves a duty in which it had added nothing. -/
theorem early_moved {board : Board} {thread : Thread} {here : Local} {before after : Duty}
    (driven : board.Driven) (stood : board.duty thread = before) (stands : here.duty = after)
    (away : after ≠ .starting) (idle : thread = .core1 → before.adds = 0)
    (starting : (board.moved thread here).core0.duty = .starting) :
    board.opcodeQueue.length ≤ (board.moved thread here).core1.duty.adds := by
  cases thread with
  | core0 => exact absurd (stands.symm.trans starting) away
  | interrupt => exact driven.early starting
  | core1 =>
    have none : board.core1.duty.adds = 0 := (congrArg Duty.adds stood).trans (idle rfl)
    have empty : board.opcodeQueue.length ≤ 0 := none ▸ driven.early starting
    exact Nat.le_trans empty (Nat.zero_le _)

/-- A thread that stays where it was. -/
theorem early_still {board : Board} {thread : Thread} {here : Local} (driven : board.Driven)
    (same : here.duty = board.duty thread)
    (starting : (board.moved thread here).core0.duty = .starting) :
    board.opcodeQueue.length ≤ (board.moved thread here).core1.duty.adds := by
  cases thread with
  | core0 => exact driven.early (same.symm.trans starting)
  | interrupt => exact driven.early starting
  | core1 => exact (congrArg Duty.adds same.symm) ▸ driven.early starting

section Delivery

variable [DriverHeader] {board after : Board} {thread : Thread} {deed : Deed}

/-- Before the first command of `max77958_init` only core 1 adds one, and pops it. -/
theorem early_turn (driven : board.Driven) (turn : Turn board thread deed after) 
    (starting : after.core0.duty = .starting) : after.opcodeQueue.length ≤
        after.core1.duty.adds := by
  cases turn with
  | still pops same => exact early_still driven same starting
  | shutdown same => exact early_still driven same starting
  | command core1 executing free =>
    exact early_moved driven executing free nofun (fun _ => rfl) starting
  | clear core0 stood stands => exact early_still driven (stands.trans stood.symm) starting
  | notice core1 free raised noticed =>
    exact early_moved driven free noticed nofun (fun _ => rfl) starting
  | readResponse core1 noticed read replied =>
    exact early_moved driven noticed replied nofun (fun _ => rfl) starting
  | storeResponse core1 replied answered =>
    exact early_moved driven replied answered nofun (fun _ => rfl) starting
  | readCcStatus core free turning =>
    refine early_moved driven free turning ?_ (fun _ => rfl) starting
    split_ifs <;> nofun
  | readSwap core free swap turning =>
    exact early_moved driven free turning nofun (fun _ => rfl) starting
  | queuePlain plain same => exact early_still driven same starting
  | queueHeld core holding free =>
    exact early_moved driven holding free nofun (fun _ => rfl) starting
  | dropHeld core holding full failed =>
    rename_i answering here
    exact early_moved driven holding failed (by cases answering <;> nofun) (fun _ => rfl) starting
  | addOpcode core cleared fits added =>
    cases thread with
    | core0 => exact absurd (added.symm.trans starting) nofun
    | interrupt => exact absurd rfl core
    | core1 =>
      rename_i entry due here
      have none : board.core1.duty.adds = 0 := congrArg Duty.adds cleared
      have one : here.duty.adds = 1 := congrArg Duty.adds added
      have few := driven.early starting
      change (board.opcodeQueue ++ [entry]).length ≤ here.duty.adds
      rw [List.length_append, List.length_singleton]
      omega
  | removeOpcode core pops queued holding =>
    cases thread with
    | core0 => exact absurd (holding.symm.trans starting) nofun
    | interrupt => exact absurd rfl core
    | core1 =>
      have few := Nat.le_trans (driven.early starting) (adds_le_one _)
      rw [queued, List.length_cons] at few
      exact Nat.le_trans (Nat.le_of_succ_le_succ few) (Nat.zero_le _)
  | removeNone core pops queued failed =>
    exact Nat.le_trans (Nat.le_of_eq (congrArg List.length queued)) (Nat.zero_le _)
  | clearFinished core begins cleared =>
    refine early_moved driven rfl cleared nofun (fun core1 => ?_) starting
    obtain stood | ⟨due, stood⟩ | ⟨core0, _⟩ := begins
    · exact congrArg Duty.adds stood
    · exact congrArg Duty.adds stood
    · exact absurd (core0.symm.trans core1) nofun
  | setFinished core1 finishing free =>
    exact early_moved driven finishing free nofun (fun _ => rfl) starting

/-- Something drives the flow after every turn, when no pop finds the call queue full. -/
theorem drive_turn (flow : Flow board) (driven : board.Driven) (roomy : Roomy board thread deed)
    (turn : Turn board thread deed after) : after.opcodeQueue = [] ∨ 0 < after.drive := by
  have same {changed : Board} {here : Local} (opcodeQueue : changed.opcodeQueue = board.opcodeQueue)
      (callQueue : commands changed.callQueue = commands board.callQueue)
      (pending : changed.pending = board.pending) (apCmdResI : changed.apCmdResI = board.apCmdResI)
      (weigh : (changed.moved thread here).weigh Duty.drives = board.weigh Duty.drives) :
      (changed.moved thread here).opcodeQueue = [] ∨ 0 < (changed.moved thread here).drive := by
    have drive : (changed.moved thread here).drive = board.drive := by
      rw [Board.drive, weigh]
      simp only [Board.moved, callQueue, pending, apCmdResI, Board.drive]
    exact drive ▸ opcodeQueue ▸ driven.drive
  have pushed {changed : Board} {here : Local} {duty : Duty} (core : thread ≠ .interrupt)
      (stands : here.duty = duty) (drives : duty.drives = 1) :
      (changed.moved thread here).opcodeQueue = [] ∨ 0 < (changed.moved thread here).drive := by
    have weighs : duty.drives ≤ (changed.moved thread here).weigh Duty.drives :=
      Board.le_weigh_moved Duty.drives core stands
    rw [drives] at weighs
    exact .inr (Nat.lt_of_lt_of_le weighs (Nat.le_add_left _ _))
  have apart {other : Thread} (same : thread = other) (core : other ≠ .interrupt) :
      thread ≠ .interrupt := same ▸ core
  cases turn with
  | still pops stays =>
    exact same rfl rfl rfl rfl (Board.weigh_moved_same _ stays)
  | shutdown stays =>
    exact same rfl rfl rfl rfl (Board.weigh_moved_same _ stays)
  | command core1 executing free =>
    refine .inr ?_
    simp only [Board.drive, Board.moved, List.length_append, List.length_singleton]
    omega
  | clear core0 stood stands =>
    subst core0
    have early : board.opcodeQueue.length ≤ board.core1.duty.drives :=
      Nat.le_trans (driven.early stood) (adds_le_drives _)
    refine (Nat.eq_zero_or_pos board.opcodeQueue.length).imp List.eq_nil_of_length_eq_zero ?_
    exact fun waiting => Nat.lt_of_lt_of_le (Nat.lt_of_lt_of_le waiting early)
      (Nat.le_trans (Nat.le_add_left _ _) (Nat.le_add_left _ _))
  | notice core1 free raised noticed => exact pushed (apart core1 Thread.noConfusion) noticed rfl
  | readResponse core1 noticed read replied =>
    exact pushed (apart core1 Thread.noConfusion) replied rfl
  | storeResponse core1 replied answered =>
    exact pushed (apart core1 Thread.noConfusion) answered rfl
  | readCcStatus core free turning =>
    refine same rfl rfl rfl rfl (Board.weigh_moved_even _ free turning ?_)
    split_ifs <;> rfl
  | readSwap core free swap turning =>
    exact same rfl rfl rfl rfl (Board.weigh_moved_even _ free turning rfl)
  | queuePlain plain stays =>
    exact same rfl (commands_append_plain _ plain) rfl rfl
      (Board.weigh_moved_same _ stays)
  | queueHeld core holding free =>
    refine .inr ?_
    simp only [Board.drive, Board.moved, commands_append _ (flow.holding_opcode core holding),
      List.length_append, List.length_singleton]
    omega
  | dropHeld core holding full failed =>
    exact absurd (roomy (flow.holding_opcode core holding)) full
  | addOpcode core cleared fits added => exact pushed core added rfl
  | removeOpcode core pops queued holding => exact pushed core holding rfl
  | removeNone core pops queued failed => exact .inl queued
  | clearFinished core begins cleared => exact pushed core cleared rfl
  | setFinished core1 finishing free =>
    exact same rfl rfl rfl rfl (Board.weigh_moved_even _ finishing free rfl)

/-- The flow stays driven after every turn, when no pop finds the call queue full. -/
theorem driven_turn (flow : Flow board) (driven : board.Driven) (roomy : Roomy board thread deed)
    (turn : Turn board thread deed after) : after.Driven :=
  ⟨early_turn driven turn, ofCore1_turn turn driven.apart, drive_turn flow driven roomy turn⟩

/-- An answer drives the flow. -/
theorem driven_drift (driven : board.Driven) (drifted : board.Drift after) : after.Driven := by
  cases drifted with
  | answer response pending =>
    exact ⟨driven.early, driven.apart, .inr (by simp only [Board.drive, Bool.toNat_true]; omega)⟩
  | message pdStatus0 => exact ⟨driven.early, driven.apart, driven.drive⟩

/-- In every run in which no pop finds the call queue full and no two pops overlap, no command
is lost, doubled, overtaken or stranded. -/
theorem commands_delivered {buffers : Buffers} {callQueue : List QueueEntry} {pdStatus0 : UInt8}
    {config : sharing.Config} (plain : commands callQueue = [])
    (reached : System.Reaches
      (Undisturbedly fun board thread deed => Roomy board thread deed ∧ Alone board thread deed)
      (sharingStarted buffers callQueue pdStatus0) config) :
          Board.Delivers config.shared.board := by
  have both : Flow config.shared.board ∧ Board.Driven config.shared.board := by
    refine throughout_undisturbed (fun board => Flow board ∧ board.Driven) ?_ ?_ ?_
      ⟨flow_start plain pdStatus0, driven_start callQueue pdStatus0⟩ reached
    · rintro board after thread deed ⟨flow, driven⟩ ⟨roomy, alone⟩ turn
      exact ⟨flow_turn flow roomy alone turn, driven_turn flow driven roomy turn⟩
    · rintro board entry rest ⟨flow, driven⟩ free queued
      exact ⟨flow_dequeue flow free queued, driven_dequeue driven free queued⟩
    · rintro board after ⟨flow, driven⟩ drifted
      exact ⟨flow_drift flow drifted, driven_drift driven drifted⟩
  exact delivers_of_driven both.1 both.2

end Delivery

/-- Core 1 executes a command and handles the response. -/
def firstAnswered [DriverHeader] : List (System.Player.Cue player) :=
  core0 .calm ++ core1 .calm ++ answering (reply 1)

/-- `max77958_init` adds three commands, of which core 1 executes the first, and then moves the
second to the call queue. -/
theorem commands_delivered_first :
    let _ := sampleHeader
    ∃ board, boardAfter (fun board thread deed => Roomy board thread deed ∧ Alone board thread deed)
        firstAnswered (sharingStarted .zero [] 0) = some board ∧
      (board.executed.length, (commands board.callQueue).length, board.opcodeQueue.length) =
        (1, 1, 1) ∧ board.Delivers := by
  intro header
  obtain ⟨board, played, seen⟩ := Option.map_eq_some_iff.mp (show (boardAfter
      (fun board thread deed => Roomy board thread deed ∧ Alone board thread deed)
      firstAnswered (sharingStarted .zero [] 0)).map (fun board => (board.executed.length,
        (commands board.callQueue).length, board.opcodeQueue.length)) = some (1, 1, 1) by
    decide +kernel)
  obtain ⟨config, rfl, reached⟩ := boardAfter_reaches played
  exact ⟨config.shared.board, played, seen, commands_delivered rfl reached⟩

/-- A call queue full of other functions. -/
def crowded : List QueueEntry := List.replicate callQueueCapacity ⟨.drv8830TestResponse, 0⟩

set_option maxRecDepth 4096 in
/-- With the call queue full, `max77958_init` loses the first of its commands. -/
theorem commands_lost :
    ¬ ∀ [DriverHeader] (buffers : Buffers) (callQueue : List QueueEntry) (pdStatus0 : UInt8)
        (config : sharing.Config), commands callQueue = [] →
      System.Reaches (fun _ _ => True) (sharingStarted buffers callQueue pdStatus0) config →
        Board.Delivers config.shared.board := by
  intro delivers
  let _ := sampleHeader
  obtain ⟨board, played, seen⟩ := Option.map_eq_some_iff.mp (show (boardAfter (fun _ _ _ => True)
      (core0 .calm) (sharingStarted .zero crowded 0)).map (fun board => decide (board.Settled ∧
        board.added ≠ board.executed ++ commands board.callQueue ++ board.opcodeQueue)) =
        some true by decide +kernel)
  obtain ⟨settled, lost⟩ := of_decide_eq_true seen
  obtain ⟨config, rfl, reached⟩ := boardAfter_reaches played
  have reached : sharing.Reaches (fun _ _ => True) _ config := reached.mono fun _ _ _ => trivial
  exact lost ((delivers .zero crowded 0 config rfl reached).placed settled)

end TypeC

end RobotFirmware
