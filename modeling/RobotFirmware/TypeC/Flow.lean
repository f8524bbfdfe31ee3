import RobotFirmware.Structure.Conveyor
import RobotFirmware.TypeC.Playback
import RobotFirmware.TypeC.Turns

/-!
# The flow of commands

The opcode queue is the store of a conveyor, an `opcode_queue_pop` its hand, the commands in
the call queue its belt; core 1 takes from it. A second conveyor leads from core 1 through the
chip. The board shows both lines as long as no pop finds the call queue full and no two pops
overlap. What drives the flow is a command in flight, whose response makes the handler pop the
next one.
-/

namespace RobotFirmware

open Interaction Max77958 Conveyor

namespace TypeC

/-- The commands among some entries. -/
def commands (entries : List QueueEntry) : List QueueEntry := entries.filter fun entry =>
    entry.func.isOpcode

/-- Nothing is queued. -/
@[simp] theorem commands_nil : commands [] = [] := rfl

/-- A command at the end. -/
theorem commands_append {entry : QueueEntry} (entries : List QueueEntry)
    (opcode : entry.func.isOpcode = true) :
    commands (entries ++ [entry]) = commands entries ++ [entry] := by
  simp only [commands, List.filter_append, List.filter_cons, opcode, if_true, List.filter_nil]

/-- Any other function at the end. -/
theorem commands_append_plain {entry : QueueEntry} (entries : List QueueEntry)
    (plain : entry.func.isOpcode = false) : commands (entries ++ [entry]) = commands entries := by
  simp only [commands, List.filter_append, List.filter_cons, plain, Bool.false_eq_true, if_false,
    List.filter_nil, List.append_nil]

/-- A command at the front. -/
theorem commands_cons {entry : QueueEntry} (entries : List QueueEntry)
    (opcode : entry.func.isOpcode = true) : commands (entry :: entries) =
        entry :: commands entries :=
  List.filter_cons_of_pos opcode

/-- Any other function at the front. -/
theorem commands_cons_plain {entry : QueueEntry} (entries : List QueueEntry)
    (plain : entry.func.isOpcode = false) : commands (entry :: entries) = commands entries :=
  List.filter_cons_of_neg (Bool.eq_false_iff.mp plain)

/-- The command that a thread is moving between the queues. -/
def Duty.held : Duty → List QueueEntry
  | .holding entry _ => [entry]
  | _ => []

/-- After a pop that moved nothing, nothing is held. -/
theorem popFailed_held (answering : Bool) : (popFailed answering).held = [] := by
  cases answering <;> rfl

/-- The command that core 1 is executing. -/
def Duty.running : Duty → List QueueEntry
  | .executing entry => [entry]
  | _ => []

/-- After a pop that moved nothing, nothing is executed. -/
theorem popFailed_running (answering : Bool) : (popFailed answering).running = [] := by
  cases answering <;> rfl

namespace Board

/-- The commands that are being moved between the queues. -/
def hands (board : Board) : List QueueEntry := board.core0.duty.held ++ board.core1.duty.held

/-- A thread that holds the same as before leaves the hands as they were. -/
theorem hands_moved {board : Board} {thread : Thread} {here : Local}
    (same : here.duty.held = (board.duty thread).held) :
    (board.moved thread here).hands = board.hands := by
  cases thread with
  | core0 => simp only [hands, moved, same, duty, Board.here, reduceCtorEq, if_true, if_false]
  | interrupt => rfl
  | core1 => simp only [hands, moved, same, duty, Board.here, reduceCtorEq, if_true, if_false]

/-- A thread that holds nothing before and after leaves the hands as they were. -/
theorem hands_moved_free {board : Board} {thread : Thread} {here : Local} {before after : Duty}
    (stood : board.duty thread = before) (stands : here.duty = after) (nothing : before.held = [])
    (still : after.held = []) : (board.moved thread here).hands = board.hands :=
  hands_moved (by rw [stands, stood, nothing, still])

/-- A core that lifts a command with free hands holds just that. -/
theorem hands_lifted {board : Board} {thread : Thread} {here : Local} {entry : QueueEntry}
    {answering : Bool} (core : thread ≠ .interrupt) (free : board.hands = [])
    (holding : here.duty = .holding entry answering) :
    (board.moved thread here).hands = [entry] := by
  obtain ⟨first, second⟩ := List.append_eq_nil_iff.mp free
  have held : here.duty.held = [entry] := congrArg Duty.held holding
  cases thread with
  | core0 => simp only [hands, moved, reduceCtorEq, if_true, if_false, held, second,
    List.append_nil]
  | interrupt => exact absurd rfl core
  | core1 => simp only [hands, moved, reduceCtorEq, if_true, if_false, held, first, List.nil_append]

/-- A core that holds a command holds the only one. -/
theorem hands_holding {board : Board} {thread : Thread} {entry : QueueEntry} {answering : Bool}
    (core : thread ≠ .interrupt) (single : board.hands.length ≤ 1)
    (holding : board.duty thread = .holding entry answering) : board.hands = [entry] := by
  have held : (board.duty thread).held = [entry] := congrArg Duty.held holding
  obtain ⟨rest, same | same⟩ : ∃ rest, board.hands = [entry] ++ rest ∨ board.hands =
      rest ++ [entry] := by
    cases thread with
    | core0 => exact ⟨_, .inl (congrArg (· ++ _) held)⟩
    | interrupt => exact absurd rfl core
    | core1 => exact ⟨_, .inr (congrArg (_ ++ ·) held)⟩
  all_goals
    rw [same, List.length_append, List.length_singleton] at single
    rw [same, List.eq_nil_of_length_eq_zero (l := rest) (by omega)]
    rfl

/-- A core that puts down the only command held leaves the hands free. -/
theorem hands_put {board : Board} {thread : Thread} {here : Local} {entry : QueueEntry}
    {answering : Bool} (core : thread ≠ .interrupt) (single : board.hands.length ≤ 1)
    (holding : board.duty thread = .holding entry answering) (free : here.duty.held = []) :
    (board.moved thread here).hands = [] := by
  have hands := hands_holding core single holding
  have held : (board.duty thread).held = [entry] := congrArg Duty.held holding
  cases thread with
  | core0 =>
    have split : [entry] ++ board.core1.duty.held = [entry] ++ [] :=
      (congrArg (· ++ _) held).symm.trans hands
    have other := List.append_cancel_left split
    simp only [Board.hands, moved, reduceCtorEq, if_true, if_false, other, free, List.append_nil]
  | interrupt => exact absurd rfl core
  | core1 =>
    have split : board.core0.duty.held ++ [entry] = [] ++ [entry] :=
      (congrArg (_ ++ ·) held).symm.trans hands
    have other := List.append_cancel_right split
    simp only [Board.hands, moved, reduceCtorEq, if_true, if_false, other, free, List.append_nil]

/-- A thread that executes the same as before leaves core 1 to execute what it did. -/
theorem running_moved {board : Board} {thread : Thread} {here : Local}
    (same : here.duty.running = (board.duty thread).running) :
    (board.moved thread here).core1.duty.running = board.core1.duty.running := by
  cases thread with
  | core0 => rfl
  | interrupt => rfl
  | core1 => exact same

/-- A thread that executes nothing before and after leaves core 1 to execute what it did. -/
theorem running_moved_free {board : Board} {thread : Thread} {here : Local} {before after : Duty}
    (stood : board.duty thread = before) (stands : here.duty = after)
    (nothing : before.running = []) (still : after.running = []) :
    (board.moved thread here).core1.duty.running = board.core1.duty.running :=
  running_moved (by rw [stands, stood, nothing, still])

/-- The board shows the line from the opcode queue to core 1. -/
structure Carries (board : Board) (line : Line QueueEntry) : Prop where
  /-- Commands are added to the opcode queue. -/
  added : line.added = board.added
  /-- Core 1 takes them. -/
  taken : line.taken = board.executed
  /-- The belt is the call queue. -/
  belt : line.belt = commands board.callQueue
  /-- The hand is a pop that has removed a command. -/
  hand : line.hand = board.hands
  /-- The store is the opcode queue. -/
  store : line.store = board.opcodeQueue

/-- Boards that agree on the queues and the hands carry the same line. -/
theorem Carries.congr {line : Line QueueEntry} {board after : Board} (shows : board.Carries line)
    (added : after.added = board.added) (executed : after.executed = board.executed)
    (callQueue : commands after.callQueue = commands board.callQueue)
    (hands : after.hands = board.hands) (opcodeQueue : after.opcodeQueue = board.opcodeQueue) :
    after.Carries line :=
  ⟨shows.added.trans added.symm, shows.taken.trans executed.symm, shows.belt.trans callQueue.symm,
    shows.hand.trans hands.symm, shows.store.trans opcodeQueue.symm⟩

/-- The board shows the line from core 1 through the chip. -/
structure Serves (board : Board) (line : Line QueueEntry) : Prop where
  /-- Core 1 takes commands. -/
  added : line.added = board.executed
  /-- The chip answers them. -/
  taken : line.taken = board.answers.map Prod.fst
  /-- The belt is the chip. -/
  belt : line.belt = board.pending
  /-- The hand is core 1. -/
  hand : line.hand = board.core1.duty.running
  /-- Nothing waits. -/
  store : line.store = []

end Board

/-- A pop finds room in the call queue for the command that it removed. -/
def Roomy (board : Board) (_ : Thread) : Deed → Prop
  | .queue entry _ => entry.func.isOpcode = true → board.callQueue.length < callQueueCapacity
  | _ => True

/-- A pop removes a command only while no other pop is between its removal and its addition. -/
def Alone (board : Board) (_ : Thread) : Deed → Prop
  | .removeOpcode (some _) => board.hands = []
  | _ => True

instance (board : Board) (thread : Thread) (deed : Deed) : Decidable (Roomy board thread deed) := by
  unfold Roomy
  split <;> infer_instance

instance (board : Board) (thread : Thread) (deed : Deed) : Decidable (Alone board thread deed) := by
  unfold Alone
  split <;> infer_instance

/-- The flow of commands. -/
structure Flow (board : Board) : Prop where
  /-- Only commands are added. -/
  opcodes : ∀ entry ∈ board.added, entry.func.isOpcode = true
  /-- Commands go from the opcode queue to core 1. -/
  carries : ∃ line, board.Carries line
  /-- Commands go from core 1 through the chip. -/
  serves : ∃ line, board.Serves line
  /-- What was written was answered, or is pending. -/
  written : board.written = board.answers.map Prod.fst ++ board.pending

/-- One command at most is being moved. -/
theorem Flow.single {board : Board} (flow : Flow board) : board.hands.length ≤ 1 := by
  obtain ⟨line, shows⟩ := flow.carries
  exact shows.hand ▸ line.single

/-- What a pop has removed is a command. -/
theorem Flow.holding_opcode {board : Board} {thread : Thread} {entry : QueueEntry}
    {answering : Bool} (flow : Flow board)
    (core : thread ≠ .interrupt) (holding : board.duty thread = .holding entry answering) :
    entry.func.isOpcode = true := by
  obtain ⟨line, shows⟩ := flow.carries
  have held := Board.hands_holding core flow.single holding
  refine flow.opcodes entry ?_
  rw [← shows.added, line.inOrder, shows.hand, held]
  simp only [List.mem_append, List.mem_singleton, or_true, true_or]

/-- Boards that agree on the chip and on what core 1 executes serve the same line. -/
theorem Flow.serves_congr {board after : Board} (flow : Flow board)
    (executed : after.executed = board.executed)
    (answers : after.answers = board.answers) (pending : after.pending = board.pending)
    (written : after.written = board.written)
    (running : after.core1.duty.running = board.core1.duty.running) :
    (∃ line, after.Serves line) ∧ after.written = after.answers.map Prod.fst ++ after.pending := by
  obtain ⟨line, shows⟩ := flow.serves
  rw [answers, pending, written]
  refine ⟨⟨line, shows.added.trans executed.symm, ?_, shows.belt.trans pending.symm,
    shows.hand.trans running.symm, shows.store⟩, flow.written⟩
  rw [answers, shows.taken]

/-- The flow starts with no commands. -/
theorem flow_start {callQueue : List QueueEntry} (plain : commands callQueue = [])
    (pdStatus0 : UInt8) : Flow (.start callQueue pdStatus0) where
  opcodes := nofun
  carries := ⟨.empty, rfl, rfl, plain.symm, rfl, rfl⟩
  serves := ⟨.empty, rfl, rfl, rfl, rfl, rfl⟩
  written := rfl

/-- Core 1 takes the next command of the line. -/
theorem flow_dequeue {board : Board} {entry : QueueEntry} {rest : List QueueEntry}
    (flow : Flow board)
    (free : board.core1.duty = .free) (queued : board.callQueue = entry :: rest) :
    Flow (board.dequeue entry rest) := by
  obtain ⟨line, carries⟩ := flow.carries
  obtain ⟨chip, serves⟩ := flow.serves
  have idle : chip.hand = [] := serves.hand.trans (congrArg Duty.running free)
  have hands : board.hands = board.core0.duty.held ++ [] := congrArg (_ ++ ·)
      (congrArg Duty.held free)
  unfold Board.dequeue
  split_ifs with opcode
  · have next : line.belt = entry :: commands rest := by
      rw [carries.belt, queued, commands_cons _ opcode]
    have stored : (chip.add entry).store = entry :: [] := congrArg (· ++ [entry]) serves.store
    exact {
      opcodes := flow.opcodes
      carries := ⟨line.take next, carries.added, congrArg (· ++ [entry]) carries.taken, rfl,
        carries.hand.trans hands, carries.store⟩
      serves := ⟨(chip.add entry).lift stored idle, congrArg (· ++ [entry]) serves.added,
        serves.taken, serves.belt, rfl, rfl⟩
      written := flow.written }
  · have same : commands board.callQueue = commands rest := by
      rw [queued, commands_cons_plain _ (Bool.eq_false_iff.mpr opcode)]
    exact {
      opcodes := flow.opcodes
      carries := ⟨line, carries.added, carries.taken, carries.belt.trans same, carries.hand,
        carries.store⟩
      serves := ⟨chip, serves.added, serves.taken, serves.belt, serves.hand, serves.store⟩
      written := flow.written }

section Flow

variable [DriverHeader] {board after : Board} {thread : Thread} {deed : Deed}

/-- Every turn moves the line from the opcode queue to core 1 by one operation, or not at all. -/
theorem carries_turn (flow : Flow board) (roomy : Roomy board thread deed)
    (alone : Alone board thread deed) (turn : Turn board thread deed after) :
    ∃ line, after.Carries line := by
  obtain ⟨line, shows⟩ := flow.carries
  cases turn with
  | still pops same =>
    exact ⟨line, shows.congr rfl rfl rfl (Board.hands_moved (congrArg Duty.held same)) rfl⟩
  | shutdown same =>
    exact ⟨line, shows.congr rfl rfl rfl (Board.hands_moved (congrArg Duty.held same)) rfl⟩
  | command core1 executing free =>
    exact ⟨line, shows.congr rfl rfl rfl (Board.hands_moved_free executing free rfl rfl) rfl⟩
  | clear core0 starting stands =>
    exact ⟨line, shows.congr rfl rfl rfl (Board.hands_moved_free starting stands rfl rfl) rfl⟩
  | notice core1 free raised noticed =>
    exact ⟨line, shows.congr rfl rfl rfl (Board.hands_moved_free free noticed rfl rfl) rfl⟩
  | readResponse core1 noticed read replied =>
    exact ⟨line, shows.congr rfl rfl rfl (Board.hands_moved_free noticed replied rfl rfl) rfl⟩
  | storeResponse core1 replied answered =>
    exact ⟨line, shows.congr rfl rfl rfl (Board.hands_moved_free replied answered rfl rfl) rfl⟩
  | readCcStatus core free turning =>
    refine ⟨line, shows.congr rfl rfl rfl (Board.hands_moved_free free turning rfl ?_) rfl⟩
    split_ifs <;> rfl
  | readSwap core free swap turning =>
    exact ⟨line, shows.congr rfl rfl rfl (Board.hands_moved_free free turning rfl rfl) rfl⟩
  | queuePlain plain same =>
    exact ⟨line, shows.congr rfl rfl (commands_append_plain _ plain)
      (Board.hands_moved (congrArg Duty.held same)) rfl⟩
  | queueHeld core holding free =>
    have held := shows.hand.trans (Board.hands_holding core flow.single holding)
    have put := Board.hands_put core flow.single holding (congrArg Duty.held free)
    refine ⟨line.put, shows.added, shows.taken, ?_, put.symm, shows.store⟩
    exact (congrArg₂ (· ++ ·) shows.belt held).trans
      (commands_append _ (flow.holding_opcode core holding)).symm
  | dropHeld core holding full failed =>
    exact absurd (roomy (flow.holding_opcode core holding)) full
  | addOpcode core cleared fits added =>
    refine ⟨line.add _, congrArg (· ++ _) shows.added, shows.taken, shows.belt, ?_,
      congrArg (· ++ _) shows.store⟩
    exact shows.hand.trans (Board.hands_moved_free cleared added rfl rfl).symm
  | removeOpcode core pops queued holding =>
    refine ⟨line.lift (shows.store.trans queued) (shows.hand.trans alone), shows.added, shows.taken,
      shows.belt, ?_, rfl⟩
    exact (Board.hands_lifted core alone holding).symm
  | removeNone core pops queued failed =>
    have nothing : (board.duty thread).held = [] := by
      obtain stood | ⟨_, stood⟩ := pops <;> (rw [stood]; rfl)
    exact ⟨line, shows.congr rfl rfl rfl
      (Board.hands_moved_free rfl failed nothing (popFailed_held _)) rfl⟩
  | clearFinished core begins cleared =>
    have nothing : (board.duty thread).held = [] := by
      obtain stood | ⟨due, stood⟩ | ⟨_, stood | stood⟩ := begins <;> (rw [stood]; rfl)
    exact ⟨line, shows.congr rfl rfl rfl (Board.hands_moved_free rfl cleared nothing rfl) rfl⟩
  | setFinished core1 finishing free =>
    exact ⟨line, shows.congr rfl rfl rfl (Board.hands_moved_free finishing free rfl rfl) rfl⟩

/-- Every turn moves the line through the chip by one operation, or not at all. -/
theorem serves_turn (flow : Flow board) (turn : Turn board thread deed after) :
    (∃ line, after.Serves line) ∧ after.written = after.answers.map Prod.fst ++ after.pending := by
  cases turn with
  | still pops same =>
    exact flow.serves_congr rfl rfl rfl rfl (Board.running_moved (congrArg Duty.running same))
  | shutdown same =>
    exact flow.serves_congr rfl rfl rfl rfl (Board.running_moved (congrArg Duty.running same))
  | command core1 executing free =>
    obtain ⟨line, shows⟩ := flow.serves
    subst core1
    have running := shows.hand.trans (congrArg Duty.running executing)
    refine ⟨⟨line.put, shows.added, shows.taken, ?_, ?_, shows.store⟩, ?_⟩
    · exact congrArg₂ (· ++ ·) shows.belt running
    · exact (congrArg Duty.running free).symm
    · exact (congrArg (· ++ _) flow.written).trans (List.append_assoc _ _ _)
  | clear core0 starting stands =>
    exact flow.serves_congr rfl rfl rfl rfl (Board.running_moved_free starting stands rfl rfl)
  | notice core1 free raised noticed =>
    exact flow.serves_congr rfl rfl rfl rfl (Board.running_moved_free free noticed rfl rfl)
  | readResponse core1 noticed read replied =>
    exact flow.serves_congr rfl rfl rfl rfl (Board.running_moved_free noticed replied rfl rfl)
  | storeResponse core1 replied answered =>
    exact flow.serves_congr rfl rfl rfl rfl (Board.running_moved_free replied answered rfl rfl)
  | readCcStatus core free turning =>
    refine flow.serves_congr rfl rfl rfl rfl (Board.running_moved_free free turning rfl ?_)
    split_ifs <;> rfl
  | readSwap core free swap turning =>
    exact flow.serves_congr rfl rfl rfl rfl (Board.running_moved_free free turning rfl rfl)
  | queuePlain plain same =>
    exact flow.serves_congr rfl rfl rfl rfl (Board.running_moved (congrArg Duty.running same))
  | queueHeld core holding free =>
    exact flow.serves_congr rfl rfl rfl rfl (Board.running_moved_free holding free rfl rfl)
  | dropHeld core holding full failed =>
    exact flow.serves_congr rfl rfl rfl rfl
      (Board.running_moved_free holding failed rfl (popFailed_running _))
  | addOpcode core cleared fits added =>
    exact flow.serves_congr rfl rfl rfl rfl (Board.running_moved_free cleared added rfl rfl)
  | removeOpcode core pops queued holding =>
    have nothing : (board.duty thread).running = [] := by
      obtain stood | ⟨_, stood⟩ := pops <;> (rw [stood]; rfl)
    exact flow.serves_congr rfl rfl rfl rfl (Board.running_moved_free rfl holding nothing rfl)
  | removeNone core pops queued failed =>
    have nothing : (board.duty thread).running = [] := by
      obtain stood | ⟨_, stood⟩ := pops <;> (rw [stood]; rfl)
    exact flow.serves_congr rfl rfl rfl rfl
      (Board.running_moved_free rfl failed nothing (popFailed_running _))
  | clearFinished core begins cleared =>
    have nothing : (board.duty thread).running = [] := by
      obtain stood | ⟨due, stood⟩ | ⟨_, stood | stood⟩ := begins <;> (rw [stood]; rfl)
    exact flow.serves_congr rfl rfl rfl rfl (Board.running_moved_free rfl cleared nothing rfl)
  | setFinished core1 finishing free =>
    exact flow.serves_congr rfl rfl rfl rfl (Board.running_moved_free finishing free rfl rfl)

/-- A turn adds commands only. -/
theorem added_turn (turn : Turn board thread deed after) :
    after.added = board.added ∨
      ∃ entry, entry.func.isOpcode = true ∧ after.added = board.added ++ [entry] := by
  cases turn with
  | addOpcode core cleared fits added => exact .inr ⟨_, fits.opcode, rfl⟩
  | _ => exact .inl rfl

/-- Every turn keeps the flow when no pop finds the call queue full and no two pops overlap. -/
theorem flow_turn (flow : Flow board) (roomy : Roomy board thread deed)
    (alone : Alone board thread deed) (turn : Turn board thread deed after) : Flow after where
  opcodes := by
    intro entry member
    obtain same | ⟨last, opcode, same⟩ := added_turn turn
    · exact flow.opcodes entry (same ▸ member)
    · rw [same, List.mem_append, List.mem_singleton] at member
      obtain earlier | rfl := member
      · exact flow.opcodes entry earlier
      · exact opcode
  carries := carries_turn flow roomy alone turn
  serves := (serves_turn flow turn).1
  written := (serves_turn flow turn).2

/-- The chip answers the next command of the line. -/
theorem flow_drift (flow : Flow board) (drifted : board.Drift after) : Flow after := by
  obtain ⟨line, carries⟩ := flow.carries
  obtain ⟨chip, serves⟩ := flow.serves
  cases drifted with
  | answer response pending =>
    rename_i entry rest
    have answered : (board.answers ++ [(entry, response)]).map Prod.fst =
        board.answers.map Prod.fst ++ [entry] := List.map_append
    exact {
      opcodes := flow.opcodes
      carries := ⟨line, carries.added, carries.taken, carries.belt, carries.hand, carries.store⟩
      serves := ⟨chip.take (serves.belt.trans pending), serves.added,
        (congrArg (· ++ [entry]) serves.taken).trans answered.symm, rfl, serves.hand, serves.store⟩
      written := by
        rw [answered, flow.written, pending, List.append_assoc, List.singleton_append] }
  | message pdStatus0 =>
    exact {
      opcodes := flow.opcodes
      carries := ⟨line, carries.added, carries.taken, carries.belt, carries.hand, carries.store⟩
      serves := ⟨chip, serves.added, serves.taken, serves.belt, serves.hand, serves.store⟩
      written := flow.written }

end Flow

end TypeC

end RobotFirmware
