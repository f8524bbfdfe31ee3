import RobotFirmware.TypeC.Flow

/-!
# Commands in flight

A command is in flight from its removal from the opcode queue until the handler of its response
has popped the next one or found none. The response handler passes its place on. Any other pop
opens a new one, so that one command at most is in flight as long as these pops remove a
command only when none is.
-/

namespace RobotFirmware

open Interaction Max77958

namespace TypeC

/-- At most one command more at the end. -/
theorem commands_append_le (entries : List QueueEntry) (entry : QueueEntry) :
    (commands (entries ++ [entry])).length ≤ (commands entries).length + 1 := by
  rw [commands, List.filter_append, List.length_append]
  exact Nat.add_le_add_left (List.length_filter_le _ _) _

/-- The commands in flight that a thread with this duty is in charge of. -/
def Duty.flies : Duty → Nat
  | .holding .. => 1
  | .executing _ => 1
  | .replied _ => 1
  | .answered => 1
  | _ => 0

/-- A failed pop leaves no command in flight. -/
theorem popFailed_flies (answering : Bool) : (popFailed answering).flies = 0 := by
  cases answering <;> rfl

/-- Whether a thread with this duty is about to read a response. -/
def Duty.notices : Duty → Nat
  | .noticed => 1
  | _ => 0

/-- After a failed pop no response is about to be read. -/
theorem popFailed_notices (answering : Bool) : (popFailed answering).notices = 0 := by
  cases answering <;> rfl

namespace Board

/-- The commands in flight. -/
def inFlight (board : Board) : Nat :=
  (commands board.callQueue).length + board.pending.length + board.unread +
    board.weigh Duty.flies

/-- The commands written whose response has not been read. -/
def outstanding (board : Board) : Nat := board.pending.length + board.unread

/-- A response that is noticed, or that an interrupt announces, is there to be read. -/
def Announced (board : Board) : Prop :=
  board.apCmdResI.toNat + board.weigh Duty.notices ≤ board.unread

/-- One command at most is in flight, and its response is there to be read when it is noticed. -/
structure Sequenced (board : Board) : Prop where
  /-- One command at most is in flight. -/
  single : board.inFlight ≤ 1
  /-- A response that is noticed or announced is there. -/
  announced : board.Announced

/-- What is outstanding is in flight. -/
theorem outstanding_le (board : Board) : board.outstanding ≤ board.inFlight := by
  unfold outstanding inFlight
  omega

end Board

/-- A pop outside the response handler removes a command only when none is in flight. -/
def Sequential (board : Board) (thread : Thread) : Deed → Prop
  | .removeOpcode (some _) => board.duty thread = .added → board.inFlight = 0
  | _ => True

instance (board : Board) (thread : Thread) (deed : Deed) :
    Decidable (Sequential board thread deed) :=
  match deed with
  | .removeOpcode (some _) => inferInstanceAs (Decidable (_ → _))
  | .removeOpcode none | .other | .select _ | .command _ | .readInterrupts _ | .readResponse _
  | .readCcStatus _ | .readPdStatus _ | .queue _ _ | .addOpcode _ _ | .setFinished _
  | .seeFinished _ | .storeResponse _ | .requestShutdown _ | .resetQueue => .isTrue trivial

/-- A core that noticed a response has one to read. -/
theorem Board.Announced.unread_pos {board : Board} {thread : Thread}
    (announced : board.Announced) (core : thread ≠ .interrupt)
    (noticed : board.duty thread = .noticed) : 0 < board.unread := by
  have weighs : 1 ≤ board.weigh Duty.notices := Board.le_weigh Duty.notices core noticed
  exact Nat.le_trans (Nat.le_trans weighs (Nat.le_add_left _ _)) announced

/-- A turn that a core ends with less in its charge, and that leaves the queues, keeps the number
of commands in flight or lowers it. -/
theorem inFlight_moved {board changed : Board} {thread : Thread} {here : Local}
    {before later : Duty}
    (stood : board.duty thread = before) (stands : here.duty = later)
    (lighter : later.flies ≤ before.flies) (core0 : changed.core0 = board.core0)
    (core1 : changed.core1 = board.core1)
    (callQueue : commands changed.callQueue = commands board.callQueue)
    (pending : changed.pending = board.pending) (unread : changed.unread = board.unread) :
    (changed.moved thread here).inFlight ≤ board.inFlight := by
  have same : (changed.moved thread here).weigh Duty.flies =
      (board.moved thread here).weigh Duty.flies := by
    simp only [Board.weigh, Board.moved, core0, core1]
  have weighs := Board.weigh_moved_le Duty.flies stood stands lighter
  show (commands changed.callQueue).length + changed.pending.length + changed.unread +
    (changed.moved thread here).weigh Duty.flies ≤ board.inFlight
  rw [same, callQueue, pending, unread, Board.inFlight]
  omega

/-- A turn that a core does not end about to read a response, and that leaves the responses,
keeps them announced. -/
theorem announced_moved {board changed : Board} {thread : Thread} {here : Local}
    {before later : Duty} (announced : board.Announced) (stood : board.duty thread = before)
    (stands : here.duty = later) (quiet : later.notices ≤ before.notices)
    (core0 : changed.core0 = board.core0) (core1 : changed.core1 = board.core1)
    (apCmdResI : changed.apCmdResI.toNat ≤ board.apCmdResI.toNat)
    (unread : changed.unread = board.unread) : (changed.moved thread here).Announced := by
  have same : (changed.moved thread here).weigh Duty.notices =
      (board.moved thread here).weigh Duty.notices := by
    simp only [Board.weigh, Board.moved, core0, core1]
  have weighs := Board.weigh_moved_le Duty.notices stood stands quiet
  rw [Board.Announced] at announced
  show changed.apCmdResI.toNat + (changed.moved thread here).weigh Duty.notices ≤ changed.unread
  rw [same, unread]
  omega

/-- Core 1 executes the command that it takes from the call queue. -/
theorem inFlight_dequeue {board : Board} {entry : QueueEntry} {rest : List QueueEntry}
    (free : board.core1.duty = .free) (queued : board.callQueue = entry :: rest) :
    (board.dequeue entry rest).inFlight = board.inFlight ∧
      ((board.dequeue entry rest).Announced ↔ board.Announced) := by
  unfold Board.dequeue
  split_ifs with opcode
  · simp only [Board.inFlight, Board.Announced, Board.weigh, queued, commands_cons _ opcode,
      List.length_cons, free, Duty.flies, Duty.notices, and_true]
    omega
  · simp only [Board.inFlight, Board.Announced, Board.weigh, queued,
      commands_cons_plain _ (Bool.eq_false_iff.mpr opcode), and_self]

/-- No command is in flight at the start. -/
theorem sequenced_start {callQueue : List QueueEntry} (plain : commands callQueue = [])
    (pdStatus0 : UInt8) : (Board.start callQueue pdStatus0).Sequenced := by
  refine ⟨?_, Nat.le_refl _⟩
  rw [Board.inFlight, Board.start, plain]
  exact Nat.zero_le _

section InFlight

variable [DriverHeader] {board after : Board} {thread : Thread} {deed : Deed}

/-- What a turn does to the commands in flight. -/
theorem inFlight_turn (announced : board.Announced) (turn : Turn board thread deed after) :
    after.inFlight ≤ board.inFlight ∨ (∃ entry, deed = .removeOpcode (some entry)) ∧
      board.duty thread = .added ∧ after.inFlight = board.inFlight + 1 := by
  cases turn with
  | still pops same => exact .inl (inFlight_moved rfl same (Nat.le_refl _) rfl rfl rfl rfl rfl)
  | shutdown same => exact .inl (inFlight_moved rfl same (Nat.le_refl _) rfl rfl rfl rfl rfl)
  | command core1 executing free =>
    rename_i entry src here
    have weighs := Board.weigh_moved Duty.flies (core1 ▸ nofun) executing free
    left
    show (commands board.callQueue).length + (board.pending ++ [entry]).length + board.unread +
      (board.moved thread here).weigh Duty.flies ≤ board.inFlight
    rw [List.length_append, List.length_singleton, Board.inFlight]
    simp only [Duty.flies] at weighs
    omega
  | clear core0 starting stands =>
    exact .inl (inFlight_moved starting stands (Nat.le_refl _) rfl rfl rfl rfl rfl)
  | notice core1 free raised noticed =>
    exact .inl (inFlight_moved free noticed (Nat.le_refl _) rfl rfl rfl rfl rfl)
  | readResponse core1 noticed read replied =>
    rename_i bytes here
    have there := announced.unread_pos (core1 ▸ nofun) noticed
    have weighs := Board.weigh_moved Duty.flies (core1 ▸ nofun) noticed replied
    left
    show (commands board.callQueue).length + board.pending.length + (board.unread - 1) +
      (board.moved thread here).weigh Duty.flies ≤ board.inFlight
    rw [Board.inFlight]
    simp only [Duty.flies] at weighs
    omega
  | storeResponse core1 replied answered =>
    exact .inl (inFlight_moved replied answered (Nat.le_refl _) rfl rfl rfl rfl rfl)
  | readCcStatus core free turning =>
    refine .inl (inFlight_moved free turning ?_ rfl rfl rfl rfl rfl)
    split_ifs <;> exact Nat.le_refl _
  | readSwap core free swap turning =>
    exact .inl (inFlight_moved free turning (Nat.le_refl _) rfl rfl rfl rfl rfl)
  | queuePlain plain same =>
    exact .inl (inFlight_moved rfl same (Nat.le_refl _) rfl rfl (commands_append_plain _ plain) rfl
      rfl)
  | queueHeld core holding free =>
    rename_i entry answering here
    have weighs := Board.weigh_moved Duty.flies core holding free
    have queued := commands_append_le board.callQueue entry
    left
    show (commands (board.callQueue ++ [entry])).length + board.pending.length + board.unread +
      (board.moved thread here).weigh Duty.flies ≤ board.inFlight
    rw [Board.inFlight]
    simp only [Duty.flies] at weighs
    omega
  | dropHeld core holding full failed =>
    refine .inl (inFlight_moved holding failed ?_ rfl rfl rfl rfl rfl)
    exact popFailed_flies _ ▸ Nat.zero_le _
  | addOpcode core cleared fits added =>
    exact .inl (inFlight_moved cleared added (Nat.le_refl _) rfl rfl rfl rfl rfl)
  | removeOpcode core pops queued holding =>
    obtain added | ⟨_, answered⟩ := pops
    · have weighs := Board.weigh_moved Duty.flies core added holding
      exact .inr ⟨⟨_, rfl⟩, added, congrArg (_ + ·) weighs⟩
    · exact .inl (inFlight_moved answered holding (Nat.le_refl _) rfl rfl rfl rfl rfl)
  | removeNone core pops queued failed =>
    refine .inl (inFlight_moved rfl failed ?_ rfl rfl rfl rfl rfl)
    exact popFailed_flies _ ▸ Nat.zero_le _
  | clearFinished core begins cleared =>
    exact .inl (inFlight_moved rfl cleared (Nat.zero_le _) rfl rfl rfl rfl rfl)
  | setFinished core1 finishing free =>
    exact .inl (inFlight_moved finishing free (Nat.le_refl _) rfl rfl rfl rfl rfl)

/-- A response that is noticed or announced stays there to be read. -/
theorem announced_turn (announced : board.Announced) (turn : Turn board thread deed after) :
    after.Announced := by
  cases turn with
  | still pops same =>
    exact announced_moved announced rfl same (Nat.le_refl _) rfl rfl (Nat.le_refl _) rfl
  | shutdown same =>
    exact announced_moved announced rfl same (Nat.le_refl _) rfl rfl (Nat.le_refl _) rfl
  | command core1 executing free =>
    exact announced_moved announced executing free (Nat.le_refl _) rfl rfl (Nat.le_refl _) rfl
  | clear core0 starting stands =>
    exact announced_moved announced starting stands (Nat.le_refl _) rfl rfl (Nat.zero_le _) rfl
  | notice core1 free raised noticed =>
    rename_i here
    have weighs := Board.weigh_moved Duty.notices (core1 ▸ nofun) free noticed
    rw [Board.Announced, raised, Bool.toNat_true] at announced
    show 0 + (board.moved thread here).weigh Duty.notices ≤ board.unread
    simp only [Duty.notices] at weighs
    omega
  | readResponse core1 noticed read replied =>
    rename_i bytes here
    have weighs := Board.weigh_moved Duty.notices (core1 ▸ nofun) noticed replied
    rw [Board.Announced] at announced
    show board.apCmdResI.toNat + (board.moved thread here).weigh Duty.notices ≤ board.unread - 1
    simp only [Duty.notices] at weighs
    omega
  | storeResponse core1 replied answered =>
    exact announced_moved announced replied answered (Nat.le_refl _) rfl rfl (Nat.le_refl _) rfl
  | readCcStatus core free turning =>
    refine announced_moved announced free turning ?_ rfl rfl (Nat.le_refl _) rfl
    split_ifs <;> exact Nat.le_refl _
  | readSwap core free swap turning =>
    exact announced_moved announced free turning (Nat.le_refl _) rfl rfl (Nat.le_refl _) rfl
  | queuePlain plain same =>
    exact announced_moved announced rfl same (Nat.le_refl _) rfl rfl (Nat.le_refl _) rfl
  | queueHeld core holding free =>
    exact announced_moved announced holding free (Nat.le_refl _) rfl rfl (Nat.le_refl _) rfl
  | dropHeld core holding full failed =>
    refine announced_moved announced holding failed ?_ rfl rfl (Nat.le_refl _) rfl
    exact popFailed_notices _ ▸ Nat.zero_le _
  | addOpcode core cleared fits added =>
    exact announced_moved announced cleared added (Nat.le_refl _) rfl rfl (Nat.le_refl _) rfl
  | removeOpcode core pops queued holding =>
    exact announced_moved announced rfl holding (Nat.zero_le _) rfl rfl (Nat.le_refl _) rfl
  | removeNone core pops queued failed =>
    refine announced_moved announced rfl failed ?_ rfl rfl (Nat.le_refl _) rfl
    exact popFailed_notices _ ▸ Nat.zero_le _
  | clearFinished core begins cleared =>
    exact announced_moved announced rfl cleared (Nat.zero_le _) rfl rfl (Nat.le_refl _) rfl
  | setFinished core1 finishing free =>
    exact announced_moved announced finishing free (Nat.le_refl _) rfl rfl (Nat.le_refl _) rfl

/-- A turn keeps one command at most in flight, when only the response handler pops a command
while another is. -/
theorem sequenced_turn (sequenced : board.Sequenced) (sequential : Sequential board thread deed)
    (turn : Turn board thread deed after) : after.Sequenced := by
  refine ⟨?_, announced_turn sequenced.announced turn⟩
  obtain fewer | ⟨⟨entry, rfl⟩, added, more⟩ := inFlight_turn sequenced.announced turn
  · exact Nat.le_trans fewer sequenced.single
  · exact Nat.le_of_eq (more.trans (congrArg (· + 1) (sequential added)))

/-- An answered command stays in flight until its response is read. -/
theorem sequenced_drift (sequenced : board.Sequenced) (drifted : board.Drift after) :
    after.Sequenced := by
  obtain ⟨single, announced⟩ := sequenced
  cases drifted with
  | answer response pending =>
    rw [Board.inFlight, pending, List.length_cons] at single
    rw [Board.Announced] at announced
    constructor
    · simp only [Board.inFlight, Board.weigh] at single ⊢
      omega
    · simp only [Board.Announced, Board.weigh, Bool.toNat_true] at announced ⊢
      omega
  | message pdStatus0 => exact ⟨single, announced⟩

/-- In every run in which only the response handler pops a command while another is in flight,
one command at most is outstanding. -/
theorem one_outstanding {buffers : Buffers} {callQueue : List QueueEntry} {pdStatus0 : UInt8}
    {config : sharing.Config} (plain : commands callQueue = [])
    (reached : System.Reaches (Undisturbedly Sequential)
        (sharingStarted buffers callQueue pdStatus0) config) :
    Board.outstanding config.shared.board ≤ 1 := by
  have sequenced : Board.Sequenced config.shared.board := by
    refine throughout_undisturbed Board.Sequenced ?_ ?_ ?_ (sequenced_start plain pdStatus0) reached
    · exact fun sequenced sequential turn => sequenced_turn sequenced sequential turn
    · intro board entry rest sequenced free queued
      obtain ⟨same, announced⟩ := inFlight_dequeue free queued
      exact ⟨same ▸ sequenced.single, announced.mpr sequenced.announced⟩
    · exact fun sequenced drifted => sequenced_drift sequenced drifted
  exact Nat.le_trans (Board.outstanding_le _) sequenced.single

end InFlight

/-- Of the three commands of `max77958_init`, the first was answered and the second is
outstanding. -/
theorem one_outstanding_second :
    let _ := sampleHeader
    ∃ board, boardAfter Sequential (core0 .calm ++ core1 .calm ++ answering (reply 1) ++
        core1 .calm) (sharingStarted .zero [] 0) = some board ∧
      board.written.length = 2 ∧ board.outstanding ≤ 1 := by
  intro header
  obtain ⟨board, played, seen⟩ := Option.map_eq_some_iff.mp (show (boardAfter Sequential
      (core0 .calm ++ core1 .calm ++ answering (reply 1) ++ core1 .calm)
      (sharingStarted .zero [] 0)).map (fun board => board.written.length) =
          some 2 by decide +kernel)
  obtain ⟨config, rfl, reached⟩ := boardAfter_reaches played
  exact ⟨config.shared.board, played, seen, one_outstanding rfl reached⟩

/-- When nothing is connected at the end of `max77958_init`, its first command and the one that
turns VBUS off are both written before the first response. -/
theorem two_outstanding :
    ¬ ∀ [DriverHeader] (buffers : Buffers) (callQueue : List QueueEntry) (pdStatus0 : UInt8)
        (config : sharing.Config), commands callQueue = [] →
      System.Reaches (fun _ _ => True) (sharingStarted buffers callQueue pdStatus0) config →
        Board.outstanding config.shared.board ≤ 1 := by
  intro sequential
  let _ := sampleHeader
  obtain ⟨board, played, seen⟩ := Option.map_eq_some_iff.mp (show (boardAfter (fun _ _ _ => True)
      (core0 ⟨0, 0, 0, 0⟩ ++ core1 .calm ++ core1 .calm) (sharingStarted .zero [] 0)).map
        (fun board => board.outstanding) = some 2 by decide +kernel)
  obtain ⟨config, rfl, reached⟩ := boardAfter_reaches played
  have single := sequential .zero [] 0 config rfl (reached.mono fun _ _ _ => trivial)
  rw [seen] at single
  exact absurd single (by decide)

end TypeC

end RobotFirmware
