import RobotFirmware.TypeC.InFlight

/-!
# The flag of the waiters

The opcode tests and `max77958_shutdown` wait for `opcodes_finished` and rely on three things:
that nothing is left to do, that nothing is in flight, and that `op_code_return_buf` holds the
response to what was added last. The response handler sets the flag in two steps: it finds the
opcode queue empty, and it assigns. The flag means what its waiters rely on as long as one
command at most is in flight, no pop finds the call queue full, and no `opcode_queue_add` of
the other core comes between these steps.
-/

namespace RobotFirmware

open Interaction Max77958 Conveyor

namespace TypeC

/-- Whether a thread with this duty has cleared the flag and will add a command. -/
def Duty.clears : Duty → Nat
  | .cleared _ => 1
  | _ => 0

/-- Whether a thread with this duty will set the flag. -/
def Duty.finishes : Duty → Nat
  | .finishing => 1
  | _ => 0

/-- Whether a thread with this duty has stored a response. -/
def Duty.Stored : Duty → Prop
  | .answered => True
  | .holding _ answering => answering = true
  | .finishing => True
  | _ => False

/-- With a stored response core 1 is in charge of a command, or will set the flag. -/
theorem stored_weighs {duty : Duty} (stored : duty.Stored) :
    duty.flies = 1 ∨ duty.finishes = 1 := by
  cases duty <;> first | exact .inl rfl | exact .inr rfl | exact stored.elim

/-- A failed pop keeps a response only in the response handler. -/
theorem popFailed_stored {answering : Bool} (stored : (popFailed answering).Stored) :
    answering = true := by
  cases answering with
  | false => exact stored.elim
  | true => rfl

/-- A failed pop does not read a response. -/
theorem popFailed_ne_replied (answering : Bool) (bytes : List UInt8) :
    popFailed answering ≠ .replied bytes := by
  cases answering <;> nofun

namespace Board

/-- Whether the flag is set or about to be. -/
def done (board : Board) : Nat := board.opcodesFinished.toNat + board.weigh Duty.finishes

/-- Nothing waits, nothing is in flight, and nothing is about to be added. -/
structure Quiet (board : Board) : Prop where
  /-- Nothing waits. -/
  empty : board.opcodeQueue = []
  /-- Nothing is in flight. -/
  landed : board.inFlight = 0
  /-- Nothing is about to be added. -/
  still : board.weigh Duty.clears = 0

/-- Boards that agree on the flag and on everything that it depends on. -/
structure Alike (changed board : Board) : Prop where
  /-- Core 0 stands where it stood. -/
  core0 : changed.core0 = board.core0
  /-- Core 1 stands where it stood. -/
  core1 : changed.core1 = board.core1
  /-- The call queue holds the same commands. -/
  callQueue : commands changed.callQueue = commands board.callQueue
  /-- The opcode queue is the same. -/
  opcodeQueue : changed.opcodeQueue = board.opcodeQueue
  /-- The flag is the same. -/
  finished : changed.opcodesFinished = board.opcodesFinished
  /-- The same commands were not answered. -/
  pending : changed.pending = board.pending
  /-- The same number of answers was not read. -/
  unread : changed.unread = board.unread

/-- The last answer of the chip. -/
def lastResponse (board : Board) : Option (List UInt8) := board.answers.getLast?.map Prod.snd

/-- The last answer is on its way to `op_code_return_buf`, or there. -/
structure Responded (board : Board) : Prop where
  /-- An answer that was not read is in the registers of the chip. -/
  unread : 0 < board.unread → board.lastResponse = some board.response
  /-- An answer that was read is the last one. -/
  replied : ∀ bytes, board.core1.duty = .replied bytes → board.lastResponse = some bytes
  /-- An answer that was stored is the last one. -/
  stored : board.core1.duty.Stored ∨ board.opcodesFinished = true →
    board.lastResponse = some board.opCodeReturnBuf

/-- What the waiters rely on. -/
structure Finished (board : Board) : Prop where
  /-- The opcode queue is empty. -/
  opcodeQueue : board.opcodeQueue = []
  /-- No command is in the call queue. -/
  callQueue : commands board.callQueue = []
  /-- No command awaits its response. -/
  outstanding : board.outstanding = 0
  /-- The buffer holds the response to the command that was added last. -/
  response : ∃ entry, board.added.getLast? = some entry ∧
    board.answers.getLast? = some (entry, board.opCodeReturnBuf)

end Board

/-- No `opcode_queue_add` comes between the failed pop of a response handler and its
assignment to the flag. -/
def Exclusive (board : Board) (thread : Thread) : Deed → Prop
  | .removeOpcode none => board.duty thread = .answered → board.weigh Duty.clears = 0
  | .setFinished false => board.weigh Duty.finishes = 0
  | _ => True

instance (board : Board) (thread : Thread) (deed : Deed) :
    Decidable (Exclusive board thread deed) := by
  unfold Exclusive
  split <;> infer_instance

/-- What a duty adds to the commands in flight, the additions and the assignments to come. -/
def Duty.Lighter (later before : Duty) : Prop :=
  later.flies ≤ before.flies ∧ later.clears ≤ before.clears ∧ later.finishes ≤ before.finishes

/-- Duties that weigh the same. -/
theorem Duty.Lighter.same {later before : Duty} (flies : later.flies = before.flies)
    (clears : later.clears = before.clears) (finishes : later.finishes = before.finishes) :
    later.Lighter before :=
  ⟨Nat.le_of_eq flies, Nat.le_of_eq clears, Nat.le_of_eq finishes⟩

/-- A turn after which nothing more waits, is in flight, or is about to be added. -/
theorem quiet_moved {board changed : Board} {thread : Thread} {here : Local} {before later : Duty}
    (quiet : 0 < board.done → board.Quiet) (stood : board.duty thread = before)
    (stands : here.duty = later) (lighter : later.Lighter before) (alike : changed.Alike board) :
    0 < (changed.moved thread here).done → (changed.moved thread here).Quiet := by
  intro done
  have same (weight : Duty → Nat) : (changed.moved thread here).weigh weight =
      (board.moved thread here).weigh weight := by
    simp only [Board.weigh, Board.moved, alike.core0, alike.core1]
  have finishes := Board.weigh_moved_le Duty.finishes stood stands lighter.2.2
  have clears := Board.weigh_moved_le Duty.clears stood stands lighter.2.1
  have before : 0 < board.done := by
    have flag : (changed.moved thread here).opcodesFinished =
        board.opcodesFinished := alike.finished
    rw [Board.done, same, flag] at done
    rw [Board.done]
    omega
  obtain ⟨empty, landed, still⟩ := quiet before
  refine ⟨alike.opcodeQueue.trans empty, Nat.eq_zero_of_le_zero ?_, ?_⟩
  · exact landed ▸ inFlight_moved stood stands lighter.1 alike.core0 alike.core1 alike.callQueue
      alike.pending alike.unread
  · rw [same]
    omega

/-- A turn of a core that was in charge of a command, or was about to add one. -/
theorem busy_moved {board changed : Board} {thread : Thread} {here : Local} {before later : Duty}
    (quiet : 0 < board.done → board.Quiet) (busy : ¬board.Quiet)
    (stood : board.duty thread = before) (stands : here.duty = later)
    (finishes : later.finishes ≤ before.finishes) (core0 : changed.core0 = board.core0)
    (core1 : changed.core1 = board.core1)
    (finished : changed.opcodesFinished = board.opcodesFinished) :
    0 < (changed.moved thread here).done → (changed.moved thread here).Quiet := by
  intro done
  have same : (changed.moved thread here).weigh Duty.finishes =
      (board.moved thread here).weigh Duty.finishes := by
    simp only [Board.weigh, Board.moved, core0, core1]
  have weighs := Board.weigh_moved_le Duty.finishes stood stands finishes
  have flag : (changed.moved thread here).opcodesFinished = board.opcodesFinished := finished
  refine absurd (quiet ?_) busy
  rw [Board.done, same, flag] at done
  rw [Board.done]
  omega

/-- A core in charge of a command is not quiet. -/
theorem not_quiet_of_flies {board : Board} {thread : Thread} {before : Duty}
    (core : thread ≠ .interrupt) (stood : board.duty thread = before) (flies : before.flies = 1) :
    ¬board.Quiet := by
  intro quiet
  have weighs := Board.le_weigh Duty.flies core stood
  have landed := quiet.landed
  rw [Board.inFlight] at landed
  omega

/-- A turn that neither reads nor stores a response. -/
theorem responded_moved {board changed : Board} {thread : Thread} {here : Local} {later : Duty}
    (responded : board.Responded) (stands : here.duty = later)
    (replied : ∀ bytes, later = .replied bytes → board.duty thread = .replied bytes)
    (stored : later.Stored → (board.duty thread).Stored) (core1 : changed.core1 = board.core1)
    (answers : changed.answers = board.answers) (response : changed.response = board.response)
    (unread : changed.unread = board.unread)
    (buf : changed.opCodeReturnBuf = board.opCodeReturnBuf)
    (flag : changed.opcodesFinished = true → board.opcodesFinished = true) :
    (changed.moved thread here).Responded := by
  subst stands
  have last : (changed.moved thread here).lastResponse = board.lastResponse :=
    congrArg (fun answers => (List.getLast? answers).map Prod.snd) answers
  have before (bytes : List UInt8) (now : (changed.moved thread here).core1.duty = .replied bytes) :
      board.core1.duty = .replied bytes := by
    cases thread with
    | core0 => exact core1 ▸ now
    | interrupt => exact core1 ▸ now
    | core1 => exact replied bytes now
  have kept (now : (changed.moved thread here).core1.duty.Stored) : board.core1.duty.Stored := by
    cases thread with
    | core0 => exact core1 ▸ now
    | interrupt => exact core1 ▸ now
    | core1 => exact stored now
  refine ⟨fun more => ?_, fun bytes now => ?_, fun now => ?_⟩
  · rw [last]
    exact (responded.unread (unread ▸ more)).trans (congrArg some response.symm)
  · rw [last]
    exact responded.replied bytes (before bytes now)
  · rw [last]
    exact (responded.stored (now.imp kept flag)).trans (congrArg some buf.symm)

/-- A thread in charge of no command in flight holds none. -/
theorem held_of_flies {duty : Duty} (landed : duty.flies = 0) : duty.held = [] := by
  cases duty <;> first | rfl | cases landed

/-- A thread in charge of no command in flight executes none. -/
theorem running_of_flies {duty : Duty} (landed : duty.flies = 0) : duty.running = [] := by
  cases duty <;> first | rfl | cases landed

/-- When neither core holds a command, none is being moved. -/
theorem hands_of_flies {board : Board} (core0 : board.core0.duty.held = [])
    (core1 : board.core1.duty.held = []) : board.hands = [] := by
  rw [Board.hands, core0, core1, List.append_nil]

section Finished

variable [DriverHeader] {board after : Board} {thread : Thread} {deed : Deed}

/-- Whenever the flag is set or about to be, everything is quiet. -/
theorem quiet_turn (flow : Flow board) (sequenced : board.Sequenced)
    (quiet : 0 < board.done → board.Quiet)
    (roomy : Roomy board thread deed) (exclusive : Exclusive board thread deed)
    (turn : Turn board thread deed after) : 0 < after.done → after.Quiet := by
  have apart {other : Thread} (same : thread = other) (core : other ≠ .interrupt) :
      thread ≠ .interrupt := same ▸ core
  cases turn with
  | still pops same =>
    exact quiet_moved quiet rfl same (.same rfl rfl rfl) ⟨rfl, rfl, rfl, rfl, rfl, rfl, rfl⟩
  | shutdown same =>
    exact quiet_moved quiet rfl same (.same rfl rfl rfl) ⟨rfl, rfl, rfl, rfl, rfl, rfl, rfl⟩
  | command core1 executing free =>
    have busy := not_quiet_of_flies (apart core1 nofun) executing rfl
    exact busy_moved quiet busy executing free (Nat.le_refl _) rfl rfl rfl
  | clear core0 starting stands =>
    exact quiet_moved quiet starting stands (.same rfl rfl rfl) ⟨rfl, rfl, rfl, rfl, rfl, rfl, rfl⟩
  | notice core1 free raised noticed =>
    exact quiet_moved quiet free noticed (.same rfl rfl rfl) ⟨rfl, rfl, rfl, rfl, rfl, rfl, rfl⟩
  | readResponse core1 noticed read replied =>
    have there := sequenced.announced.unread_pos (apart core1 nofun) noticed
    have busy : ¬board.Quiet := fun quiet => by
      have landed := quiet.landed
      rw [Board.inFlight] at landed
      omega
    exact busy_moved quiet busy noticed replied (Nat.le_refl _) rfl rfl rfl
  | storeResponse core1 replied answered =>
    have busy := not_quiet_of_flies (apart core1 nofun) replied rfl
    exact busy_moved quiet busy replied answered (Nat.le_refl _) rfl rfl rfl
  | readCcStatus core free turning =>
    refine quiet_moved quiet free turning ?_ ⟨rfl, rfl, rfl, rfl, rfl, rfl, rfl⟩
    split_ifs <;> exact .same rfl rfl rfl
  | readSwap core free swap turning =>
    exact quiet_moved quiet free turning (.same rfl rfl rfl) ⟨rfl, rfl, rfl, rfl, rfl, rfl, rfl⟩
  | queuePlain plain same =>
    exact quiet_moved quiet rfl same (.same rfl rfl rfl)
      ⟨rfl, rfl, commands_append_plain _ plain, rfl, rfl, rfl, rfl⟩
  | queueHeld core holding free =>
    have busy := not_quiet_of_flies core holding rfl
    exact busy_moved quiet busy holding free (Nat.le_refl _) rfl rfl rfl
  | dropHeld core holding full failed =>
    exact absurd (roomy (flow.holding_opcode core holding)) full
  | addOpcode core cleared fits added =>
    have busy : ¬board.Quiet := fun quiet => by
      have weighs : 1 ≤ board.weigh Duty.clears := Board.le_weigh Duty.clears core cleared
      have still := quiet.still
      omega
    exact busy_moved quiet busy cleared added (Nat.le_refl _) rfl rfl rfl
  | removeOpcode core pops queued holding =>
    have busy : ¬board.Quiet := fun quiet => by
      rw [quiet.empty] at queued
      cases queued
    exact busy_moved quiet busy rfl holding (Nat.zero_le _) rfl rfl rfl
  | removeNone core pops queued failed =>
    rename_i here
    obtain added | ⟨core1, answered⟩ := pops
    · have free : here.duty = .free := by rw [failed, added]; rfl
      exact quiet_moved quiet added free (.same rfl rfl rfl) ⟨rfl, rfl, rfl, rfl, rfl, rfl, rfl⟩
    · intro _
      have finishing : here.duty = .finishing := by rw [failed, answered]; rfl
      have flies := Board.weigh_moved Duty.flies core answered finishing
      have clears := Board.weigh_moved_even Duty.clears answered finishing rfl
      have single := sequenced.single
      refine ⟨queued, ?_, clears.trans (exclusive answered)⟩
      show (commands board.callQueue).length + board.pending.length + board.unread +
        (board.moved thread here).weigh Duty.flies = 0
      rw [Board.inFlight] at single
      simp only [Duty.flies] at flies
      omega
  | clearFinished core begins cleared =>
    rename_i here
    intro done
    have none : board.weigh Duty.finishes = 0 := exclusive
    have finishes : (board.moved thread here).weigh Duty.finishes ≤ board.weigh Duty.finishes :=
      Board.weigh_moved_le Duty.finishes rfl cleared (Nat.zero_le _)
    have more : 0 < 0 + (board.moved thread here).weigh Duty.finishes := done
    omega
  | setFinished core1 finishing free =>
    intro _
    have core := apart core1 nofun
    have set : 0 < board.done := Nat.lt_of_lt_of_le Nat.one_pos (Nat.le_trans
      (Board.le_weigh Duty.finishes core finishing) (Nat.le_add_left _ _))
    obtain ⟨empty, landed, still⟩ := quiet set
    refine ⟨empty, ?_, (Board.weigh_moved_even Duty.clears finishing free rfl).trans still⟩
    exact (congrArg (_ + ·) (Board.weigh_moved_even Duty.flies finishing free rfl)).trans landed

/-- The last answer stays on its way. -/
theorem responded_turn (sequenced : board.Sequenced) (responded : board.Responded)
    (turn : Turn board thread deed after) : after.Responded := by
  cases turn with
  | still pops same =>
    exact responded_moved responded same (fun _ => id) id rfl rfl rfl rfl rfl id
  | shutdown same =>
    exact responded_moved responded same (fun _ => id) id rfl rfl rfl rfl rfl id
  | command core1 executing free =>
    exact responded_moved responded free nofun nofun rfl rfl rfl rfl rfl id
  | clear core0 starting stands =>
    exact responded_moved responded stands nofun nofun rfl rfl rfl rfl rfl id
  | notice core1 free raised noticed =>
    exact responded_moved responded noticed nofun nofun rfl rfl rfl rfl rfl id
  | readResponse core1 noticed read replied =>
    have there := sequenced.announced.unread_pos (core1 ▸ nofun) noticed
    subst core1 read
    refine ⟨fun more => responded.unread (Nat.lt_of_lt_of_le more (Nat.sub_le _ _)), ?_, ?_⟩
    · rintro bytes now
      obtain rfl := Duty.replied.inj (replied.symm.trans now)
      exact responded.unread there
    · rintro (now | flag)
      · exact absurd now (replied ▸ nofun)
      · exact responded.stored (.inr flag)
  | storeResponse core1 replied answered =>
    subst core1
    refine ⟨responded.unread, fun bytes now => (nomatch answered.symm.trans now), fun _ => ?_⟩
    exact responded.replied _ replied
  | readCcStatus core free turning =>
    refine responded_moved responded turning ?_ ?_ rfl rfl rfl rfl rfl id <;> (split_ifs <;> nofun)
  | readSwap core free swap turning =>
    exact responded_moved responded turning nofun nofun rfl rfl rfl rfl rfl id
  | queuePlain plain same =>
    exact responded_moved responded same (fun _ => id) id rfl rfl rfl rfl rfl id
  | queueHeld core holding free =>
    exact responded_moved responded free nofun nofun rfl rfl rfl rfl rfl id
  | dropHeld core holding full failed =>
    refine responded_moved responded failed (fun _ now => absurd now (popFailed_ne_replied _ _))
      (fun now => ?_) rfl rfl rfl rfl rfl id
    rw [holding]
    exact popFailed_stored now
  | addOpcode core cleared fits added =>
    exact responded_moved responded added nofun nofun rfl rfl rfl rfl rfl id
  | removeOpcode core pops queued holding =>
    refine responded_moved responded holding nofun (fun now => ?_) rfl rfl rfl rfl rfl id
    have answered : board.duty thread = .answered := of_decide_eq_true now
    exact answered ▸ trivial
  | removeNone core pops queued failed =>
    refine responded_moved responded failed (fun _ now => absurd now (popFailed_ne_replied _ _))
      (fun now => ?_) rfl rfl rfl rfl rfl id
    have answered : board.duty thread = .answered := of_decide_eq_true (popFailed_stored now)
    exact answered ▸ trivial
  | clearFinished core begins cleared =>
    exact responded_moved responded cleared nofun nofun rfl rfl rfl rfl rfl nofun
  | setFinished core1 finishing free =>
    subst core1
    refine ⟨responded.unread, fun bytes now => (nomatch free.symm.trans now), fun _ => ?_⟩
    have stood : board.core1.duty = .finishing := finishing
    exact responded.stored (.inl (stood ▸ trivial))

/-- A pop removes a command only while no other is being moved. -/
theorem alone_of_sequential (sequenced : board.Sequenced)
    (sequential : Sequential board thread deed) (turn : Turn board thread deed after) :
    Alone board thread deed := by
  cases turn with
  | still pops =>
    cases deed with
    | removeOpcode removed => exact absurd rfl (pops removed)
    | _ => trivial
  | removeOpcode core pops queued holding =>
    have single := sequenced.single
    rw [Board.inFlight, Board.weigh] at single
    obtain added | ⟨rfl, answered⟩ := pops
    · have landed := sequential added
      rw [Board.inFlight, Board.weigh] at landed
      exact hands_of_flies (held_of_flies (by omega)) (held_of_flies (by omega))
    · have stood : board.core1.duty = .answered := answered
      rw [stood, show Duty.answered.flies = 1 from rfl] at single
      exact hands_of_flies (held_of_flies (by omega)) (stood ▸ rfl)
  | _ => trivial

end Finished

/-- The flag and what its waiters rely on. -/
structure Waited (board : Board) : Prop where
  /-- The flow of commands. -/
  flow : Flow board
  /-- One command at most is in flight. -/
  sequenced : board.Sequenced
  /-- Whenever the flag is set or about to be, everything is quiet. -/
  quiet : 0 < board.done → board.Quiet
  /-- The last answer is on its way. -/
  responded : board.Responded

/-- With nothing in flight everything that was added was answered. -/
theorem added_of_quiet {board : Board} (flow : Flow board) (quiet : board.Quiet) :
    board.added = board.answers.map Prod.fst := by
  obtain ⟨line, carries⟩ := flow.carries
  obtain ⟨chip, serves⟩ := flow.serves
  have landed := quiet.landed
  rw [Board.inFlight, Board.weigh] at landed
  have belt : line.belt = [] :=
    carries.belt.trans (List.eq_nil_of_length_eq_zero (by omega))
  have hand : line.hand = [] :=
    carries.hand.trans (hands_of_flies (held_of_flies (by omega)) (held_of_flies (by omega)))
  have pending : chip.belt = [] :=
    serves.belt.trans (List.eq_nil_of_length_eq_zero (by omega))
  have idle : chip.hand = [] := serves.hand.trans (running_of_flies (by omega))
  calc board.added = line.added := carries.added.symm
    _ = line.taken ++ line.hand := line.added_eq_taken belt (carries.store.trans quiet.empty)
    _ = board.executed := by rw [hand, carries.taken, List.append_nil]
    _ = chip.added := serves.added.symm
    _ = chip.taken ++ chip.hand := chip.added_eq_taken pending serves.store
    _ = board.answers.map Prod.fst := by rw [idle, serves.taken, List.append_nil]

/-- With all this, a flag that is set means what its waiters rely on. -/
theorem finished_of_waited {board : Board} (waited : Waited board)
    (flag : board.opcodesFinished = true) : board.Finished := by
  have quiet := waited.quiet (by rw [Board.done, flag, Bool.toNat_true]; omega)
  have added := added_of_quiet waited.flow quiet
  have landed := quiet.landed
  rw [Board.inFlight] at landed
  obtain ⟨⟨entry, response⟩, last, rfl⟩ :=
    Option.map_eq_some_iff.mp (waited.responded.stored (.inr flag))
  refine ⟨quiet.empty, List.eq_nil_of_length_eq_zero (by omega), ?_, entry, ?_, last⟩
  · rw [Board.outstanding]
    omega
  · rw [added, List.getLast?_map, last, Option.map_some]

/-- The flag is not set, and no response was stored, while a command waits for core 1. -/
theorem waited_dequeue {board : Board} {entry : QueueEntry} {rest : List QueueEntry}
    (waited : Waited board) (free : board.core1.duty = .free)
    (queued : board.callQueue = entry :: rest) : Waited (board.dequeue entry rest) := by
  obtain ⟨flow, ⟨single, announced⟩, quiet, responded⟩ := waited
  obtain ⟨flies, shown⟩ := inFlight_dequeue free queued
  have weighs (weight : Duty → Nat) (even : weight (.executing entry) = weight .free) :
      (board.dequeue entry rest).weigh weight = board.weigh weight := by
    unfold Board.dequeue
    split_ifs
    · simp only [Board.weigh, even, free]
    · rfl
  have flag : (board.dequeue entry rest).opcodesFinished = board.opcodesFinished ∧
      (board.dequeue entry rest).opcodeQueue = board.opcodeQueue := by
    unfold Board.dequeue
    split_ifs <;> exact ⟨rfl, rfl⟩
  refine ⟨flow_dequeue flow free queued, ⟨flies ▸ single, shown.mpr announced⟩, fun done => ?_, ?_⟩
  · rw [Board.done, flag.1, weighs _ rfl] at done
    obtain ⟨empty, landed, still⟩ := quiet done
    exact ⟨flag.2.trans empty, flies.trans landed, (weighs _ rfl).trans still⟩
  · obtain ⟨unread, replied, stored⟩ := responded
    unfold Board.dequeue
    split_ifs
    · exact ⟨unread, fun _ => Duty.noConfusion, fun now => stored (.inr (now.resolve_left id))⟩
    · exact ⟨unread, replied, stored⟩

/-- An answer comes only while the flag is not set. -/
theorem waited_drift [DriverHeader] {board after : Board} (waited : Waited board)
    (drifted : board.Drift after) : Waited after := by
  obtain ⟨flow, sequenced, quiet, responded⟩ := waited
  cases drifted with
  | answer response pending =>
    have single := sequenced.single
    rw [Board.inFlight, pending, List.length_cons] at single
    have light : board.weigh Duty.flies = 0 := by omega
    have core1 : Thread.core1 ≠ .interrupt := Thread.noConfusion
    have unfinished : ¬0 < board.done := fun done => by
      have landed := (quiet done).landed
      rw [Board.inFlight, pending, List.length_cons] at landed
      omega
    refine ⟨flow_drift flow (.answer response pending), sequenced_drift sequenced
      (.answer response pending), fun done => absurd done unfinished, ?_, ?_, ?_⟩
    · intro _
      exact (congrArg (Option.map Prod.snd) List.getLast?_concat).trans rfl
    · intro bytes (now : board.core1.duty = _)
      have flies : 1 ≤ board.weigh Duty.flies := Board.le_weigh Duty.flies core1 now
      omega
    · rintro ((stored : board.core1.duty.Stored) | flag)
      · have flies : board.core1.duty.flies ≤ _ := Board.le_weigh Duty.flies core1 rfl
        have finishes : board.core1.duty.finishes ≤ _ := Board.le_weigh Duty.finishes core1 rfl
        have either := stored_weighs stored
        rw [Board.done] at unfinished
        omega
      · exact absurd (by rw [Board.done, flag, Bool.toNat_true]; omega) unfinished
  | message pdStatus0 =>
    obtain ⟨unread, replied, stored⟩ := responded
    exact ⟨flow_drift flow (.message pdStatus0), sequenced_drift sequenced (.message pdStatus0),
      fun done => ⟨(quiet done).empty, (quiet done).landed, (quiet done).still⟩, unread, replied,
      stored⟩

/-- The flag is not set at the start. -/
theorem waited_start {callQueue : List QueueEntry} (plain : commands callQueue = [])
    (pdStatus0 : UInt8) : Waited (.start callQueue pdStatus0) where
  flow := flow_start plain pdStatus0
  sequenced := sequenced_start plain pdStatus0
  quiet := nofun
  responded := ⟨nofun, nofun, nofun⟩

/-- The conditions under which the flag means what its waiters rely on. -/
def Orderly (board : Board) (thread : Thread) (deed : Deed) : Prop :=
  Roomy board thread deed ∧ Sequential board thread deed ∧ Exclusive board thread deed

instance (board : Board) (thread : Thread) (deed : Deed) : Decidable (Orderly board thread deed) :=
  inferInstanceAs (Decidable (_ ∧ _))

/-- In every orderly run a flag that is set means that nothing waits, that nothing is in flight,
and that the response to the last command is in the buffer. -/
theorem flag_finished [DriverHeader] {buffers : Buffers} {callQueue : List QueueEntry}
    {pdStatus0 : UInt8} {config : sharing.Config} (plain : commands callQueue = [])
    (reached : System.Reaches (Undisturbedly Orderly) (sharingStarted buffers callQueue pdStatus0)
        config)
    (flag : Board.opcodesFinished config.shared.board = true) :
        Board.Finished config.shared.board := by
  have waited : Waited config.shared.board := by
    refine throughout_undisturbed Waited ?_ ?_ ?_ (waited_start plain pdStatus0) reached
    · rintro board after thread deed ⟨flow, sequenced, quiet, responded⟩
        ⟨roomy, sequential, exclusive⟩ turn
      exact ⟨flow_turn flow roomy (alone_of_sequential sequenced sequential turn) turn,
        sequenced_turn sequenced sequential turn, quiet_turn flow sequenced quiet roomy exclusive
          turn,
        responded_turn sequenced responded turn⟩
    · exact fun waited free queued => waited_dequeue waited free queued
    · exact fun waited drifted => waited_drift waited drifted
  exact finished_of_waited waited flag

/-- The flag is set after the third command of `max77958_init`, with its response. -/
theorem flag_finished_initialised :
    let _ := sampleHeader
    ∃ board, boardAfter Orderly initialised (sharingStarted .zero [] 0) = some board ∧
      board.opcodesFinished = true ∧ board.opCodeReturnBuf = reply 3 ∧ board.Finished := by
  intro header
  obtain ⟨board, played, seen⟩ := Option.map_eq_some_iff.mp (show (boardAfter Orderly initialised
      (sharingStarted .zero [] 0)).map (fun board => (board.opcodesFinished, board.opCodeReturnBuf))
          =
        some (true, reply 3) by decide +kernel)
  obtain ⟨flag, buf⟩ := Prod.mk.inj seen
  obtain ⟨config, rfl, reached⟩ := boardAfter_reaches played
  exact ⟨config.shared.board, played, flag, buf, flag_finished rfl reached flag⟩

/-- With a command to turn VBUS off that was added while another one was in flight, the flag is
set although one of the four commands is outstanding. -/
theorem flag_early :
    ¬ ∀ [DriverHeader] (buffers : Buffers) (callQueue : List QueueEntry) (pdStatus0 : UInt8)
        (config : sharing.Config), commands callQueue = [] →
      System.Reaches (fun _ _ => True) (sharingStarted buffers callQueue pdStatus0) config →
        Board.opcodesFinished config.shared.board = true → Board.Finished config.shared.board := by
  intro finishes
  let _ := sampleHeader
  obtain ⟨board, played, seen⟩ := Option.map_eq_some_iff.mp (show (boardAfter (fun _ _ _ => True)
      (core0 ⟨0, 0, 0, 0⟩ ++ core1 .calm ++ core1 .calm ++ answering (reply 1) ++ core1 .calm ++
        answering (reply 2) ++ core1 .calm ++ answering (reply 3)) (sharingStarted .zero [] 0)).map
        (fun board => (board.opcodesFinished, board.outstanding)) = some (true, 1) by
    decide +kernel)
  obtain ⟨flag, one⟩ := Prod.mk.inj seen
  obtain ⟨config, rfl, reached⟩ := boardAfter_reaches played
  have none := (finishes .zero [] 0 config rfl (reached.mono fun _ _ _ => trivial) flag).outstanding
  rw [one] at none
  cases none

end TypeC

end RobotFirmware
