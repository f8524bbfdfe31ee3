import RobotFirmware.TypeC.Flow

/-!
# VBUS

VBUS follows GPIO4, which follows the `gpio_set` commands in the order of their addition.
`on_ccstat_change` adds a command to turn VBUS off at once when nothing is connected or the
port is a sink, while a swap to source is only noticed, and its message read later. As long as
no swap is read that a later CC state has overtaken, the last command added never sets GPIO4
high while VBUS is not warranted.
-/

namespace RobotFirmware

open Interaction Max77958 Conveyor

namespace TypeC

/-- The level of GPIO4 after some commands. -/
def level (entries : List QueueEntry) : Option Bool :=
  entries.foldl (fun before entry => gpio4? entry <|> before) none

/-- The level after one more command. -/
theorem level_concat (entries : List QueueEntry) (entry : QueueEntry) :
    level (entries ++ [entry]) = (gpio4? entry <|> level entries) := by
  rw [level, List.foldl_append]
  rfl

/-- A command that does not set GPIO4 high does not raise the level. -/
theorem level_concat_ne {entries : List QueueEntry} {entry : QueueEntry}
    (below : level entries ≠ some true) (low : gpio4? entry ≠ some true) :
    level (entries ++ [entry]) ≠ some true := by
  cases sets : gpio4? entry with
  | none => rwa [level_concat, sets]
  | some high =>
    rw [level_concat, sets]
    exact fun same => low (sets.trans same)

/-- A command that sets GPIO4 low lowers the level. -/
theorem level_concat_low {entries : List QueueEntry} {entry : QueueEntry}
    (low : gpio4? entry = some false) : level (entries ++ [entry]) ≠ some true := by
  rw [level_concat, low]
  exact nofun

/-- A high level stays high when no further command sets GPIO4 low. -/
theorem level_append_high {entries later : List QueueEntry} (high : level entries = some true)
    (none : ∀ entry ∈ later, gpio4? entry ≠ some false) : level (entries ++ later) = some true := by
  induction later generalizing entries with
  | nil => rwa [List.append_nil]
  | cons entry later ih =>
    rw [← List.singleton_append, ← List.append_assoc]
    refine ih ?_ fun other member => none other (List.mem_cons_of_mem _ member)
    have first := none entry List.mem_cons_self
    rw [level_concat]
    cases sets : gpio4? entry with
    | none => exact high
    | some level =>
      cases level with
      | true => rfl
      | false => exact absurd sets first

/-- Whether a thread with this duty will add a command that turns VBUS off. -/
def Duty.turnsOff : Duty → Nat
  | .turning .off => 1
  | .cleared .off => 1
  | _ => 0

/-- Whether a thread with this duty will add a command that turns VBUS on. -/
def Duty.turnsOn : Duty → Nat
  | .turning .on => 1
  | .cleared .on => 1
  | _ => 0

/-- A failed pop leaves VBUS alone. -/
theorem popFailed_turns (answering : Bool) :
    (popFailed answering).turnsOff = 0 ∧ (popFailed answering).turnsOn = 0 := by
  cases answering <;> exact ⟨rfl, rfl⟩

namespace Board

/-- Something may need VBUS: a swap to source arrived after the last CC state, or that state is
neither no connection nor sink. -/
def Warranted (board : Board) : Prop :=
  board.swapSince = true ∨ ∀ ccStat ∈ board.ccStat, ¬Unpowered ccStat

instance (board : Board) : Decidable board.Warranted := inferInstanceAs (Decidable (_ ∨ _))

/-- A command that turns VBUS off is about to be added, is being moved, or is being executed. -/
def TurningOff (board : Board) : Prop :=
  0 < board.weigh Duty.turnsOff ∨
    ∃ entry ∈ board.core1.duty.running ++ board.hands, gpio4? entry = some false

/-- With both queues empty VBUS is not driven unless something may need it, or else it is being
turned off. -/
def VbusSafe (board : Board) : Prop :=
  board.callQueue = [] → board.opcodeQueue = [] →
    board.Warranted ∨ board.gpio4 ≠ some true ∨ board.TurningOff

instance (board : Board) : Decidable board.TurningOff := inferInstanceAs (Decidable (_ ∨ _))

instance (board : Board) : Decidable board.VbusSafe := inferInstanceAs (Decidable (_ → _))

/-- What the supply of VBUS depends on. -/
def supply (board : Board) : Local × Local × Option UInt8 × Bool × List QueueEntry ×
    List QueueEntry × Option Bool :=
  (board.core0, board.core1, board.ccStat, board.swapSince, board.added, board.written, board.gpio4)

/-- What the commands added so far do to VBUS. -/
structure Switched (board : Board) : Prop where
  /-- The last command to set GPIO4 high is warranted, or will be followed by another one. -/
  off : board.Warranted ∨ 0 < board.weigh Duty.turnsOff ∨ level board.added ≠ some true
  /-- VBUS is turned on only when it is warranted. -/
  on : 0 < board.weigh Duty.turnsOn → board.Warranted
  /-- GPIO4 follows the commands that were written. -/
  gpio4 : board.gpio4 = level board.written

end Board

/-- A turn that turns VBUS neither on nor off. -/
theorem switched_moved {board changed : Board} {thread : Thread} {here : Local}
    {before later : Duty} (switched : board.Switched) (stood : board.duty thread = before)
    (stands : here.duty = later) (off : later.turnsOff = before.turnsOff)
    (on : later.turnsOn = before.turnsOn) (alike : changed.supply = board.supply) :
    (changed.moved thread here).Switched := by
  simp only [Board.supply, Prod.mk.injEq] at alike
  obtain ⟨core0, core1, ccStat, swapSince, added, written, gpio4⟩ := alike
  have same (weight : Duty → Nat) (even : weight later = weight before) :
      (changed.moved thread here).weigh weight = board.weigh weight := by
    rw [← Board.weigh_moved_even weight stood stands even]
    simp only [Board.weigh, Board.moved, core0, core1]
  have warranted : (changed.moved thread here).Warranted ↔ board.Warranted := by
    simp only [Board.Warranted, Board.moved, ccStat, swapSince]
  refine ⟨?_, ?_, ?_⟩
  · rw [warranted, same _ off]
    exact added ▸ switched.off
  · rw [warranted, same _ on]
    exact switched.on
  · exact gpio4.trans (switched.gpio4.trans (congrArg level written.symm))

section Vbus

variable [DriverHeader] {board after : Board} {thread : Thread} {deed : Deed}

/-- No swap is read that a later CC state has overtaken, and no such state is read while the
other core turns VBUS on. -/
def Fresh (board : Board) (_ : Thread) : Deed → Prop
  | .readPdStatus pdStatus0 =>
    pdStatus0 = DriverHeader.pdmsgPrswapSwaptosrc → board.Warranted
  | .readCcStatus ccStat => Unpowered ccStat → board.weigh Duty.turnsOn = 0
  | _ => True

instance (board : Board) (thread : Thread) (deed : Deed) : Decidable (Fresh board thread deed) := by
  unfold Fresh
  split <;> infer_instance

/-- Every turn keeps VBUS off while it is not warranted. -/
theorem switched_turn (switched : board.Switched) (fresh : Fresh board thread deed)
    (turn : Turn board thread deed after) : after.Switched := by
  cases turn with
  | still pops same => exact switched_moved switched rfl same rfl rfl rfl
  | shutdown same => exact switched_moved switched rfl same rfl rfl rfl
  | command core1 executing free =>
    rename_i entry src here
    obtain ⟨off, on, _⟩ := switched_moved switched executing free rfl rfl rfl
    have follows : (gpio4? entry <|> board.gpio4) = (gpio4? entry <|> level board.written) :=
      congrArg (gpio4? entry <|> ·) switched.gpio4
    exact ⟨off, on, follows.trans (level_concat _ _).symm⟩
  | clear core0 starting stands => exact switched_moved switched starting stands rfl rfl rfl
  | notice core1 free raised noticed => exact switched_moved switched free noticed rfl rfl rfl
  | readResponse core1 noticed read replied =>
    exact switched_moved switched noticed replied rfl rfl rfl
  | storeResponse core1 replied answered =>
    exact switched_moved switched replied answered rfl rfl rfl
  | readCcStatus core free turning =>
    rename_i ccStat here
    by_cases unpowered : Unpowered ccStat
    · have off : here.duty = .turning .off := turning.trans (if_pos unpowered)
      have on : (board.moved thread here).weigh Duty.turnsOn = board.weigh Duty.turnsOn :=
        Board.weigh_moved_even Duty.turnsOn free off rfl
      refine ⟨.inr (.inl (Board.le_weigh_moved Duty.turnsOff core off)), fun some =>
        ?_, switched.gpio4⟩
      exact absurd (on.trans (fresh unpowered)) (Nat.ne_of_gt some)
    · have warranted : ∀ read ∈ some ccStat, ¬Unpowered read := fun read same =>
        Option.some.inj same ▸ unpowered
      exact ⟨.inl (.inr warranted), fun _ => .inr warranted, switched.gpio4⟩
  | readSwap core free swap turning =>
    exact ⟨.inl (fresh swap), fun _ => fresh swap, switched.gpio4⟩
  | queuePlain plain same => exact switched_moved switched rfl same rfl rfl rfl
  | queueHeld core holding free => exact switched_moved switched holding free rfl rfl rfl
  | dropHeld core holding full failed =>
    exact switched_moved switched holding failed (popFailed_turns _).1 (popFailed_turns _).2 rfl
  | addOpcode core cleared fits added =>
    rename_i entry due here
    have on : (board.moved thread here).weigh Duty.turnsOn ≤ board.weigh Duty.turnsOn :=
      Board.weigh_moved_le Duty.turnsOn cleared added (Nat.zero_le _)
    refine ⟨?_, fun some => switched.on (Nat.lt_of_lt_of_le some on), switched.gpio4⟩
    cases due with
    | off => exact .inr (.inr (level_concat_low (fits.low rfl)))
    | on =>
      have some : 1 ≤ board.weigh Duty.turnsOn := Board.le_weigh Duty.turnsOn core cleared
      exact .inl (switched.on some)
    | other =>
      have off : (board.moved thread here).weigh Duty.turnsOff = board.weigh Duty.turnsOff :=
        Board.weigh_moved_even Duty.turnsOff cleared added rfl
      have low : gpio4? entry ≠ some true := fun high => nomatch fits.high high
      exact switched.off.imp_right (Or.imp (fun some => Nat.lt_of_lt_of_eq some off.symm)
        fun below => level_concat_ne below low)
  | removeOpcode core pops queued holding =>
    obtain stood | ⟨_, stood⟩ := pops
    · exact switched_moved switched stood holding rfl rfl rfl
    · exact switched_moved switched stood holding rfl rfl rfl
  | removeNone core pops queued failed =>
    obtain stood | ⟨_, stood⟩ := pops
    · exact switched_moved switched stood failed (popFailed_turns _).1 (popFailed_turns _).2 rfl
    · exact switched_moved switched stood failed (popFailed_turns _).1 (popFailed_turns _).2 rfl
  | clearFinished core begins cleared =>
    have same : (Duty.cleared (board.duty thread).due).turnsOff = (board.duty thread).turnsOff ∧
        (Duty.cleared (board.duty thread).due).turnsOn = (board.duty thread).turnsOn := by
      obtain stood | ⟨due, stood⟩ | ⟨_, stood | stood⟩ := begins
      · rw [stood]; exact ⟨rfl, rfl⟩
      · rw [stood]; cases due <;> exact ⟨rfl, rfl⟩
      · rw [stood]; exact ⟨rfl, rfl⟩
      · rw [stood]; exact ⟨rfl, rfl⟩
    exact switched_moved switched rfl cleared same.1 same.2 rfl
  | setFinished core1 finishing free => exact switched_moved switched finishing free rfl rfl rfl

/-- The chip moves VBUS nowhere, and a swap to source warrants it. -/
theorem switched_drift (switched : board.Switched) (drifted : board.Drift after) :
    after.Switched := by
  obtain ⟨off, on, gpio4⟩ := switched
  cases drifted with
  | answer response pending => exact ⟨off, on, gpio4⟩
  | message pdStatus0 =>
    have kept (warranted : board.Warranted) : Board.Warranted { board with
        pdStatus0 := pdStatus0
        swapSince := board.swapSince || pdStatus0 = DriverHeader.pdmsgPrswapSwaptosrc } :=
      warranted.imp_left fun since => by rw [since, Bool.true_or]
    exact ⟨off.imp_left kept, fun some => kept (on some), gpio4⟩

end Vbus

/-- Core 1 takes entries without switching VBUS. -/
theorem switched_dequeue {board : Board} {entry : QueueEntry} {rest : List QueueEntry}
    (switched : board.Switched) (free : board.core1.duty = .free) :
    (board.dequeue entry rest).Switched := by
  obtain ⟨off, on, gpio4⟩ := switched
  unfold Board.dequeue
  split_ifs
  · rw [Board.weigh, free] at off on
    exact ⟨off, on, gpio4⟩
  · exact ⟨off, on, gpio4⟩

/-- VBUS is not driven at the start. -/
theorem switched_start (callQueue : List QueueEntry) (pdStatus0 : UInt8) :
    (Board.start callQueue pdStatus0).Switched :=
  ⟨.inl (.inr nofun), nofun, rfl⟩

/-- With both queues empty, what was added and not yet written is in the hands of the cores. -/
theorem added_eq_written {board : Board} (flow : Flow board) (callQueue : board.callQueue = [])
    (opcodeQueue : board.opcodeQueue = []) :
    board.added = board.written ++ (board.core1.duty.running ++ board.hands) := by
  obtain ⟨line, carries⟩ := flow.carries
  obtain ⟨chip, serves⟩ := flow.serves
  have belt : line.belt = [] := by rw [carries.belt, callQueue, commands_nil]
  have idle := serves.store
  calc board.added = line.added := carries.added.symm
    _ = line.taken ++ line.hand := line.added_eq_taken belt (carries.store.trans opcodeQueue)
    _ = chip.added ++ board.hands := by rw [carries.taken, carries.hand, serves.added]
    _ = board.written ++ (board.core1.duty.running ++ board.hands) := by
      rw [chip.inOrder, serves.taken, serves.belt, serves.hand, serves.store, List.append_nil,
        flow.written, List.append_assoc]

/-- VBUS is not driven with the queues empty, unless it is warranted or being turned off. -/
theorem vbusSafe_of_switched {board : Board} (flow : Flow board) (switched : board.Switched) :
    board.VbusSafe := by
  intro callQueue opcodeQueue
  refine switched.off.imp_right fun off => ?_
  obtain turns | below := off
  · exact .inr (.inl turns)
  · rw [added_eq_written flow callQueue opcodeQueue] at below
    by_cases low : ∃ entry ∈ board.core1.duty.running ++ board.hands, gpio4? entry = some false
    · exact .inr (.inr low)
    · refine .inl fun high => below (level_append_high (switched.gpio4.symm.trans high) ?_)
      exact fun entry member sets => low ⟨entry, member, sets⟩

section Runs

variable [DriverHeader]

/-- The conditions under which VBUS is safe. -/
def Coherent (board : Board) (thread : Thread) (deed : Deed) : Prop :=
  Roomy board thread deed ∧ Alone board thread deed ∧ Fresh board thread deed

instance (board : Board) (thread : Thread) (deed : Deed) : Decidable (Coherent board thread deed) :=
  inferInstanceAs (Decidable (_ ∧ _))

end Runs

/-- A swap to source is read and turns VBUS on; then nothing is connected, which turns it off. -/
def plugged [DriverHeader] : List (System.Player.Cue player) :=
  initialised ++ messaged 0x17 ++ interrupted gpioInterrupt ++ core1 ⟨0, 0, pdMsgIMask, 2⟩ ++
    core1 .calm ++ core1 .calm ++ answering (reply 4) ++ interrupted gpioInterrupt ++
    core1 ⟨0, ccStatMask, 0, 0⟩ ++ core1 .calm

end TypeC

end RobotFirmware
