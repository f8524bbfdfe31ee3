import RobotFirmware.TypeC.Threads

/-!
# Turns of the pipeline

Everything that a permitted deed can do to the board, one constructor for each kind. The
properties of runs are proved by cases over these, over core 1 taking an entry from the call
queue, and over the moves of the chip.
-/

namespace RobotFirmware

open Interaction Max77958

namespace TypeC

namespace Board

/-- Where a thread stands. -/
def duty (board : Board) (thread : Thread) : Duty := (board.here thread).duty

/-- What the duties of both cores weigh together. -/
def weigh (weight : Duty → Nat) (board : Board) : Nat :=
  weight board.core0.duty + weight board.core1.duty

variable {board : Board} {thread : Thread} {here : Local} {before after : Duty}

/-- A core that moves changes the weight by the difference of its duties. -/
theorem weigh_moved (weight : Duty → Nat) (core : thread ≠ .interrupt)
    (stood : board.duty thread = before) (stands : here.duty = after) :
    (board.moved thread here).weigh weight + weight before = board.weigh weight + weight after := by
  subst stood stands
  cases thread with
  | core0 => simp only [weigh, moved, duty, Board.here, reduceCtorEq, if_true, if_false]; omega
  | interrupt => exact absurd rfl core
  | core1 => simp only [weigh, moved, duty, Board.here, reduceCtorEq, if_true, if_false]; omega

/-- The duty of a core weighs in. -/
theorem le_weigh (weight : Duty → Nat) (core : thread ≠ .interrupt)
    (stood : board.duty thread = before) : weight before ≤ board.weigh weight := by
  subst stood
  cases thread with
  | core0 => exact Nat.le_add_right _ _
  | interrupt => exact absurd rfl core
  | core1 => exact Nat.le_add_left _ _

/-- The duty that a core moved to weighs in. -/
theorem le_weigh_moved (weight : Duty → Nat) (core : thread ≠ .interrupt)
    (stands : here.duty = after) : weight after ≤ (board.moved thread here).weigh weight := by
  subst stands
  cases thread with
  | core0 => exact Nat.le_add_right _ _
  | interrupt => exact absurd rfl core
  | core1 => exact Nat.le_add_left _ _

/-- A thread that moves to a duty that weighs no more does not add to the weight. -/
theorem weigh_moved_le (weight : Duty → Nat) (stood : board.duty thread = before)
    (stands : here.duty = after) (lighter : weight after ≤ weight before) :
    (board.moved thread here).weigh weight ≤ board.weigh weight := by
  by_cases core : thread = .interrupt
  · exact core ▸ Nat.le_refl _
  · have weighs := weigh_moved weight core stood stands
    omega

/-- A thread that moves between duties of the same weight leaves the weight as it was. -/
theorem weigh_moved_even (weight : Duty → Nat) (stood : board.duty thread = before)
    (stands : here.duty = after) (even : weight after = weight before) :
    (board.moved thread here).weigh weight = board.weigh weight := by
  subst stood stands
  cases thread with
  | core0 => simp only [weigh, moved, even, duty, Board.here, reduceCtorEq, if_true, if_false]
  | interrupt => rfl
  | core1 => simp only [weigh, moved, even, duty, Board.here, reduceCtorEq, if_true, if_false]

/-- A thread that stays where it was leaves the weight as it was. -/
theorem weigh_moved_same (weight : Duty → Nat) (same : here.duty = board.duty thread) :
    (board.moved thread here).weigh weight = board.weigh weight :=
  weigh_moved_even weight rfl same rfl

end Board

/-- Whether a thread with this duty executes a command or handles a response. -/
def Duty.OfCore1 : Duty → Prop
  | .holding _ answering => answering = true
  | .executing _ => True
  | .noticed => True
  | .replied _ => True
  | .answered => True
  | .finishing => True
  | _ => False

section Turns

variable [DriverHeader]

/-- What the deed of a thread does to the board. -/
inductive Turn (board : Board) (thread : Thread) : Deed → Board → Prop where
  /-- Nothing that matters here. -/
  | still {deed : Deed} {here : Local} (pops : ∀ removed, deed ≠ .removeOpcode removed)
      (same : here.duty = board.duty thread) :
      Turn board thread deed (board.moved thread here)
  /-- A shutdown is requested. -/
  | shutdown {value : Bool} {here : Local} (same : here.duty = board.duty thread) :
      Turn board thread (.requestShutdown value)
        ({ board with core1ShutdownRequested := value }.moved thread here)
  /-- Core 1 writes the command that it is executing. -/
  | command {entry : QueueEntry} {src : List UInt8} {here : Local} (core1 : thread = .core1)
      (executing : board.duty thread = .executing entry) (free : here.duty = .free) :
      Turn board thread (.command src) ({ board with
        gpio4 := gpio4? entry <|> board.gpio4
        written := board.written ++ [entry]
        pending := board.pending ++ [entry] }.moved thread here)
  /-- `max77958_init` clears the interrupts. -/
  | clear {response : Bool} {here : Local} (core0 : thread = .core0)
      (starting : board.duty thread = .starting) (stands : here.duty = .starting) :
      Turn board thread (.readInterrupts response)
        ({ board with apCmdResI := false }.moved thread here)
  /-- Core 1 notices a response. -/
  | notice {here : Local} (core1 : thread = .core1) (free : board.duty thread = .free)
      (raised : board.apCmdResI = true) (noticed : here.duty = .noticed) :
      Turn board thread (.readInterrupts true)
        ({ board with apCmdResI := false }.moved thread here)
  /-- Core 1 reads a response. -/
  | readResponse {bytes : List UInt8} {here : Local} (core1 : thread = .core1)
      (noticed : board.duty thread = .noticed) (read : bytes = board.response)
      (replied : here.duty = .replied bytes) :
      Turn board thread (.readResponse bytes)
        ({ board with unread := board.unread - 1 }.moved thread here)
  /-- Core 1 stores a response. -/
  | storeResponse {bytes : List UInt8} {here : Local} (core1 : thread = .core1)
      (replied : board.duty thread = .replied bytes) (answered : here.duty = .answered) :
      Turn board thread (.storeResponse bytes)
        ({ board with opCodeReturnBuf := bytes }.moved thread here)
  /-- The CC state is read. -/
  | readCcStatus {ccStat : UInt8} {here : Local} (core : thread ≠ .interrupt)
      (free : board.duty thread = .free)
      (turning : here.duty = if Unpowered ccStat then .turning .off else .free) :
      Turn board thread (.readCcStatus ccStat)
        ({ board with ccStat := some ccStat, swapSince := false }.moved thread here)
  /-- A swap to source is read. -/
  | readSwap {pdStatus0 : UInt8} {here : Local} (core : thread ≠ .interrupt)
      (free : board.duty thread = .free)
      (swap : pdStatus0 = DriverHeader.pdmsgPrswapSwaptosrc)
      (turning : here.duty = .turning .on) :
      Turn board thread (.readPdStatus pdStatus0) (board.moved thread here)
  /-- A function that is no command is queued. -/
  | queuePlain {entry : QueueEntry} {here : Local} (plain : entry.func.isOpcode = false)
      (same : here.duty = board.duty thread) :
      Turn board thread (.queue entry true)
        ({ board with callQueue := board.callQueue ++ [entry] }.moved thread here)
  /-- The removed command is queued. -/
  | queueHeld {entry : QueueEntry} {answering : Bool} {here : Local} (core : thread ≠ .interrupt)
      (holding : board.duty thread = .holding entry answering) (free : here.duty = .free) :
      Turn board thread (.queue entry true)
        ({ board with callQueue := board.callQueue ++ [entry] }.moved thread here)
  /-- There is no room for the removed command. -/
  | dropHeld {entry : QueueEntry} {answering : Bool} {here : Local} (core : thread ≠ .interrupt)
      (holding : board.duty thread = .holding entry answering)
      (full : ¬board.callQueue.length < callQueueCapacity)
      (failed : here.duty = popFailed answering) :
      Turn board thread (.queue entry false) (board.moved thread here)
  /-- A command is added. -/
  | addOpcode {entry : QueueEntry} {due : Due} {here : Local} (core : thread ≠ .interrupt)
      (cleared : board.duty thread = .cleared due) (fits : due.Fits entry)
      (added : here.duty = .added) :
      Turn board thread (.addOpcode entry true)
        ({ board with
          opcodeQueue := board.opcodeQueue ++ [entry]
          added := board.added ++ [entry] }.moved thread here)
  /-- A command is removed. -/
  | removeOpcode {entry : QueueEntry} {rest : List QueueEntry} {here : Local}
      (core : thread ≠ .interrupt)
      (pops : board.duty thread = .added ∨ thread = .core1 ∧ board.duty thread = .answered)
      (queued : board.opcodeQueue = entry :: rest)
      (holding : here.duty = .holding entry (board.duty thread = Duty.answered)) :
      Turn board thread (.removeOpcode (some entry))
        ({ board with opcodeQueue := rest }.moved thread here)
  /-- There is no command to remove. -/
  | removeNone {here : Local} (core : thread ≠ .interrupt)
      (pops : board.duty thread = .added ∨ thread = .core1 ∧ board.duty thread = .answered)
      (queued : board.opcodeQueue = [])
      (failed : here.duty = popFailed (board.duty thread = Duty.answered)) :
      Turn board thread (.removeOpcode none) (board.moved thread here)
  /-- The flag is cleared. -/
  | clearFinished {here : Local} (core : thread ≠ .interrupt)
      (begins : board.duty thread = .free ∨ (∃ due, board.duty thread = .turning due) ∨
        thread = .core0 ∧ (board.duty thread = .starting ∨ board.duty thread = .added))
      (cleared : here.duty = .cleared (board.duty thread).due) :
      Turn board thread (.setFinished false)
        ({ board with opcodesFinished := false }.moved thread here)
  /-- The flag is set. -/
  | setFinished {here : Local} (core1 : thread = .core1)
      (finishing : board.duty thread = .finishing) (free : here.duty = .free) :
      Turn board thread (.setFinished true)
        ({ board with opcodesFinished := true }.moved thread here)

variable {board acted : Board} {thread : Thread} {deed : Deed} {here : Local}

/-- The interrupt handler takes few kinds of turns. -/
theorem turn_of_interrupting (interrupting : Interrupting deed)
    (done : board.act (board.duty .interrupt) deed = some acted)
    (stands : here.duty = (board.duty .interrupt).after deed) :
    Turn board .interrupt deed (acted.moved .interrupt here) := by
  cases interrupting with
  | other =>
    obtain rfl := Option.some.inj done
    exact .still (fun _ => Deed.noConfusion) stands
  | shutdown value =>
    obtain rfl := Option.some.inj done
    exact .shutdown stands
  | queue added plain =>
    simp only [Board.act, Option.ite_none_right_eq_some, Option.some.injEq] at done
    obtain ⟨_, rfl⟩ := done
    cases added with
    | true => exact .queuePlain plain stands
    | false => exact .still (fun _ => Deed.noConfusion) stands

/-- A permitted deed of a core is one of the turns. -/
theorem turn_of_permits (core : thread ≠ .interrupt)
    (permits : Permits thread (board.duty thread) deed)
    (done : board.act (board.duty thread) deed = some acted)
    (stands : here.duty = (board.duty thread).after deed) :
    Turn board thread deed (acted.moved thread here) := by
  cases deed with
  | other =>
    obtain rfl := Option.some.inj done
    exact .still (fun _ => Deed.noConfusion) stands
  | select reg =>
    obtain rfl := Option.some.inj done
    exact .still (fun _ => Deed.noConfusion) stands
  | command src =>
    obtain ⟨core1, entry, executing, level⟩ := permits
    rw [executing] at done
    obtain rfl := Option.some.inj done
    rw [level]
    exact .command core1 executing stands
  | readInterrupts response =>
    simp only [Board.act, Option.ite_none_right_eq_some, Option.some.injEq] at done
    obtain ⟨shown, rfl⟩ := done
    obtain ⟨core1, free⟩ | ⟨core0, starting⟩ := permits
    · cases response with
      | true =>
        exact .notice core1 free shown.symm (stands.trans (if_pos ⟨rfl, free⟩))
      | false =>
        rw [shown]
        refine .still (fun _ => Deed.noConfusion) ?_
        simp only [stands, Duty.after, Bool.false_eq_true, false_and, if_false]
    · rw [starting] at stands
      exact .clear core0 starting (stands.trans (if_neg fun both => Duty.noConfusion both.2))
  | readResponse bytes =>
    simp only [Board.act, Option.ite_none_right_eq_some, Option.some.injEq] at done
    obtain ⟨read, rfl⟩ := done
    exact .readResponse permits.1 permits.2 read stands
  | readCcStatus ccStat =>
    obtain rfl := Option.some.inj done
    have free : board.duty thread = .free := permits
    rw [free] at stands
    exact .readCcStatus core free stands
  | readPdStatus pdStatus0 =>
    simp only [Board.act, Option.ite_none_right_eq_some, Option.some.injEq] at done
    obtain ⟨_, rfl⟩ := done
    by_cases swap : pdStatus0 = DriverHeader.pdmsgPrswapSwaptosrc
    · exact .readSwap core permits swap (stands.trans (if_pos swap))
    · exact .still (fun _ => Deed.noConfusion) (stands.trans (if_neg swap))
  | queue entry added =>
    simp only [Board.act, Option.ite_none_right_eq_some, Option.some.injEq] at done
    obtain ⟨room, rfl⟩ := done
    obtain ⟨answering, holding⟩ | ⟨plain, apart⟩ := permits
    · rw [holding] at stands
      cases added with
      | true => exact .queueHeld core holding stands
      | false => exact .dropHeld core holding (of_decide_eq_false room.symm) stands
    · have same : here.duty = board.duty thread := by
        rw [stands]
        cases stood : board.duty thread with
        | holding held answering => exact absurd stood (apart held answering)
        | _ => rfl
      cases added with
      | true => exact .queuePlain plain same
      | false => exact .still (fun _ => Deed.noConfusion) same
  | addOpcode entry added =>
    simp only [Board.act, Option.ite_none_right_eq_some, Option.some.injEq] at done
    obtain ⟨_, rfl⟩ := done
    obtain ⟨due, cleared, fits⟩ := permits
    cases added with
    | true => exact .addOpcode core cleared fits stands
    | false => exact .still (fun _ => Deed.noConfusion) stands
  | removeOpcode removed =>
    simp only [Board.act, Option.ite_none_right_eq_some, Option.some.injEq] at done
    obtain ⟨first, rfl⟩ := done
    cases queued : board.opcodeQueue with
    | nil =>
      have unchanged : { board with opcodeQueue := board.opcodeQueue.tail } = board := by
        rw [queued, List.tail_nil, ← queued]
      rw [queued] at first
      obtain rfl : removed = none := first
      rw [← queued, unchanged]
      exact .removeNone core permits queued stands
    | cons entry rest =>
      rw [queued] at first
      obtain rfl := first
      exact .removeOpcode core permits queued stands
  | setFinished value =>
    obtain rfl := Option.some.inj done
    cases value with
    | true => exact .setFinished permits.1 permits.2 stands
    | false => exact .clearFinished core permits stands
  | seeFinished value =>
    simp only [Board.act, Option.ite_none_right_eq_some, Option.some.injEq] at done
    obtain ⟨_, rfl⟩ := done
    exact .still (fun _ => Deed.noConfusion) stands
  | storeResponse bytes =>
    obtain rfl := Option.some.inj done
    exact .storeResponse permits.1 permits.2 stands
  | requestShutdown value =>
    obtain rfl := Option.some.inj done
    exact .shutdown stands
  | resetQueue => exact permits.elim

/-- Core 0 executes no command and handles no response. -/
theorem ofCore1_turn {after : Board} (turn : Turn board thread deed after)
    (apart : ¬board.core0.duty.OfCore1) : ¬after.core0.duty.OfCore1 := by
  have moves {changed : Board} {here : Local} (core0 : changed.core0 = board.core0)
      (own : thread = .core0 → ¬here.duty.OfCore1) :
      ¬(changed.moved thread here).core0.duty.OfCore1 := by
    cases thread with
    | core0 => exact own rfl
    | interrupt => exact core0 ▸ apart
    | core1 => exact core0 ▸ apart
  have stands {here : Local} {duty : Duty} (stands : here.duty = duty) (other : ¬duty.OfCore1) :
      thread = .core0 → ¬here.duty.OfCore1 := fun _ => stands ▸ other
  have aside {here : Local} (core1 : thread = .core1) : thread = .core0 → ¬here.duty.OfCore1 :=
    fun core0 => absurd (core0.symm.trans core1) nofun
  have pops_added (pops : board.duty thread = .added ∨
      thread = .core1 ∧ board.duty thread = .answered) (core0 : thread = .core0) :
      decide (board.duty thread = .answered) = false := by
    obtain added | ⟨core1, _⟩ := pops
    · rw [added]; rfl
    · exact absurd (core0.symm.trans core1) nofun
  cases turn with
  | still pops same => exact moves rfl fun core0 => by subst core0; exact same ▸ apart
  | shutdown same => exact moves rfl fun core0 => by subst core0; exact same ▸ apart
  | command core1 => exact moves rfl (aside core1)
  | clear core0 starting stays => exact moves rfl (stands stays nofun)
  | notice core1 => exact moves rfl (aside core1)
  | readResponse core1 => exact moves rfl (aside core1)
  | storeResponse core1 => exact moves rfl (aside core1)
  | readCcStatus core free turning =>
    refine moves rfl (stands turning ?_)
    split_ifs <;> nofun
  | readSwap core free swap turning => exact moves rfl (stands turning nofun)
  | queuePlain plain same => exact moves rfl fun core0 => by subst core0; exact same ▸ apart
  | queueHeld core holding free => exact moves rfl (stands free nofun)
  | dropHeld core holding full failed =>
    refine moves rfl fun core0 => ?_
    subst core0
    rename_i answering here
    cases answering with
    | false => exact failed ▸ nofun
    | true =>
      have held : board.core0.duty = .holding _ true := holding
      exact absurd rfl (held ▸ apart)
  | addOpcode core cleared fits added => exact moves rfl (stands added nofun)
  | removeOpcode core pops queued holding =>
    refine moves rfl fun core0 => ?_
    rw [holding, pops_added pops core0]
    nofun
  | removeNone core pops queued failed =>
    refine moves rfl fun core0 => ?_
    rw [failed, pops_added pops core0]
    nofun
  | clearFinished core begins cleared => exact moves rfl (stands cleared nofun)
  | setFinished core1 => exact moves rfl (aside core1)

/-- An operation that the discipline allows is a turn. -/
theorem exec_turn {after : Board} {op : Op} {answer : Ans op}
    (allows : (monitor thread).allows (view thread board) op)
    (executed : board.exec thread op answer = some after) :
    Turn board thread (TypeC.deed (board.here thread).selected op answer) after := by
  obtain ⟨acted, done, rfl⟩ := Board.exec_cases executed
  cases thread with
  | core0 => exact turn_of_permits Thread.noConfusion (allows answer) done rfl
  | interrupt => exact turn_of_interrupting (deed_interrupt allows _ answer) done rfl
  | core1 => exact turn_of_permits Thread.noConfusion (allows answer) done rfl

/-- `max77958_init` starts as the discipline says, with core 1 idle. -/
theorem started_holds (buffers : Buffers) (callQueue : List QueueEntry) (pdStatus0 : UInt8) :
    discipline.Holds (started buffers callQueue pdStatus0) := by
  intro thread
  cases thread with
  | core0 => exact Monitor.guards_bind.mpr (guards_initDevice rfl)
  | interrupt => trivial
  | core1 => exact rfl

/-- A property of the board holds throughout every run when turns under the condition, core 1
taking an entry, and moves of the chip preserve it. -/
theorem throughout (Inv : Board → Prop) {meets : Board → Thread → Deed → Prop}
    (turns : ∀ {board after : Board} {thread : Thread} {deed : Deed}, Inv board →
      meets board thread deed → Turn board thread deed after → Inv after)
    (takes : ∀ {board : Board} {entry : QueueEntry} {rest : List QueueEntry}, Inv board →
      board.core1.duty = .free → board.callQueue = entry :: rest → Inv (board.dequeue entry rest))
    (drifts : ∀ {board after : Board}, Inv board → board.Drift after → Inv after)
    {buffers : Buffers} {callQueue : List QueueEntry} {pdStatus0 : UInt8}
    {config : pipeline.Config} (initially : Inv (.start callQueue pdStatus0))
    (reached : System.Reaches (During meets) (started buffers callQueue pdStatus0) config) :
    Inv config.shared := by
  refine (discipline.invariant ?_ ?_ ?_ (started_holds _ _ _) initially reached).2
  · intro thread board op answer after inv allows met executed
    exact turns inv met (exec_turn allows executed)
  · intro thread board program after inv resting _ launched
    cases thread with
    | core0 => exact launched.1 ▸ inv
    | interrupt => exact launched.1 ▸ inv
    | core1 =>
      obtain ⟨_, entry, rest, buffers, queued, rfl, _⟩ := launched
      exact takes inv resting queued
  · exact fun inv _ drifted => drifts inv drifted

end Turns

end TypeC

end RobotFirmware
