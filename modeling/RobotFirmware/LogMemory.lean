import RobotFirmware.Rp2040Log

/-!
# The log in memory

The buffer as the C program has it: characters and sizes at addresses, and indices in 16 bits
that nothing but the arithmetic keeps below 1028. Memory does not end where the arrays do, so
it has to be shown that no message is stored outside its own line. Memory represents the
buffer of lines, and a flush prints the last messages of any history.
-/

namespace RobotFirmware

open CircularBufferLog (History kept lineSize)

/-- Bytes stored one behind the other. -/
structure Store where
  /-- The address of the first byte. -/
  address : Nat
  /-- The bytes. -/
  bytes : List UInt8

namespace Store

/-- The memory after a store. -/
def apply (store : Store) (memory : Nat → UInt8) (at' : Nat) : UInt8 :=
  if store.address ≤ at' then (store.bytes[at' - store.address]?).getD (memory at') else memory at'

variable {store : Store} {memory : Nat → UInt8}

/-- A stored byte is read back. -/
theorem apply_inside {i : Nat} (inside : i < store.bytes.length) :
    store.apply memory (store.address + i) = store.bytes[i] := by
  have offset : store.address + i - store.address = i := Nat.add_sub_cancel_left ..
  rw [apply, if_pos (Nat.le_add_right ..), offset, List.getElem?_eq_getElem inside,
    Option.getD_some]

/-- Everything else is unchanged. -/
theorem apply_outside {at' : Nat}
    (outside : at' < store.address ∨ store.address + store.bytes.length ≤ at') :
    store.apply memory at' = memory at' := by
  unfold apply
  split
  · rw [List.getElem?_eq_none (by omega), Option.getD_none]
  · rfl

end Store

/-- `CircularBufferLog` in memory. -/
structure LogMemory where
  /-- The characters from `log_array[0][0]` on. -/
  logArray : Nat → UInt8
  /-- The sizes from `log_array_line_size[0]` on. -/
  logArrayLineSize : Nat → UInt16
  /-- The member `head`. -/
  head : UInt16
  /-- The member `tail`. -/
  tail : UInt16

namespace LogMemory

/-- `rp2040_log_init`. -/
def rp2040LogInit (memory : LogMemory) : LogMemory := { memory with head := 0, tail := 0 }

/-- The address of `log_array[line]`. -/
def row (line : UInt16) : Nat := line.toNat * logBufferCharLimit

/-- `(line + 1) % LOG_BUFFER_LINE_COUNT`, which is computed as an `int`. -/
def following (line : UInt16) : UInt16 := UInt16.ofNat ((line.toNat + 1) % logBufferLineCount)

/-- What `vsnprintf(log_array[tail], len, …)` stores: characters and a NUL. -/
def store (memory : LogMemory) (text : List UInt8) : Store where
  address := row memory.tail
  bytes := text.take (lineSize text - 1) ++ [0]

/-- `rp2040_log`. -/
def rp2040Log (memory : LogMemory) (text : List UInt8) : LogMemory where
  logArray := (memory.store text).apply memory.logArray
  logArrayLineSize :=
    Function.update memory.logArrayLineSize memory.tail.toNat (UInt16.ofNat (lineSize text))
  head := if memory.tail = memory.head then following memory.head else memory.head
  tail := following memory.tail

/-- What `printf("%.*s", size, log_array[line])` prints. -/
def printed (memory : LogMemory) (line : UInt16) : List UInt8 :=
  ((List.range (memory.logArrayLineSize line.toNat).toNat).map fun i =>
    memory.logArray (row line + i)).takeWhile (· ≠ 0)

/-- Some rounds of the loop in `rp2040_log_flush`. -/
def flushRounds : Nat → LogMemory → List UInt8 × LogMemory
  | 0, memory => ([], memory)
  | rounds + 1, memory =>
    let line := memory.printed memory.head
    let (later, memory) := flushRounds rounds { memory with head := following memory.head }
    (line ++ later, memory)

/-- `rp2040_log_flush`. -/
def rp2040LogFlush (memory : LogMemory) : List UInt8 × LogMemory :=
  flushRounds logBufferLineCount memory

/-- The memory after a history. -/
def after (memory : LogMemory) : History → LogMemory
  | .start => memory.rp2040LogInit
  | .message before text => (memory.after before).rp2040Log text
  | .flush before => (memory.after before).rp2040LogFlush.2

/-- A static buffer before `main`. -/
structure Blank (memory : LogMemory) : Prop where
  /-- The characters are zero. -/
  logArray : ∀ at' < logBufferLineCount * logBufferCharLimit, memory.logArray at' = 0
  /-- The sizes are zero. -/
  logArrayLineSize : ∀ line < logBufferLineCount, memory.logArrayLineSize line = 0

/-- Memory represents a buffer of lines. -/
structure Represents (memory : LogMemory) (log : CircularBufferLog) : Prop where
  /-- The characters agree. -/
  logArray : ∀ (line : Fin logBufferLineCount) (i : Fin logBufferCharLimit),
    memory.logArray (line * logBufferCharLimit + i) = (log.logArray.get line).get i
  /-- The sizes agree. -/
  logArrayLineSize : ∀ line : Fin logBufferLineCount,
    memory.logArrayLineSize line = log.logArrayLineSize.get line
  /-- No size exceeds a line. -/
  short : ∀ line : Fin logBufferLineCount,
    (log.logArrayLineSize.get line).toNat ≤ logBufferCharLimit
  /-- The first index agrees. -/
  head : memory.head.toNat = log.head
  /-- The second index agrees. -/
  tail : memory.tail.toNat = log.tail

variable {memory : LogMemory} {log : CircularBufferLog}

/-- The next line is the next index. -/
theorem following_toNat {line : UInt16} {index : Fin logBufferLineCount}
    (same : line.toNat = index) : (following line).toNat =
        (index + 1 : Fin logBufferLineCount) := by
  have small : (line.toNat + 1) % logBufferLineCount < 65536 :=
    Nat.lt_trans (Nat.mod_lt _ (by decide)) (by decide)
  rw [following, UInt16.toNat_ofNat_of_lt' small, same, Fin.val_add]
  rfl

/-- Equal lines are equal indices. -/
theorem line_eq_iff {first second : UInt16} {index other : Fin logBufferLineCount}
    (firstSame : first.toNat = index) (secondSame : second.toNat = other) :
    first = second ↔ index = other := by
  rw [← UInt16.toNat_inj, firstSame, secondSame, Fin.val_inj]

/-- A static buffer represents the buffer at start-up. -/
theorem Blank.represents (blank : memory.Blank) : memory.rp2040LogInit.Represents .init where
  logArray line i := by
    have inside : line * logBufferCharLimit + i < logBufferLineCount * logBufferCharLimit := by
      have lineSmall := line.isLt
      have small := i.isLt
      simp only [logBufferLineCount, logBufferCharLimit] at *
      omega
    rw [rp2040LogInit, blank.logArray _ inside]
    simp [CircularBufferLog.init, Vector.get]
  logArrayLineSize line := by
    rw [rp2040LogInit, blank.logArrayLineSize _ line.isLt]
    simp [CircularBufferLog.init, Vector.get]
  short line := by simp [CircularBufferLog.init, Vector.get]
  head := rfl
  tail := rfl

/-- A message takes up no more than a line. -/
theorem store_length (memory : LogMemory) (text : List UInt8) :
    (memory.store text).bytes.length ≤ logBufferCharLimit := by
  have short := CircularBufferLog.kept_length_le text
  simp only [store, List.length_append, List.length_take, List.length_singleton, lineSize,
    logBufferCharLimit]
  split <;> omega

/-- A slot of a vector by its number. -/
theorem slot_eq {α : Type} {size : Nat} (slots : Vector α size) (i : Fin size) :
    slots.get i = getElem slots i.val i.isLt := rfl

/-- A stored line is the line that `vsnprintf` leaves. -/
theorem store_line {line : LogLine} {text : List UInt8} (i : Fin logBufferCharLimit)
    (before : memory.logArray (row memory.tail + i) = line.get i) :
    (memory.store text).apply memory.logArray (row memory.tail + i) =
      (CircularBufferLog.vsnprintf line (lineSize text) text).get i := by
  have whole : (memory.store text).bytes.length = (text.take (lineSize text - 1)).length + 1 := by
    rw [store, List.length_append, List.length_singleton]
  have left : (CircularBufferLog.vsnprintf line (lineSize text) text).get i =
      if h : i < (text.take (lineSize text - 1)).length then (text.take (lineSize text - 1))[i]
      else if i.val = (text.take (lineSize text - 1)).length then 0
      else line.get i := by
    simp only [CircularBufferLog.vsnprintf, slot_eq, Vector.getElem_ofFn]
    rfl
  rw [left]
  by_cases inside : i < (memory.store text).bytes.length
  · have read : (memory.store text).apply memory.logArray (row memory.tail + i) =
        (memory.store text).bytes[i.val] := Store.apply_inside inside
    rw [read]
    simp only [store, List.getElem_append]
    rw [whole] at inside
    split
    · rfl
    · rw [if_pos (by omega)]
      simp
  · have address : (memory.store text).address = row memory.tail := rfl
    rw [Store.apply_outside (.inr (by omega)), before]
    rw [whole] at inside
    rw [dif_neg (by omega), if_neg (by omega)]

/-- The lines after a message. -/
theorem line_rp2040Log (log : CircularBufferLog) (text : List UInt8)
    (line : Fin logBufferLineCount) :
    (log.rp2040Log text).logArray.get line =
      if line = log.tail then CircularBufferLog.vsnprintf (log.logArray.get line)
        (lineSize text) text
      else log.logArray.get line := by
  by_cases same : line = log.tail
  · subst same
    simp [CircularBufferLog.rp2040Log, slot_eq]
  · have apart : (log.tail : Nat) ≠ line := fun equal => same (Fin.ext equal.symm)
    simp [CircularBufferLog.rp2040Log, slot_eq, Vector.getElem_set_ne, apart, same]

/-- The sizes after a message. -/
theorem size_rp2040Log (log : CircularBufferLog) (text : List UInt8)
    (line : Fin logBufferLineCount) :
    (log.rp2040Log text).logArrayLineSize.get line =
      if line = log.tail then UInt16.ofNat (lineSize text) else log.logArrayLineSize.get line := by
  by_cases same : line = log.tail
  · subst same
    simp [CircularBufferLog.rp2040Log, slot_eq]
  · have apart : (log.tail : Nat) ≠ line := fun equal => same (Fin.ext equal.symm)
    simp [CircularBufferLog.rp2040Log, slot_eq, Vector.getElem_set_ne, apart, same]

/-- Logging a message in memory represents logging it. -/
theorem Represents.rp2040Log (represents : memory.Represents log) (text : List UInt8) :
    (memory.rp2040Log text).Represents (log.rp2040Log text) where
  logArray line i := by
    have here : row memory.tail = log.tail * logBufferCharLimit := by rw [row, represents.tail]
    change (memory.store text).apply memory.logArray (line * logBufferCharLimit + i) = _
    rw [line_rp2040Log]
    split
    · rename_i same
      subst same
      rw [← here]
      exact store_line i (here ▸ represents.logArray _ i)
    · rename_i other
      have apart : (line : Nat) ≠ log.tail := fun equal => other (Fin.ext equal)
      have short := store_length memory text
      have small := i.isLt
      have address : (memory.store text).address = log.tail * logBufferCharLimit := here
      rw [Store.apply_outside (by rw [address]; simp only [logBufferCharLimit] at *; omega)]
      exact represents.logArray line i
  logArrayLineSize line := by
    change Function.update memory.logArrayLineSize memory.tail.toNat _ line = _
    rw [represents.tail, size_rp2040Log, Function.update_apply, represents.logArrayLineSize]
    simp only [Fin.val_inj]
  short line := by
    rw [size_rp2040Log]
    split
    · have size := CircularBufferLog.lineSize_toNat text
      have short := CircularBufferLog.kept_length_le text
      simp only [logBufferCharLimit]
      omega
    · exact represents.short line
  head := by
    have met := line_eq_iff represents.tail represents.head
    simp only [LogMemory.rp2040Log, CircularBufferLog.rp2040Log, met]
    split
    · exact following_toNat represents.head
    · exact represents.head
  tail := following_toNat represents.tail

/-- A line prints what it represents. -/
theorem Represents.printed (represents : memory.Represents log) {line : UInt16}
    {index : Fin logBufferLineCount} (same : line.toNat = index) :
    memory.printed line =
      CircularBufferLog.printed (log.logArray.get index) (log.logArrayLineSize.get index) := by
  have short := represents.short index
  rw [LogMemory.printed, CircularBufferLog.printed, row, same, represents.logArrayLineSize index]
  congr 1
  apply List.ext_getElem
  · simp only [List.length_map, List.length_range, List.length_take, Vector.length_toList]
    omega
  · intro i inside _
    rw [List.length_map, List.length_range] at inside
    have here := represents.logArray index ⟨i, Nat.lt_of_lt_of_le inside short⟩
    simpa [slot_eq] using here

/-- Moving the first index keeps what is represented. -/
theorem Represents.advance (represents : memory.Represents log) :
    { memory with head := following memory.head }.Represents { log with head := log.head + 1 } :=
  ⟨represents.logArray, represents.logArrayLineSize, represents.short,
    following_toNat represents.head, represents.tail⟩

/-- Rounds of the flush print what they represent and move only the first index. -/
theorem Represents.flushRounds (rounds : Nat) (represents : memory.Represents log) :
    (LogMemory.flushRounds rounds memory).1 = (log.flushRounds rounds).1 ∧
      (LogMemory.flushRounds rounds memory).2.Represents (log.flushRounds rounds).2 ∧
      ∃ head, (LogMemory.flushRounds rounds memory).2 = { memory with head := head } := by
  induction rounds generalizing memory log with
  | zero => exact ⟨rfl, represents, memory.head, rfl⟩
  | succ rounds ih =>
    obtain ⟨prints, later, head, moved⟩ := ih represents.advance
    refine ⟨?_, later, head, moved⟩
    have line := represents.printed represents.head
    simp only [LogMemory.flushRounds, CircularBufferLog.flushRounds, line, prints]
    rfl

/-- A flush prints what an aligned buffer prints, and changes nothing. -/
theorem Represents.rp2040LogFlush (represents : memory.Represents log) (aligned : log.Aligned) :
    memory.rp2040LogFlush = (log.rp2040LogFlush.1, memory) := by
  obtain ⟨prints, later, head, moved⟩ := represents.flushRounds logBufferLineCount
  have unchanged : (log.flushRounds logBufferLineCount).2 = log := by
    rw [← CircularBufferLog.rp2040LogFlush, CircularBufferLog.rp2040LogFlush_eq aligned]
  rw [moved, unchanged] at later
  have back : head = memory.head := UInt16.toNat_inj.mp (later.head.trans represents.head.symm)
  rw [LogMemory.rp2040LogFlush, CircularBufferLog.rp2040LogFlush, ← prints]
  generalize LogMemory.flushRounds logBufferLineCount memory = flushed at *
  rw [back] at moved
  exact Prod.ext rfl moved

/-- After any history the memory represents the buffer of lines. -/
theorem Blank.represents_after (blank : memory.Blank) (history : History) :
    (memory.after history).Represents history.log := by
  induction history with
  | start => exact blank.represents
  | message before text ih => exact ih.rp2040Log text
  | flush before ih =>
    have aligned := before.aligned
    have kept : before.flush.log = before.log := by
      rw [History.log, CircularBufferLog.rp2040LogFlush_eq aligned]
    rw [kept, after, ih.rp2040LogFlush aligned]
    exact ih

/-- After any history of messages and flushes, a flush prints the last 1028 messages, oldest
first, each cut to 127 bytes, and leaves everything as it was; the indices and the sizes stay
in their bounds, and the next message is stored inside its own line. -/
theorem log_bounded_fifo (blank : memory.Blank) (history : History)
    (noNul : ∀ text ∈ history.texts, 0 ∉ text) :
    let log := memory.after history
    log.rp2040LogFlush =
        (((history.texts.drop (history.texts.length - 1028)).map (List.take 127)).flatten, log) ∧
      log.head.toNat < 1028 ∧ log.tail.toNat < 1028 ∧
      (∀ line < 1028, (log.logArrayLineSize line).toNat ≤ 128) ∧
      ∀ text, (log.store text).address = log.tail.toNat * 128 ∧
        (log.store text).bytes.length ≤ 128 := by
  intro log
  have represents : log.Represents history.log := blank.represents_after history
  have prints : history.log.rp2040LogFlush.1 = (history.stored.map kept).flatten :=
    history.flush_eq noNul
  refine ⟨?_, ?_, ?_, fun line inside => ?_, fun text => ⟨rfl, store_length log text⟩⟩
  · rw [represents.rp2040LogFlush history.aligned, prints]
    rfl
  · rw [represents.head]
    exact history.log.head.isLt
  · rw [represents.tail]
    exact history.log.tail.isLt
  · rw [represents.logArrayLineSize ⟨line, inside⟩]
    exact represents.short ⟨line, inside⟩

/-- The static buffer, with nothing behind it. -/
def static : LogMemory := ⟨fun _ => 0, fun _ => 0, 0, 0⟩

/-- Two messages around a flush are printed in their order. -/
theorem log_bounded_fifo_twice :
    (static.after (.message (.flush (.message .start [104, 105])) [33])).rp2040LogFlush.1 =
      [104, 105, 33] := by
  have blank : static.Blank := ⟨fun _ _ => rfl, fun _ _ => rfl⟩
  have whole := log_bounded_fifo blank (.message (.flush (.message .start [104, 105])) [33])
    (by decide)
  exact congrArg Prod.fst whole.1

end LogMemory

end RobotFirmware
