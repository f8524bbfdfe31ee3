import RobotFirmware.Structure.RingBuffer

/-!
# The circular log buffer

Messages are stored line by line in a ring of 1028 lines of 128 characters. A stored line is
cut to 127 characters and ended by a NUL; its size counts the NUL. A slot that no message has
been stored in has size 0.

The functions are those of the build without `LOGGER_UART`, which stores messages. A message
is the text that its format and arguments produce. The indices run from 0 to 1027, so they
are `Fin` with the addition that wraps as `% LOG_BUFFER_LINE_COUNT` does.
-/

namespace RobotFirmware

/-- `LOG_BUFFER_LINE_COUNT`. -/
abbrev logBufferLineCount : Nat := 1028
/-- `LOG_BUFFER_CHAR_LIMIT`. -/
abbrev logBufferCharLimit : Nat := 128

/-- A line of `log_array`. -/
abbrev LogLine : Type := Vector UInt8 logBufferCharLimit

/-- `CircularBufferLog`. Its member `lock` is never used. -/
structure CircularBufferLog where
  /-- The characters of each line. -/
  logArray : Vector LogLine logBufferLineCount
  /-- The size of each line. -/
  logArrayLineSize : Vector UInt16 logBufferLineCount
  /-- Where the next flush starts. -/
  head : Fin logBufferLineCount
  /-- Where the next message goes. -/
  tail : Fin logBufferLineCount

namespace CircularBufferLog

/-- The static `log_buffer` after `rp2040_log_init`. -/
def init : CircularBufferLog where
  logArray := .replicate _ (.replicate _ 0)
  logArrayLineSize := .replicate _ 0
  head := 0
  tail := 0

/-- `vsnprintf(buf, size, …)`: at most `size - 1` characters of the text and a NUL. -/
def vsnprintf (buf : LogLine) (size : Nat) (text : List UInt8) : LogLine :=
  .ofFn fun i =>
    if h : i < (text.take (size - 1)).length then (text.take (size - 1))[i]
    else if i.val = (text.take (size - 1)).length then 0
    else buf[i]

/-- The size that `rp2040_log` stores for a text. -/
def lineSize (text : List UInt8) : Nat :=
  let len := text.length + 1
  if len > logBufferCharLimit then logBufferCharLimit else len

/-- `rp2040_log`. -/
def rp2040Log (log : CircularBufferLog) (text : List UInt8) : CircularBufferLog :=
  let len := lineSize text
  { logArray := log.logArray.set log.tail (vsnprintf log.logArray[log.tail] len text)
    logArrayLineSize := log.logArrayLineSize.set log.tail (UInt16.ofNat len)
    head := if log.tail = log.head then log.head + 1 else log.head
    tail := log.tail + 1 }

/-- `rp2040_get_byte_count`. -/
def rp2040GetByteCount (log : CircularBufferLog) : UInt16 :=
  log.logArrayLineSize.foldl (fun byteCount size => byteCount + (size - 1)) 0

/-- What `printf("%.*s", size, line)` prints. -/
def printed (line : LogLine) (size : UInt16) : List UInt8 :=
  (line.toList.take size.toNat).takeWhile (· ≠ 0)

/-- Some rounds of the loop in `rp2040_log_flush`. -/
def flushRounds : Nat → CircularBufferLog → List UInt8 × CircularBufferLog
  | 0, log => ([], log)
  | rounds + 1, log =>
    let line := printed log.logArray[log.head] log.logArrayLineSize[log.head]
    let (later, log) := flushRounds rounds { log with head := log.head + 1 }
    (line ++ later, log)

/-- `rp2040_log_flush`. -/
def rp2040LogFlush (log : CircularBufferLog) : List UInt8 × CircularBufferLog :=
  flushRounds logBufferLineCount log

/-! ## The log as a ring of texts -/

/-- What can be told of a slot: the text it prints, and its size. -/
def entry (log : CircularBufferLog) (i : Fin logBufferLineCount) : List UInt8 × UInt16 :=
  (printed log.logArray[i] log.logArrayLineSize[i], log.logArrayLineSize[i])

/-- The slots and the place of the next message. -/
def ring (log : CircularBufferLog) : RingBuffer.Ring (List UInt8 × UInt16) logBufferLineCount :=
  ⟨log.entry, log.tail⟩

/-- What is kept of a message. -/
def kept (text : List UInt8) : List UInt8 := text.take (logBufferCharLimit - 1)

/-- The entry of a message. -/
def entryOf (text : List UInt8) : List UInt8 × UInt16 := (kept text, UInt16.ofNat (lineSize text))

/-- The entry of a slot that was never used. -/
def unused : List UInt8 × UInt16 := ([], 0)

/-- Nothing kept is longer than a line. -/
theorem kept_length_le (text : List UInt8) : (kept text).length ≤ 127 :=
  List.length_take_le _ _

/-- A size counts what is kept and the NUL. -/
theorem lineSize_eq (text : List UInt8) : lineSize text = (kept text).length + 1 := by
  simp only [lineSize, kept, List.length_take, logBufferCharLimit]
  split <;> omega

/-- A stored size is what it is computed to be. -/
theorem lineSize_toNat (text : List UInt8) :
    (UInt16.ofNat (lineSize text)).toNat = (kept text).length + 1 := by
  have short := kept_length_le text
  rw [lineSize_eq, UInt16.toNat_ofNat_of_lt']
  simp only [UInt16.size]
  omega

/-- The characters that `vsnprintf` stores. -/
theorem vsnprintf_take (line : LogLine) (text : List UInt8) :
    (vsnprintf line (lineSize text) text).toList.take (lineSize text) = kept text ++ [0] := by
  have short := kept_length_le text
  have part : text.take (lineSize text - 1) = kept text := by
    rw [lineSize_eq, Nat.add_sub_cancel, kept, List.length_take, ← List.take_eq_take_min]
  apply List.ext_getElem
  · simp only [List.length_take, Vector.length_toList, List.length_append, List.length_singleton,
      lineSize_eq, logBufferCharLimit]
    omega
  · intro i inside _
    rw [List.length_take, lineSize_eq] at inside
    simp only [List.getElem_take, Vector.getElem_toList, vsnprintf, Vector.getElem_ofFn, part]
    rw [List.getElem_append]
    split
    · rfl
    · rw [if_pos (by omega)]
      simp

/-- A line written by `vsnprintf` prints what is kept of the text. -/
theorem printed_vsnprintf (line : LogLine) {text : List UInt8} (noNul : 0 ∉ text) :
    printed (vsnprintf line (lineSize text) text) (UInt16.ofNat (lineSize text)) = kept text := by
  have nonzero : ∀ c ∈ kept text, decide (c ≠ 0) = true := fun c member => by
    have : c ≠ 0 := fun zero => noNul (zero ▸ List.mem_of_mem_take member)
    simpa using this
  rw [printed, lineSize_toNat, ← lineSize_eq, vsnprintf_take,
    List.takeWhile_append_of_pos nonzero]
  simp

/-- `rp2040_log` pushes the entry of its text. -/
theorem ring_rp2040Log (log : CircularBufferLog) {text : List UInt8} (noNul : 0 ∉ text) :
    (log.rp2040Log text).ring = log.ring.push (entryOf text) := by
  simp only [ring, RingBuffer.Ring.push, RingBuffer.Ring.mk.injEq]
  refine ⟨?_, rfl⟩
  funext i
  by_cases here : i = log.tail
  · subst here
    simp [entry, rp2040Log, entryOf, printed_vsnprintf _ noNul]
  · have apart : (log.tail : Nat) ≠ i := fun same => here (Fin.ext same.symm)
    simp [entry, rp2040Log, Function.update_of_ne here, Vector.getElem_set_ne, apart]

/-- The cursor of the next message is where the next flush starts. -/
def Aligned (log : CircularBufferLog) : Prop := log.head = log.tail

/-- The start-up state is aligned. -/
theorem init_aligned : init.Aligned := rfl

/-- `rp2040_log` keeps the indices aligned. -/
theorem Aligned.rp2040Log {log : CircularBufferLog} (aligned : log.Aligned) (text : List UInt8) :
    (log.rp2040Log text).Aligned := by
  unfold Aligned at aligned ⊢
  simp only [CircularBufferLog.rp2040Log, aligned, if_pos]

/-- Rounds of the flush print the entries from the head on and move only the head. -/
theorem flushRounds_eq (rounds : Nat) (log : CircularBufferLog) :
    flushRounds rounds log =
      ((List.range rounds).flatMap fun i => (log.entry ((· + 1)^[i] log.head)).1,
        { log with head := (· + 1)^[rounds] log.head }) := by
  induction rounds generalizing log with
  | zero => rfl
  | succ rounds ih =>
    rw [flushRounds, ih, List.range_succ_eq_map, List.flatMap_cons, List.flatMap_map]
    rfl

/-- A flush prints the window of an aligned log, oldest text first, and changes nothing. -/
theorem rp2040LogFlush_eq {log : CircularBufferLog} (aligned : log.Aligned) :
    log.rp2040LogFlush = ((log.ring.window.map Prod.fst).flatten, log) := by
  obtain ⟨logArray, logArrayLineSize, head, tail⟩ := log
  obtain rfl : head = tail := aligned
  rw [rp2040LogFlush, flushRounds_eq, RingBuffer.advance_round, RingBuffer.Ring.window,
    RingBuffer.once_eq_map, List.map_map, ← List.flatMap_def]
  rfl

/-- The count adds up, in 16 bits, one less than each size in the window. -/
theorem rp2040GetByteCount_toNat (log : CircularBufferLog) :
    log.rp2040GetByteCount.toNat =
      (log.ring.window.map fun entry => (entry.2 - 1).toNat).sum % 65536 := by
  have count (sizes : List UInt16) (start : UInt16) :
      (sizes.foldl (fun byteCount size => byteCount + (size - 1)) start).toNat =
        (start.toNat + (sizes.map fun size => (size - 1).toNat).sum) % 65536 := by
    induction sizes generalizing start with
    | nil => simp [Nat.mod_eq_of_lt start.toNat_lt]
    | cons size sizes ih =>
      rw [List.foldl_cons, ih, UInt16.toNat_add, List.map_cons, List.sum_cons]
      omega
  have sizes {lines : Nat} (sizes : Vector UInt16 lines) :
      sizes.toList = .ofFn fun i : Fin lines => sizes[i] := by
    apply List.ext_getElem <;> simp
  rw [RingBuffer.Ring.window, RingBuffer.once_sum, rp2040GetByteCount, ← Vector.foldl_toList, count,
    sizes, List.map_ofFn, List.sum_ofFn, UInt16.toNat_zero, Nat.zero_add]
  rfl

/-! ## Histories -/

/-- What can have happened to the log. -/
inductive History where
  /-- Nothing since `rp2040_log_init`. -/
  | start
  /-- A message was logged. -/
  | message (before : History) (text : List UInt8)
  /-- The log was sent. -/
  | flush (before : History)

namespace History

/-- The log after a history. -/
def log : History → CircularBufferLog
  | .start => init
  | .message before text => before.log.rp2040Log text
  | .flush before => before.log.rp2040LogFlush.2

/-- The messages of a history, oldest first. -/
def texts : History → List (List UInt8)
  | .start => []
  | .message before text => before.texts ++ [text]
  | .flush before => before.texts

/-- Every history leaves the indices aligned. -/
theorem aligned (history : History) : history.log.Aligned := by
  induction history with
  | start => exact init_aligned
  | message before text ih => exact ih.rp2040Log text
  | flush before ih =>
    rw [log, rp2040LogFlush_eq ih]
    exact ih

/-- Flushes have no effect on the ring: it is the pushed messages of the history. -/
theorem ring_log (history : History) (noNul : ∀ text ∈ history.texts, 0 ∉ text) :
    history.log.ring = (history.texts.map entryOf).foldl .push init.ring := by
  induction history with
  | start => rfl
  | message before text ih =>
    simp only [texts, List.mem_append, List.mem_singleton] at noNul
    rw [log, ring_rp2040Log _ (noNul text (.inr rfl)), ih fun text earlier =>
      noNul text (.inl earlier), texts, List.map_append, List.foldl_append]
    rfl
  | flush before ih =>
    rw [log, rp2040LogFlush_eq before.aligned]
    exact ih noNul

/-- The messages that are still stored. -/
def stored (history : History) : List (List UInt8) :=
  history.texts.drop (history.texts.length - logBufferLineCount)

/-- The number of slots that were never used. -/
def free (history : History) : Nat := logBufferLineCount - history.texts.length

/-- The window shows the unused slots and then the last messages. -/
theorem window_log (history : History) (noNul : ∀ text ∈ history.texts, 0 ∉ text) :
    history.log.ring.window =
      List.replicate history.free unused ++ history.stored.map entryOf := by
  have fresh : init.ring.window = List.replicate logBufferLineCount unused := by
    have entries (i : Fin logBufferLineCount) : init.entry i = unused := by
      simp only [entry, init, Fin.getElem_fin, Vector.getElem_replicate]
      rfl
    simp only [RingBuffer.Ring.window, RingBuffer.once, ring, entries, List.ofFn_const]
  rw [ring_log history noNul, RingBuffer.Ring.window_foldl, fresh, List.drop_append,
    List.drop_replicate, List.length_replicate, List.length_map, ← List.map_drop]
  rfl

/-- A flush prints what is kept of the stored messages, oldest first. -/
theorem flush_eq (history : History) (noNul : ∀ text ∈ history.texts, 0 ∉ text) :
    history.log.rp2040LogFlush.1 = (history.stored.map kept).flatten := by
  rw [rp2040LogFlush_eq history.aligned, window_log history noNul]
  simp [unused, entryOf, Function.comp_def]

/-- The length of what a flush prints. -/
theorem flush_length (history : History) (noNul : ∀ text ∈ history.texts, 0 ∉ text) :
    history.log.rp2040LogFlush.1.length =
      (history.stored.map fun text => (kept text).length).sum := by
  rw [flush_eq history noNul, List.length_flatten, List.map_map]
  rfl

/-- The count is the length of what a flush prints, less one for each unused slot, in 16 bits. -/
theorem rp2040GetByteCount_log (history : History) (noNul : ∀ text ∈ history.texts, 0 ∉ text) :
    history.log.rp2040GetByteCount.toNat =
      (history.log.rp2040LogFlush.1.length + history.free * 65535) % 65536 := by
  have each (text : List UInt8) : ((entryOf text).2 - 1).toNat = (kept text).length := by
    rw [entryOf, UInt16.toNat_sub_of_le, lineSize_toNat, UInt16.toNat_one, Nat.add_sub_cancel]
    rw [UInt16.le_iff_toNat_le, lineSize_toNat, UInt16.toNat_one]
    exact Nat.le_add_left 1 _
  rw [rp2040GetByteCount_toNat, flush_length history noNul, window_log history noNul,
    List.map_append, List.sum_append, List.map_replicate, List.sum_replicate, List.map_map,
    Nat.add_comm]
  simp only [Function.comp_def, each, smul_eq_mul]
  rfl

/-- The count is the length of what a flush prints exactly when every slot is used and the
length fits into 16 bits. -/
theorem count_eq_flush_length (history : History) (noNul : ∀ text ∈ history.texts, 0 ∉ text) :
    history.log.rp2040GetByteCount.toNat = history.log.rp2040LogFlush.1.length ↔
      logBufferLineCount ≤ history.texts.length ∧
        (history.stored.map fun text => (kept text).length).sum < 65536 := by
  rw [rp2040GetByteCount_log history noNul, flush_length history noNul, free]
  generalize (history.stored.map fun text => (kept text).length).sum = length
  constructor
  · intro same
    refine ⟨?_, same ▸ Nat.mod_lt _ (by decide)⟩
    by_contra few
    -- every unused slot takes one from the count
    have unused : logBufferLineCount - history.texts.length ≤ logBufferLineCount := Nat.sub_le _ _
    have some' : 0 < logBufferLineCount - history.texts.length :=
      Nat.sub_pos_of_lt (Nat.lt_of_not_le few)
    generalize logBufferLineCount - history.texts.length = free at same unused some'
    have quotient := Nat.div_add_mod (length + free * 65535) 65536
    rw [same] at quotient
    clear same
    generalize (length + free * 65535) / 65536 = whole at quotient
    rw [logBufferLineCount] at unused
    omega
  · rintro ⟨full, fits⟩
    rw [Nat.sub_eq_zero_of_le full, Nat.zero_mul, Nat.add_zero, Nat.mod_eq_of_lt fits]

end History

end CircularBufferLog

end RobotFirmware
