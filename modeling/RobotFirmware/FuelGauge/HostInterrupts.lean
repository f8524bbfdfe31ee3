import RobotFirmware.FuelGauge.DataFlash
import RobotFirmware.Structure.LittleEndian

/-!
# Configuring the host interrupts

`bq27742_g1_configure_host_interrupts` guesses in which byte order the fuel gauge stores Pack
Configuration, edits three of its bits and one bit of Pack Configuration C, and writes the
block back. The guess fails when both bytes of a little-endian gauge are the same: the update
is right exactly when that does not matter. A block that fails its checksum is never edited.
-/

namespace RobotFirmware

open Interaction
open Bq27742G1 (Block dfBlockLen dfPackConfigOffset dfPackConfigCOffset newPackConfig newPackConfigC
  editBlock configureHostInterrupts)
open Gauge (device)
open LittleEndian (word16)

/-- The byte order of Pack Configuration in the data flash. -/
inductive ByteOrder where
  | bigEndian
  | littleEndian
  deriving DecidableEq

namespace ByteOrder

/-- The place behind `BQ27742_G1_DF_PACK_CONFIG_OFFSET`. -/
def secondPlace : Fin dfBlockLen := ⟨dfPackConfigOffset.val + 1, by decide⟩

/-- The place of the high byte. -/
def high : ByteOrder → Fin dfBlockLen
  | .bigEndian => dfPackConfigOffset
  | .littleEndian => secondPlace

/-- The place of the low byte. -/
def low : ByteOrder → Fin dfBlockLen
  | .bigEndian => secondPlace
  | .littleEndian => dfPackConfigOffset

/-- Pack Configuration in a block. -/
def packConfig (order : ByteOrder) (block : Block) : UInt16 := block.word order.high order.low

/-- The registers block of the data flash. -/
def registers (flash : UInt8 → UInt8 → Block) : Block :=
  flash Bq27742G1.dfSubclassRegisters Bq27742G1.dfBlockRegisters

/-- What the command at 0x3A returns: Pack Configuration as stored. -/
def command (order : ByteOrder) (flash : UInt8 → UInt8 → Block) (register : UInt8) : Option UInt8 :=
  if register = 0x3A then some (order.packConfig (registers flash)).toUInt8
  else if register = 0x3B then some (order.packConfig (registers flash) >>> 8).toUInt8
  else none

/-- A gauge that stores Pack Configuration in the given order, behind faithful wires. -/
abbrev gauge (order : ByteOrder) : Device Ans := device (.faithful order.command)

/-! ## Words and bytes -/

/-- A word of a block is made of its two bytes. -/
theorem word_eq (block : Block) (high low : Fin dfBlockLen) :
    block.word high low = word16 (block.get low) (block.get high) := UInt16.or_comm ..

/-- The new value changes the high byte only. -/
def newHigh (high : UInt8) : UInt8 := (high ||| 0x10) &&& ~~~0x40 &&& ~~~0x20

/-- Three bits of the high byte are edited. -/
theorem newPackConfig_word16 (low high : UInt8) :
    newPackConfig (word16 low high) = word16 low (newHigh high) := by
  have hostie : Bq27742G1.packConfigHostieMask = word16 0 0x10 := by decide
  have hostipu : Bq27742G1.packConfigHostipuMask = word16 0 0x40 := by decide
  have hostipol : Bq27742G1.packConfigHostipolMask = word16 0 0x20 := by decide
  rw [newPackConfig, hostie, hostipu, hostipol, LittleEndian.word16_or_high,
    LittleEndian.word16_and_not_high, LittleEndian.word16_and_not_high, newHigh]

/-- What editing does to the bits of a high byte. -/
theorem newHigh_bits (high : UInt8) :
    newHigh high &&& 0x70 = 0x10 ∧ newHigh high &&& ~~~0x70 = high &&& ~~~0x70 ∧
      (newHigh high = high ↔ high &&& 0x70 = 0x10) := by
  have all : ∀ value : Fin 256, newHigh (.ofFin value) &&& 0x70 = 0x10 ∧
      newHigh (.ofFin value) &&& ~~~0x70 = .ofFin value &&& ~~~0x70 ∧
      (newHigh (.ofFin value) = .ofFin value ↔ UInt8.ofFin value &&& 0x70 = 0x10) := by
    decide +kernel
  exact all high.toFin

/-! ## What an update does to a block -/

/-- A block with the new values in the given byte order. -/
structure Updated (order : ByteOrder) (before after : Block) : Prop where
  /-- Pack Configuration has its new value. -/
  packConfig : order.packConfig after = newPackConfig (order.packConfig before)
  /-- Pack Configuration C has its new value. -/
  packConfigC : after.get dfPackConfigCOffset = newPackConfigC (before.get dfPackConfigCOffset)
  /-- The other bytes are the same. -/
  rest : ∀ i, i ≠ order.high → i ≠ order.low → i ≠ dfPackConfigCOffset →
    after.get i = before.get i

/-- A byte of a block after a store. -/
theorem get_set (block : Block) (i j : Fin dfBlockLen) (value : UInt8) :
    (block.set i.val value i.isLt).get j = if j = i then value else block.get j := by
  have entry (some : Block) : some.get j = some[j.val] := rfl
  rw [entry, entry, Vector.getElem_set]
  simp only [Fin.ext_iff, eq_comm]

/-- The three places differ. -/
theorem places (order : ByteOrder) :
    order.high ≠ order.low ∧ order.high ≠ dfPackConfigCOffset ∧
      order.low ≠ dfPackConfigCOffset := by
  cases order <;> decide

/-- The edited block is updated. -/
theorem updated_editBlock (order : ByteOrder) (block : Block) :
    order.Updated block (editBlock block order.high order.low
      (newPackConfig (order.packConfig block))
      (newPackConfigC (block.get dfPackConfigCOffset))) := by
  obtain ⟨apart, highC, lowC⟩ := order.places
  have lowByte (value : UInt16) : (value &&& 0xFF).toUInt8 = value.toUInt8 := by
    rw [UInt16.toUInt8_and]
    exact UInt8.and_neg_one
  constructor
  · rw [packConfig, word_eq, editBlock, get_set, get_set, get_set, get_set, get_set, get_set]
    simp only [if_neg highC, if_neg lowC, if_neg apart, if_pos, lowByte,
      LittleEndian.word16_split]
  · rw [editBlock, get_set, if_pos rfl]
  · intro i notHigh notLow notC
    rw [editBlock, get_set, get_set, get_set, if_neg notC, if_neg notLow, if_neg notHigh]

/-- A block that has the new values already is its own update. -/
theorem updated_self {order : ByteOrder} {block : Block}
    (packConfig : order.packConfig block = newPackConfig (order.packConfig block))
    (packConfigC : block.get dfPackConfigCOffset =
      newPackConfigC (block.get dfPackConfigCOffset)) : order.Updated block block :=
  ⟨packConfig, packConfigC, fun _ _ _ _ => rfl⟩

/-- The bits that the configuration is about. -/
def hostMask : UInt16 :=
  Bq27742G1.packConfigHostieMask ||| Bq27742G1.packConfigHostipuMask |||
    Bq27742G1.packConfigHostipolMask

/-- The host interrupts are configured, and nothing else has changed. -/
structure Configured (order : ByteOrder) (before after : Block) : Prop where
  /-- `HOSTIE` is set, `HOSTIPU` and `HOSTIPOL` are clear. -/
  host : order.packConfig after &&& hostMask = Bq27742G1.packConfigHostieMask
  /-- The other bits of Pack Configuration are the same. -/
  hostRest : order.packConfig after &&& ~~~hostMask = order.packConfig before &&& ~~~hostMask
  /-- `BTP_EN` is clear. -/
  btpEn : after.get dfPackConfigCOffset &&& Bq27742G1.packConfigCBtpEnMask = 0
  /-- The other bits of Pack Configuration C are the same. -/
  btpRest : after.get dfPackConfigCOffset &&& ~~~Bq27742G1.packConfigCBtpEnMask =
    before.get dfPackConfigCOffset &&& ~~~Bq27742G1.packConfigCBtpEnMask
  /-- The other bytes are the same. -/
  rest : ∀ i, i ≠ order.high → i ≠ order.low → i ≠ dfPackConfigCOffset →
    after.get i = before.get i

/-- An update changes the high byte only. -/
theorem Updated.bytes {order : ByteOrder} {before after : Block}
    (updated : order.Updated before after) :
    after.get order.low = before.get order.low ∧
      after.get order.high = newHigh (before.get order.high) := by
  have values := updated.packConfig
  rw [ByteOrder.packConfig, ByteOrder.packConfig, word_eq, word_eq, newPackConfig_word16] at values
  exact LittleEndian.word16_inj.mp values

/-- The mask lies in the high byte. -/
theorem hostMask_eq : hostMask = word16 0 0x70 ∧
    Bq27742G1.packConfigHostieMask = word16 0 0x10 := by
  decide

/-- An update in the right byte order configures the host interrupts. -/
theorem Updated.configured {order : ByteOrder} {before after : Block}
    (updated : order.Updated before after) : order.Configured before after := by
  obtain ⟨mask, hostie⟩ := hostMask_eq
  obtain ⟨packConfig, packConfigC, rest⟩ := updated
  rw [ByteOrder.packConfig, ByteOrder.packConfig, word_eq before,
      newPackConfig_word16] at packConfig
  obtain ⟨bits, others, _⟩ := newHigh_bits (before.get order.high)
  have cleared (byte : UInt8) : newPackConfigC byte &&& Bq27742G1.packConfigCBtpEnMask = 0 ∧
      newPackConfigC byte &&& ~~~Bq27742G1.packConfigCBtpEnMask =
        byte &&& ~~~Bq27742G1.packConfigCBtpEnMask := by
    rw [newPackConfigC, UInt8.and_assoc, UInt8.and_assoc, UInt8.and_self]
    exact ⟨UInt8.and_zero, rfl⟩
  refine ⟨?_, ?_, packConfigC ▸ (cleared _).1, packConfigC ▸ (cleared _).2, rest⟩
  · rw [ByteOrder.packConfig, packConfig, mask, hostie, LittleEndian.word16_and_high, bits]
  · rw [ByteOrder.packConfig, ByteOrder.packConfig, packConfig, word_eq before, mask,
      LittleEndian.word16_and_not_high, LittleEndian.word16_and_not_high, others]

/-- The host bits of the high byte. -/
theorem Configured.high_bits {order : ByteOrder} {before after : Block}
    (configured : order.Configured before after) : after.get order.high &&& 0x70 = 0x10 := by
  obtain ⟨mask, hostie⟩ := hostMask_eq
  have host := configured.host
  rw [packConfig, word_eq, mask, hostie, LittleEndian.word16_and_high,
      LittleEndian.word16_inj] at host
  exact host.2

/-- Configured host interrupts need no new values. -/
theorem Configured.settled {order : ByteOrder} {before after : Block}
    (configured : order.Configured before after) :
    order.packConfig after = newPackConfig (order.packConfig after) ∧
      after.get dfPackConfigCOffset = newPackConfigC (after.get dfPackConfigCOffset) := by
  have clear : ∀ byte : Fin 256, UInt8.ofFin byte &&& Bq27742G1.packConfigCBtpEnMask = 0 →
      UInt8.ofFin byte = newPackConfigC (.ofFin byte) := by decide +kernel
  have bits := configured.high_bits
  refine ⟨?_, clear (after.get dfPackConfigCOffset).toFin configured.btpEn⟩
  rw [packConfig, word_eq, newPackConfig_word16, (newHigh_bits _).2.2.mpr bits]

/-- When both bytes are the same, an update in the wrong byte order configures the host
interrupts only if there is nothing to configure. -/
theorem Updated.configured_iff {before after : Block}
    (updated : ByteOrder.bigEndian.Updated before after)
    (tie : before.get dfPackConfigOffset = before.get secondPlace) :
    ByteOrder.littleEndian.Configured before after ↔
      before.get dfPackConfigOffset &&& 0x70 = 0x10 := by
  obtain ⟨second, first⟩ : after.get secondPlace =
      before.get secondPlace ∧
      after.get dfPackConfigOffset = newHigh (before.get dfPackConfigOffset) := updated.bytes
  constructor
  · intro configured
    have bits : after.get secondPlace &&& 0x70 = 0x10 := configured.high_bits
    rwa [second, ← tie] at bits
  · intro bits
    rw [(newHigh_bits _).2.2.mpr bits] at first
    refine Updated.configured ⟨?_, updated.packConfigC, fun i notHigh notLow =>
      updated.rest i notLow notHigh⟩
    have words (block : Block) : ByteOrder.littleEndian.packConfig block =
        word16 (block.get dfPackConfigOffset) (block.get secondPlace) := word_eq ..
    rw [words, words, newPackConfig_word16, first, second, ← tie, (newHigh_bits _).2.2.mpr bits]

/-! ## The guess -/

/-- The byte order that `bq27742_g1_configure_host_interrupts` picks. -/
def guess (packConfig : UInt16) (block : Block) : ByteOrder :=
  if littleEndian.packConfig block = packConfig ∧ bigEndian.packConfig block ≠ packConfig then
    .littleEndian
  else .bigEndian

/-- The guess is right, unless the bytes of a little-endian gauge are the same. -/
theorem guess_cases (order : ByteOrder) (block : Block) :
    guess (order.packConfig block) block = order ∧ (order = .bigEndian ∨
        block.get dfPackConfigOffset ≠ block.get secondPlace) ∨
      order = .littleEndian ∧ guess (order.packConfig block) block = .bigEndian ∧
        block.get dfPackConfigOffset = block.get secondPlace := by
  cases order with
  | bigEndian => exact .inl ⟨if_neg fun both => both.2 rfl, .inl rfl⟩
  | littleEndian =>
    have readings : bigEndian.packConfig block = littleEndian.packConfig block ↔
        block.get dfPackConfigOffset = block.get secondPlace := by
      rw [packConfig, packConfig, word_eq, word_eq, LittleEndian.word16_inj]
      exact ⟨And.right, fun tie => ⟨tie.symm, tie⟩⟩
    by_cases tie : block.get dfPackConfigOffset = block.get secondPlace
    · exact .inr ⟨rfl, if_neg fun both => both.2 (readings.mpr tie), tie⟩
    · exact .inl ⟨if_pos ⟨rfl, mt readings.mp tie⟩, .inr tie⟩

/-- Right or wrong, the guess reads the value that the gauge holds. -/
theorem guess_packConfig (order : ByteOrder) (block : Block) :
    (guess (order.packConfig block) block).packConfig block = order.packConfig block := by
  obtain ⟨right, _⟩ | ⟨rfl, wrong, tie⟩ := order.guess_cases block
  · rw [right]
  · rw [wrong, packConfig, packConfig, word_eq, word_eq, LittleEndian.word16_inj]
    exact ⟨tie.symm, tie⟩

/-- `packConfigIndices` returns the places in the byte order that is guessed. -/
theorem ensures_packConfigIndices {order : ByteOrder} {state : Gauge} (packConfig : UInt16)
    (block : Block) {post : Gauge → Fin dfBlockLen × Fin dfBlockLen → Prop}
    (holds : post state ((guess packConfig block).high, (guess packConfig block).low)) :
    order.gauge.Ensures state (Bq27742G1.packConfigIndices packConfig block) post := by
  by_cases little : littleEndian.packConfig block = packConfig ∧
      bigEndian.packConfig block ≠ packConfig
  · rw [guess, if_pos little] at holds
    refine Device.ensures_ite.mpr ?_
    split
    · exact holds
    · exact absurd little ‹_›
  · rw [guess, if_neg little] at holds
    refine Device.ensures_ite.mpr ?_
    split
    · exact absurd ‹_› little
    · refine Device.ensures_ite.mpr ?_
      split
      · exact ⟨fun _ _ => holds⟩
      · exact holds

/-! ## The program against the gauge -/

variable {order : ByteOrder} {state : Gauge}

/-- The command read returns Pack Configuration as stored. -/
theorem ensures_getPackConfiguration {post : Gauge → UInt16 → Prop}
    (holds : post { state with selected := Bq27742G1.regPackConfiguration }
      (order.packConfig (registers state.flash))) :
    order.gauge.Ensures state Bq27742G1.getPackConfiguration post := by
  refine Device.ensures_bind.mpr (Gauge.ensures_readBytes _ _ fun bytes read => ?_)
  have low : bytes[0] = (order.packConfig (registers state.flash)).toUInt8 := read 0 _ rfl
  have high : bytes[1] = (order.packConfig (registers state.flash) >>> 8).toUInt8 := read 1 _ rfl
  have same : Bq27742G1.word bytes = order.packConfig (registers state.flash) := by
    rw [Bq27742G1.word, low, high, UInt16.or_comm]
    exact LittleEndian.word16_split _
  change post _ (Bq27742G1.word bytes)
  rwa [same]

/-- Verifying the block only reads. -/
theorem ensures_verifyBlock (high low : Fin dfBlockLen) (oldPackConfig packConfig : UInt16)
    (oldPackConfigC packConfigC : UInt8) :
    order.gauge.Ensures state
      (Bq27742G1.verifyBlock high low oldPackConfig packConfig oldPackConfigC packConfigC)
      fun final _ => final.flash = state.flash := by
  refine Device.ensures_bind.mpr (Gauge.ensures_readDataFlashBlock_faithful _ _ ?_)
  have passed : ¬ (!true) = true := by decide
  refine Device.ensures_ite.mpr ?_
  rw [if_neg passed]
  refine Device.ensures_ite.mpr ?_
  split
  · exact ⟨fun _ _ => rfl⟩
  · exact ⟨fun _ _ => rfl⟩

/-- There is nothing to write. -/
def Settled (order : ByteOrder) (block : Block) : Prop :=
  order.packConfig block = newPackConfig (order.packConfig block) ∧
    block.get dfPackConfigCOffset = newPackConfigC (block.get dfPackConfigCOffset)

/-- What one run does to the gauge. -/
structure Outcome (order : ByteOrder) (before after : Gauge) : Prop where
  /-- The registers block is updated in the guessed byte order. -/
  updated : (guess (order.packConfig (registers before.flash)) (registers before.flash)).Updated
    (registers before.flash) (registers after.flash)
  /-- The other blocks stay. -/
  others : ∀ subclass block, ¬ (subclass = Bq27742G1.dfSubclassRegisters ∧
    block = Bq27742G1.dfBlockRegisters) → after.flash subclass block = before.flash subclass block
  /-- Nothing is written when there is nothing to write. -/
  minimal : order.Settled (registers before.flash) → after.writes = before.writes

/-- The block that has been read is updated in the guessed byte order. -/
theorem ensures_updateBlock :
    order.gauge.Ensures state
      (Bq27742G1.updateBlock (order.packConfig (registers state.flash)) (registers state.flash))
      fun final _ => order.Outcome state final := by
  generalize reading : guess (order.packConfig (registers state.flash)) (registers state.flash) =
    guessed
  have reads : guessed.packConfig (registers state.flash) =
      order.packConfig (registers state.flash) := reading ▸ order.guess_packConfig _
  refine Device.ensures_bind.mpr (ensures_packConfigIndices _ _ (Device.ensures_ite.mpr ?_))
  rw [reading]
  split
  · rename_i settled
    refine ⟨fun _ _ => ⟨?_, fun _ _ _ => rfl, fun _ => rfl⟩⟩
    rw [reading]
    exact updated_self settled.1 settled.2
  · rename_i unsettled
    refine Device.ensures_bind.mpr (Gauge.ensures_writeDataFlashBlock _ _ _ ⟨fun _ _ => ?_⟩)
    refine (ensures_verifyBlock _ _ _ _ _ _).mono fun final _ same => ?_
    have flash : final.flash = _ := same.trans (Gauge.written_flash _ _ _)
    refine ⟨?_, fun subclass block apart => ?_, fun settled => absurd ?_ unsettled⟩
    · have block : registers final.flash = _ :=
        congrFun (congrFun flash Bq27742G1.dfSubclassRegisters) Bq27742G1.dfBlockRegisters
      rw [if_pos ⟨rfl, rfl⟩] at block
      rw [block, reading]
      exact guessed.updated_editBlock _
    · have there := congrFun (congrFun flash subclass) block
      rwa [if_neg apart] at there
    · exact ⟨reads.trans (settled.1.trans (congrArg newPackConfig reads.symm)), settled.2⟩

/-- Configuring the host interrupts updates the registers block in the guessed byte order. -/
theorem ensures_configureHostInterrupts :
    order.gauge.Ensures state configureHostInterrupts fun final _ => order.Outcome state final := by
  have passed : ¬ (!true) = true := by decide
  refine Device.ensures_bind.mpr (ensures_getPackConfiguration (Gauge.ensures_log _ _ ?_))
  refine Device.ensures_bind.mpr (Gauge.ensures_readDataFlashBlock_faithful _ _ ?_)
  refine Device.ensures_ite.mpr ?_
  rw [if_neg passed]
  exact ensures_updateBlock.mono fun _ _ outcome =>
    ⟨outcome.updated, outcome.others, outcome.minimal⟩

/-- On a bus that does not fail, configuring the host interrupts returns. -/
theorem configureHostInterrupts_finishes : configureHostInterrupts.Finishes Op.Acknowledged := by
  have log (format : String) (args : List LogArg) :
      (rp2040Log format args).Finishes Op.Acknowledged := .act ⟨(), trivial⟩
  have indices (packConfig : UInt16) (block : Block) :
      (Bq27742G1.packConfigIndices packConfig block).Finishes Op.Acknowledged :=
    .ite trivial (.ite ((log _ _).bind fun _ => trivial) trivial)
  have verify (high low : Fin dfBlockLen) (old new : UInt16) (oldC newC : UInt8) :
      (Bq27742G1.verifyBlock high low old new oldC newC).Finishes Op.Acknowledged :=
    (Gauge.readDataFlashBlock_finishes _ _).bind fun _ => .ite (log _ _) (.ite (log _ _) (log _ _))
  have update (packConfig : UInt16) (block : Block) :
      (Bq27742G1.updateBlock packConfig block).Finishes Op.Acknowledged := by
    refine (indices packConfig block).bind fun places => .ite (log _ _) ?_
    refine (Gauge.writeDataFlashBlock_finishes _ _ _).bind fun _ => ?_
    exact .bind (.act ⟨(), trivial⟩) fun _ => verify _ _ _ _ _ _
  have command : Bq27742G1.getPackConfiguration.Finishes Op.Acknowledged :=
    (Gauge.readBytes_finishes _ _).bind fun _ => trivial
  refine command.bind fun packConfig => (log _ _).bind fun _ => ?_
  exact (Gauge.readDataFlashBlock_finishes _ _).bind fun _ => .ite (log _ _) (update _ _)

/-- From every state of the gauge the function returns. -/
theorem returns_configureHostInterrupts :
    order.gauge.Returns state configureHostInterrupts fun final _ => order.Outcome state final :=
  Device.returns_of_finishes configureHostInterrupts_finishes Gauge.gives_acknowledged
    ensures_configureHostInterrupts

/-- What the update is for: the host interrupts are configured, the other blocks stay, and
another update writes nothing. -/
structure Complete (order : ByteOrder) (before after : Gauge) : Prop where
  /-- The host interrupts are configured, and nothing else in their block has changed. -/
  configured : order.Configured (registers before.flash) (registers after.flash)
  /-- The other blocks stay. -/
  others : ∀ subclass block, ¬ (subclass = Bq27742G1.dfSubclassRegisters ∧
    block = Bq27742G1.dfBlockRegisters) → after.flash subclass block = before.flash subclass block
  /-- Another run writes nothing. -/
  idempotent : order.gauge.Returns after configureHostInterrupts
    fun again _ => again.writes = after.writes

/-- Where the guess does no harm: the high byte is stored first, the two bytes differ, or both
have the bits of a configured high byte. -/
def Unambiguous (order : ByteOrder) (block : Block) : Prop :=
  order = .bigEndian ∨ block.get dfPackConfigOffset ≠ block.get secondPlace ∨
    block.get dfPackConfigOffset &&& 0x70 = 0x10

/-- A run that updated the block in the guessed byte order is complete exactly when the guess is
right or does not matter. -/
theorem Outcome.complete_iff {before after : Gauge} (outcome : order.Outcome before after) :
    order.Complete before after ↔ order.Unambiguous (registers before.flash) := by
  have complete (configured : order.Configured (registers before.flash) (registers after.flash)) :
      order.Complete before after := by
    have again : order.gauge.Returns after configureHostInterrupts _ :=
      returns_configureHostInterrupts
    exact ⟨configured, outcome.others, again.can, fun trace value run serves =>
      (again.ends trace value run serves).minimal configured.settled⟩
  have updated := outcome.updated
  obtain ⟨right, apart⟩ | ⟨rfl, wrong, tie⟩ := order.guess_cases (registers before.flash)
  · rw [right] at updated
    exact ⟨fun _ => apart.imp_right .inl, fun _ => complete updated.configured⟩
  · rw [wrong] at updated
    constructor
    · intro done
      exact .inr (.inr ((updated.configured_iff tie).mp done.configured))
    · rintro (impossible | apart | bits)
      · cases impossible
      · exact absurd tie apart
      · exact complete ((updated.configured_iff tie).mpr bits)

/-! ## A block that fails its checksum -/

/-- A write into the block area or to its checksum. -/
def StagesBlock : Op → Prop
  | .i2cWriteTimeoutUs .i2c0 addr (command :: values) _ =>
    addr = Bq27742G1.addr ∧ ∃ i < values.length,
      Gauge.InBlock (command + UInt8.ofNat i) ∨
        command + UInt8.ofNat i = Bq27742G1.regBlockDataChecksum
  | _ => False

/-- What successful reads returned so far, and what another operation adds. -/
def received (reads : List (List UInt8)) : (op : Op) → Ans op → List (List UInt8)
  | .i2cReadTimeoutUs .i2c0 addr _ _, answer =>
    if addr = Bq27742G1.addr ∧ 0 ≤ answer.1 then reads ++ [answer.2.toList] else reads
  | _, _ => reads

/-- The block that was read first passed its checksum: the reads are Pack Configuration, the
block, and the complement of its sum. -/
def Passed (reads : List (List UInt8)) : Prop :=
  ∃ (packConfig : List UInt8) (block : Block) (later : List (List UInt8)),
    reads = packConfig :: block.toList :: [~~~ ∑ i, block.get i] :: later

/-- Blocks may be staged once the first one has passed its checksum. -/
abbrev checked : Monitor Ans where
  State := List (List UInt8)
  allows reads op := StagesBlock op → Passed reads
  next := received

/-- A block that has passed stays so. -/
theorem Passed.received {reads : List (List UInt8)} (passed : Passed reads) (op : Op)
    (answer : Ans op) : Passed (received reads op answer) := by
  obtain ⟨packConfig, block, later, rfl⟩ := passed
  unfold ByteOrder.received
  split
  · split
    · exact ⟨packConfig, block, _, rfl⟩
    · exact ⟨packConfig, block, later, rfl⟩
  · exact ⟨packConfig, block, later, rfl⟩

/-- After a block that has passed, everything may follow. -/
theorem Passed.guards {α : Type} {program : Firmware α} {reads : List (List UInt8)}
    (passed : Passed reads) : checked.Guards reads program fun _ _ => True := by
  induction program generalizing reads with
  | done value => trivial
  | perform op resume ih =>
    exact ⟨fun _ => passed, fun answer => ih answer (passed.received op answer)⟩

/-- Routine operations stage no block and read nothing. -/
theorem checked_ignores_routine : checked.Ignores Op.Routine := by
  intro reads op routine
  cases op <;> first | exact ⟨fun stages => stages.elim, fun _ => rfl⟩ | exact routine.elim

/-- A write that stages no block is allowed, and reads nothing. -/
theorem guards_write {command : UInt8} {values : List UInt8} {nostop : Bool}
    {reads : List (List UInt8)} {post : List (List UInt8) → Unit → Prop}
    (outside : ∀ i < values.length, ¬ (Gauge.InBlock (command + UInt8.ofNat i) ∨
      command + UInt8.ofNat i = Bq27742G1.regBlockDataChecksum)) (holds : post reads ()) :
    checked.Guards reads
      (i2cWriteErrorHandling .i2c0 Bq27742G1.addr (command :: values) nostop) post :=
  guards_i2cWriteErrorHandling checked_ignores_routine
    (fun ⟨_, i, inside, stages⟩ => absurd stages (outside i inside)) (fun _ _ => rfl)
    fun _ _ => holds

/-- A byte written outside the block area stages nothing. -/
theorem guards_writeByte {command : UInt8} (value : UInt8) {reads : List (List UInt8)}
    {post : List (List UInt8) → Unit → Prop}
    (outside : ¬ (Gauge.InBlock command ∨ command = Bq27742G1.regBlockDataChecksum))
    (holds : post reads ()) :
    checked.Guards reads (Bq27742G1.writeByte command value) post := by
  refine guards_write (fun i inside => ?_) holds
  obtain rfl : i = 0 := Nat.lt_one_iff.mp inside
  have first : command + UInt8.ofNat 0 = command := UInt8.add_zero command
  rwa [first]

/-- Logging stages nothing. -/
theorem guards_log (format : String) (args : List LogArg) {α : Type} {rest : Unit → Firmware α}
    {reads : List (List UInt8)} {post : List (List UInt8) → α → Prop}
    (goes : checked.Guards reads (rest ()) post) :
    checked.Guards reads (rp2040Log format args >>= rest) post :=
  ⟨fun stages => stages.elim, fun _ => goes⟩

/-- Reading registers adds what it returns. -/
theorem guards_readBytes (command : UInt8) (len : Nat) {reads : List (List UInt8)}
    {post : List (List UInt8) → Vector UInt8 len → Prop}
    (holds : ∀ bytes : Vector UInt8 len, post (reads ++ [bytes.toList]) bytes) :
    checked.Guards reads (Bq27742G1.readBytes command len) post := by
  refine Monitor.guards_bind.mpr (guards_write (fun _ impossible => nomatch impossible) ?_)
  refine guards_i2cReadErrorHandling checked_ignores_routine (fun stages => stages.elim)
    (fun result bytes failed => if_neg ?_) fun result bytes success => ?_
  · exact fun both => absurd both.2 (Int.not_le.mpr failed)
  · have added : received reads (.i2cReadTimeoutUs .i2c0 Bq27742G1.addr len false)
        (result, bytes) = reads ++ [bytes.toList] := if_pos ⟨rfl, success⟩
    exact (congrArg (post · bytes) added).mpr (holds bytes)

/-- Selecting a block stages nothing. -/
theorem guards_selectBlock (subclass block : UInt8) {reads : List (List UInt8)}
    {post : List (List UInt8) → Unit → Prop} (holds : post reads ()) :
    checked.Guards reads (Bq27742G1.selectBlock subclass block) post := by
  refine Monitor.guards_bind.mpr (guards_writeByte _ (by decide) ?_)
  refine Monitor.guards_bind.mpr (guards_writeByte _ (by decide) ?_)
  refine Monitor.guards_bind.mpr (guards_writeByte _ (by decide) ?_)
  exact ⟨fun stages => stages.elim, fun _ => holds⟩

/-- The first block is read successfully only when it passes its checksum. -/
theorem guards_readDataFlashBlock (subclass block : UInt8) (packConfig : List UInt8) :
    checked.Guards [packConfig] (Bq27742G1.readDataFlashBlock subclass block)
      fun reads result => result.1 = true → Passed reads := by
  refine Monitor.guards_bind.mpr (guards_selectBlock _ _ ?_)
  refine Monitor.guards_bind.mpr (guards_readBytes _ _ fun blockData => ?_)
  refine Monitor.guards_bind.mpr (guards_readBytes _ _ fun checksum => ?_)
  refine .branch (fun _ => ?_) fun same => ?_
  · exact ⟨fun stages => stages.elim, fun _ impossible => nomatch impossible⟩
  · intro _
    have complement : checksum.get 0 = ~~~ ∑ i, blockData.get i := by
      rw [not_not.mp same, Gauge.dataFlashChecksum_eq, Gauge.complement]
    have single : checksum.toList = [checksum.get 0] := by
      refine List.ext_getElem (by simp) fun i inside _ => ?_
      obtain rfl : i = 0 := by simpa using inside
      simp [Vector.get]
    refine ⟨packConfig, blockData, [], ?_⟩
    rw [single, complement]
    rfl

/-- Nothing is staged unless the first block has passed its checksum. -/
theorem guards_configureHostInterrupts :
    checked.Guards [] configureHostInterrupts fun _ _ => True := by
  refine Monitor.guards_bind.mpr (Monitor.guards_bind.mpr (guards_readBytes _ _ fun bytes => ?_))
  refine guards_log _ _ ?_
  refine Monitor.guards_bind.mpr ((guards_readDataFlashBlock _ _ _).mono fun reads result good =>
    ?_)
  refine .branch (fun _ => ?_) fun read => ?_
  · exact ⟨fun stages => stages.elim, fun _ => trivial⟩
  · exact Passed.guards (good (by simpa using read))

/-- An accepted trace that stages a block has passed the checksum in the end. -/
theorem passed_of_accepts {reads : List (List UInt8)} {trace : List (Event Ans)}
    (accepted : checked.Accepts reads trace) {event : Event Ans} (member : event ∈ trace)
    (stages : StagesBlock event.op) : Passed (checked.after reads trace) := by
  have kept (later : List (Event Ans)) {reads : List (List UInt8)} (passed : Passed reads) :
      Passed (checked.after reads later) := by
    induction later generalizing reads with
    | nil => exact passed
    | cons event later ih => exact ih (passed.received event.op event.answer)
  induction trace generalizing reads with
  | nil => cases member
  | cons first trace ih =>
    obtain ⟨allowed, later⟩ := accepted
    obtain rfl | member := List.mem_cons.mp member
    · exact kept trace ((allowed stages).received event.op event.answer)
    · exact ih later member

end ByteOrder

/-- From every state of the gauge and in either byte order the function returns. The host
interrupts are configured, all other bits stay and another run writes nothing exactly when the
guess does no harm. When the first block does not pass its checksum, no block is written,
whatever the bus answers. -/
theorem host_interrupts_configured_iff (order : ByteOrder) (state : Gauge) :
    order.gauge.Returns state configureHostInterrupts
      (fun final _ => order.Complete state final ↔
        order.Unambiguous (ByteOrder.registers state.flash)) ∧
    ∀ trace rest, configureHostInterrupts.Runs trace rest →
      ∀ (packConfig : List UInt8) (block : Block) (checksum : UInt8) (later : List (List UInt8)),
        ByteOrder.checked.after [] trace = packConfig :: block.toList :: [checksum] :: later →
        checksum ≠ ~~~ ∑ i, block.get i →
        ∀ event ∈ trace, ¬ ByteOrder.StagesBlock event.op := by
  have returns : order.gauge.Returns state configureHostInterrupts _ :=
    ByteOrder.returns_configureHostInterrupts
  refine ⟨⟨returns.can, fun trace value run serves =>
    (returns.ends trace value run serves).complete_iff⟩, ?_⟩
  intro trace rest run packConfig block checksum later reads mismatch event member stages
  obtain ⟨accepted, _⟩ := ByteOrder.guards_configureHostInterrupts.run run
  obtain ⟨_, good, _, passed⟩ := ByteOrder.passed_of_accepts accepted member stages
  rw [reads] at passed
  obtain ⟨_, sameBlock, sameSum, _⟩ := by simpa only [List.cons.injEq] using passed
  rw [Vector.toList_inj.mp sameBlock] at mismatch
  exact mismatch sameSum.1

/-- On a little-endian gauge whose Pack Configuration is zero, bit 4 is set in place of `HOSTIE`. -/
theorem host_interrupts_misconfigured :
    ByteOrder.littleEndian.gauge.Returns .fresh configureHostInterrupts fun final _ =>
      ByteOrder.littleEndian.packConfig (ByteOrder.registers final.flash) = 0x0010 ∧
        ¬ ByteOrder.littleEndian.Complete .fresh final := by
  have returns : ByteOrder.littleEndian.gauge.Returns .fresh configureHostInterrupts _ :=
    ByteOrder.returns_configureHostInterrupts
  refine ⟨returns.can, fun trace value run serves => ?_⟩
  have outcome := returns.ends trace value run serves
  have updated := outcome.updated
  have guessed : ByteOrder.guess (ByteOrder.littleEndian.packConfig
      (ByteOrder.registers Gauge.fresh.flash)) (ByteOrder.registers Gauge.fresh.flash) =
        .bigEndian := by decide
  rw [guessed] at updated
  obtain ⟨low, high⟩ := updated.bytes
  refine ⟨?_, fun complete => ?_⟩
  · rw [ByteOrder.packConfig, ByteOrder.word_eq]
    change LittleEndian.word16 (Vector.get _ ByteOrder.bigEndian.high)
      (Vector.get _ ByteOrder.bigEndian.low) = _
    rw [low, high]
    decide
  · obtain impossible | apart | bits := outcome.complete_iff.mp complete
    · cases impossible
    · exact apart (by decide)
    · exact absurd bits (by decide)

/-- A bus on which every transfer succeeds and every byte reads as zero. -/
def zeroBus (_ : Unit) : (op : Op) → Option (Ans op × Unit)
  | .i2cWriteTimeoutUs .. => some ((0 : Int), ())
  | .i2cReadTimeoutUs _ _ len _ => some (((0 : Int), .replicate len 0), ())
  | .rp2040Log .. => some ((), ())
  | .cexceptionTry => some ((), ())
  | .sleepMs _ => some ((), ())
  | _ => none

/-- On that bus the block does not pass its checksum, and nothing is written. -/
theorem host_interrupts_configured_zeroBus :
    ∀ event ∈ (configureHostInterrupts.drive zeroBus ()).1, ¬ ByteOrder.StagesBlock event.op := by
  refine (host_interrupts_configured_iff .bigEndian .fresh).2 _ _
    (Program.drive_runs zeroBus () configureHostInterrupts) [0, 0] (.replicate dfBlockLen 0) 0 []
    ?_ (by decide)
  decide +kernel

end RobotFirmware
