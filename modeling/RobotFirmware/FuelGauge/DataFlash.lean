import RobotFirmware.Exchange
import RobotFirmware.Structure.ByteSum

/-!
# The data flash of the fuel gauge

The fuel gauge as a device: bytes that are written go to registers one behind the other, a
block is staged there, and the checksum register commits it only when it gets the complement
of the sum of the staged bytes. Reads return the committed block and its complement. The wires
may change bytes of a block on the way.
-/

namespace RobotFirmware

open Interaction
open Bq27742G1 (Block dfBlockLen regDataFlashClass regDataFlashBlock regBlockData
  regBlockDataChecksum regBlockDataControl)
open ByteSum (DifferAtOne)

/-- The fuel gauge. -/
structure Gauge where
  /-- The register that is read next. -/
  selected : UInt8
  /-- The subclass that is selected. -/
  subclass : UInt8
  /-- The block that is selected. -/
  block : UInt8
  /-- The bytes staged for the next commit. -/
  staged : Fin dfBlockLen → UInt8
  /-- The committed blocks. -/
  flash : UInt8 → UInt8 → Block
  /-- The bytes written to the block and checksum registers so far. -/
  writes : Nat

namespace Gauge

/-- What happens to the bytes of a block on the way, and what the registers outside the data
flash hold, where that is known. -/
structure Wires where
  /-- The byte that arrives at the gauge. -/
  toGauge : Fin dfBlockLen → UInt8 → UInt8
  /-- The byte that arrives from the gauge. -/
  fromGauge : Fin dfBlockLen → UInt8 → UInt8
  /-- The other registers, which may depend on the data flash. -/
  command : (UInt8 → UInt8 → Block) → UInt8 → Option UInt8

/-- The complement of the sum of some bytes. -/
def complement (bytes : Fin dfBlockLen → UInt8) : UInt8 := ~~~ ∑ i, bytes i

/-- The block that is selected. -/
def current (gauge : Gauge) : Block := gauge.flash gauge.subclass gauge.block

/-- The registers of the block area. -/
def InBlock (register : UInt8) : Prop := 0x40 ≤ register ∧ register < 0x60

instance (register : UInt8) : Decidable (InBlock register) :=
  inferInstanceAs (Decidable (0x40 ≤ register ∧ register < 0x60))

/-- The place of a register in the block area. -/
def place (register : UInt8) : Fin dfBlockLen :=
  ⟨(register - 0x40).toNat % dfBlockLen, Nat.mod_lt _ (by decide)⟩

/-- The blocks after a commit. -/
def commit (gauge : Gauge) : UInt8 → UInt8 → Block :=
  fun subclass block =>
    if subclass = gauge.subclass ∧ block = gauge.block then .ofFn gauge.staged
    else gauge.flash subclass block

/-- A byte is written to a register. -/
def store (wires : Wires) (gauge : Gauge) (register value : UInt8) : Gauge :=
  if register = regDataFlashClass then { gauge with subclass := value }
  else if register = regDataFlashBlock then { gauge with block := value }
  else if InBlock register then
    { gauge with
      staged := Function.update gauge.staged (place register) (wires.toGauge (place register) value)
      writes := gauge.writes + 1 }
  else if register = regBlockDataChecksum then
    { gauge with
      flash := if value = complement gauge.staged then gauge.commit else gauge.flash
      writes := gauge.writes + 1 }
  else gauge

/-- Bytes are written to registers one behind the other. -/
def storeAll (wires : Wires) : Gauge → UInt8 → List UInt8 → Gauge
  | gauge, _, [] => gauge
  | gauge, register, value :: values =>
    storeAll wires (gauge.store wires register value) (register + 1) values

/-- A transfer selects its first byte and writes the others from there on. -/
def transfer (wires : Wires) (gauge : Gauge) : List UInt8 → Gauge
  | [] => gauge
  | command :: values => { gauge.storeAll wires command values with selected := command }

/-- The byte that a register returns, where it is known. -/
def register? (wires : Wires) (gauge : Gauge) (register : UInt8) : Option UInt8 :=
  if InBlock register then
    some (wires.fromGauge (place register) (gauge.current.get (place register)))
  else if register = regBlockDataChecksum then some (complement gauge.current.get)
  else wires.command gauge.flash register

/-- A read that succeeds returns the registers from the selected one on. -/
def gives (wires : Wires) (gauge : Gauge) : (op : Op) → Ans op → Prop
  | .i2cReadTimeoutUs .i2c0 addr len _, answer =>
    addr = Bq27742G1.addr → 0 ≤ answer.1 → ∀ i : Fin len,
      ∀ value ∈ gauge.register? wires (gauge.selected + UInt8.ofNat i), answer.2.get i = value
  | _, _ => True

/-- A write that succeeds is taken in. -/
def next (wires : Wires) (gauge : Gauge) : (op : Op) → Ans op → Gauge
  | .i2cWriteTimeoutUs .i2c0 addr src _, (result : Int) =>
    if addr = Bq27742G1.addr ∧ 0 ≤ result then gauge.transfer wires src else gauge
  | _, _ => gauge

/-- The fuel gauge behind its wires. -/
abbrev device (wires : Wires) : Device Ans := ⟨Gauge, gives wires, next wires⟩

variable {wires : Wires} {gauge : Gauge}

/-! ## Transfers -/

/-- Routine operations do not reach the gauge. -/
theorem ignores_routine : (device wires).Ignores Op.Routine := by
  intro gauge op answer routine
  cases op <;> first | rfl | exact routine.elim

/-- Logging does not reach the gauge. -/
theorem ensures_log (format : String) (args : List LogArg) {α : Type} {rest : Unit → Firmware α}
    {post : Gauge → α → Prop} (goes : (device wires).Ensures gauge (rest ()) post) :
    (device wires).Ensures gauge (rp2040Log format args >>= rest) post := ⟨fun _ _ => goes⟩

/-- A write with error handling is one transfer. -/
theorem ensures_write {src : List UInt8} {nostop : Bool} {post : Gauge → Unit → Prop}
    (written : post (gauge.transfer wires src) ()) :
    (device wires).Ensures gauge (i2cWriteErrorHandling .i2c0 Bq27742G1.addr src nostop) post := by
  refine ensures_i2cWriteErrorHandling ignores_routine (fun result failed => ?_)
    fun result success => ?_
  · simp [next, Int.not_le.mpr failed]
  · simpa [next, success] using written

/-- Reading registers selects the first and returns what is known of them. -/
theorem ensures_readBytes (command : UInt8) (len : Nat) {post : Gauge → Vector UInt8 len → Prop}
    (obtained : ∀ bytes : Vector UInt8 len,
      (∀ i : Fin len, ∀ value ∈ gauge.register? wires (command + UInt8.ofNat i),
        bytes.get i = value) → post { gauge with selected := command } bytes) :
    (device wires).Ensures gauge (Bq27742G1.readBytes command len) post :=
  Device.ensures_bind.mpr (ensures_write
    (ensures_i2cReadErrorHandling ignores_routine (fun _ _ _ => rfl)
      fun _ bytes success given => obtained bytes (given rfl success)))

/-- A byte written by itself goes to its register. -/
theorem ensures_writeByte (command value : UInt8) {post : Gauge → Unit → Prop}
    (written : post { gauge.store wires command value with selected := command } ()) :
    (device wires).Ensures gauge (Bq27742G1.writeByte command value) post :=
  ensures_write written

/-- The gauge with a block selected. -/
def choose (gauge : Gauge) (subclass block : UInt8) : Gauge :=
  { gauge with selected := regDataFlashBlock, subclass := subclass, block := block }

/-- Selecting a block selects it. -/
theorem ensures_selectBlock (subclass block : UInt8) {post : Gauge → Unit → Prop}
    (chosen : post (gauge.choose subclass block) ()) :
    (device wires).Ensures gauge (Bq27742G1.selectBlock subclass block) post := by
  refine Device.ensures_bind.mpr (ensures_writeByte _ _ ?_)
  refine Device.ensures_bind.mpr (ensures_writeByte _ _ ?_)
  refine Device.ensures_bind.mpr (ensures_writeByte _ _ ?_)
  exact ⟨fun _ _ => chosen⟩

/-- The registers of the block area, from the first one. -/
theorem inBlock_at (i : Fin dfBlockLen) :
    InBlock (regBlockData + UInt8.ofNat i) ∧ place (regBlockData + UInt8.ofNat i) = i := by
  revert i
  decide

/-- A byte written to the block area is staged as it arrives. -/
theorem store_staged (i : Fin dfBlockLen) (value : UInt8) :
    gauge.store wires (regBlockData + UInt8.ofNat i) value =
      { gauge with
        staged := Function.update gauge.staged i (wires.toGauge i value)
        writes := gauge.writes + 1 } := by
  obtain ⟨inside, same⟩ := inBlock_at i
  have apart : regBlockData + UInt8.ofNat i ≠ regDataFlashClass ∧
      regBlockData + UInt8.ofNat i ≠ regDataFlashBlock := by
    revert i
    decide
  rw [store, if_neg apart.1, if_neg apart.2, if_pos inside, same]

/-- The code's checksum is the complement that the gauge expects. -/
theorem dataFlashChecksum_eq (blockData : Block) :
    Bq27742G1.dataFlashChecksum blockData = complement blockData.get := by
  rw [Bq27742G1.dataFlashChecksum, ByteSum.foldl_toList, ByteSum.complement_eq, complement]

/-- The gauge after a block has been read. -/
def examined (gauge : Gauge) (subclass block : UInt8) : Gauge :=
  { gauge.choose subclass block with selected := regBlockDataChecksum }

/-- Reading a block returns the bytes that arrive, and whether their checksum is the block's. -/
theorem ensures_readDataFlashBlock (subclass block : UInt8) {post : Gauge → Bool × Block → Prop}
    (read : ∀ blockData : Block,
      (∀ i, blockData.get i = wires.fromGauge i ((gauge.flash subclass block).get i)) →
      post (gauge.examined subclass block)
        (decide (complement (gauge.flash subclass block).get = complement blockData.get),
          blockData)) :
    (device wires).Ensures gauge (Bq27742G1.readDataFlashBlock subclass block) post := by
  refine Device.ensures_bind.mpr (ensures_selectBlock _ _ ?_)
  refine Device.ensures_bind.mpr (ensures_readBytes _ _ fun blockData arrives => ?_)
  refine Device.ensures_bind.mpr (ensures_readBytes _ _ fun checksum complements => ?_)
  have bytes (i : Fin dfBlockLen) :
      blockData.get i = wires.fromGauge i ((gauge.flash subclass block).get i) := by
    refine arrives i _ ?_
    obtain ⟨inside, same⟩ := inBlock_at i
    rw [register?, if_pos inside, same]
    rfl
  have sum : checksum.get 0 = complement (gauge.flash subclass block).get := complements 0 _ rfl
  have result := read blockData bytes
  refine Device.ensures_ite.mpr ?_
  rw [sum, dataFlashChecksum_eq]
  split_ifs with mismatch
  · rw [decide_eq_false mismatch] at result
    exact ⟨fun _ _ => result⟩
  · rw [decide_eq_true (not_not.mp mismatch)] at result
    exact result

/-! ## Writing a block -/

/-- Bytes written to the block area are staged as they arrive. -/
theorem storeAll_staged (first : Nat) (values : List UInt8)
    (room : first + values.length ≤ dfBlockLen) :
    gauge.storeAll wires (regBlockData + UInt8.ofNat first) values =
      { gauge with
        staged := fun i =>
          if first ≤ i.val ∧ i.val < first + values.length then
            wires.toGauge i (values.getD (i.val - first) 0)
          else gauge.staged i
        writes := gauge.writes + values.length } := by
  induction values generalizing first gauge with
  | nil =>
    have none (i : Fin dfBlockLen) : ¬ (first ≤ i.val ∧ i.val < first + 0) := by omega
    simp only [storeAll, List.length_nil, if_neg (none _)]
    rfl
  | cons value values ih =>
    rw [List.length_cons] at room
    have inside : first < dfBlockLen := by omega
    have following : regBlockData + UInt8.ofNat first + 1 =
        regBlockData + UInt8.ofNat (first + 1) := by
      rw [UInt8.ofNat_add, UInt8.add_assoc]
      rfl
    rw [storeAll, following, store_staged ⟨first, inside⟩, ih (first + 1) (by omega)]
    simp only [Gauge.mk.injEq, true_and, List.length_cons]
    refine ⟨funext fun i => ?_, by omega⟩
    by_cases here : i = ⟨first, inside⟩
    · subst here
      simp
    · have apart : i.val ≠ first := fun same => here (Fin.ext same)
      rw [Function.update_of_ne here]
      by_cases later : first ≤ i.val ∧ i.val < first + (values.length + 1)
      · have shift : i.val - first = (i.val - (first + 1)) + 1 := by omega
        rw [if_pos later, if_pos (by omega), shift, List.getD_cons_succ]
      · rw [if_neg later, if_neg (by omega)]

/-- A whole block is staged as it arrives. -/
theorem storeAll_block (blockData : Block) :
    gauge.storeAll wires regBlockData blockData.toList =
      { gauge with
        staged := fun i => wires.toGauge i (blockData.get i)
        writes := gauge.writes + dfBlockLen } := by
  have room : 0 + blockData.toList.length ≤ dfBlockLen := by simp
  have staged : gauge.storeAll wires regBlockData blockData.toList = _ :=
    storeAll_staged 0 blockData.toList room
  rw [staged]
  simp only [Gauge.mk.injEq, true_and, Vector.length_toList, and_true]
  funext i
  rw [if_pos ⟨Nat.zero_le _, by omega⟩]
  simp [Vector.get]

/-- The gauge after a block has been written, when its staged bytes arrived as given. -/
def written (wires : Wires) (gauge : Gauge) (subclass block : UInt8) (blockData : Block) : Gauge :=
  let arrived : Fin dfBlockLen → UInt8 := fun i => wires.toGauge i (blockData.get i)
  { gauge.choose subclass block with
    selected := regBlockDataChecksum
    staged := arrived
    flash := if complement blockData.get = complement arrived then
        fun other number =>
          if other = subclass ∧ number = block then .ofFn arrived else gauge.flash other number
      else gauge.flash
    writes := gauge.writes + dfBlockLen + 1 }

/-- Writing a block stages it and offers its checksum. -/
theorem ensures_writeDataFlashBlock (subclass block : UInt8) (blockData : Block)
    {post : Gauge → Unit → Prop} (holds : post (gauge.written wires subclass block blockData) ()) :
    (device wires).Ensures gauge (Bq27742G1.writeDataFlashBlock subclass block blockData) post := by
  refine Device.ensures_bind.mpr (ensures_selectBlock _ _ ?_)
  refine Device.ensures_bind.mpr (ensures_write ?_)
  refine ensures_writeByte _ _ ?_
  rw [transfer, storeAll_block, dataFlashChecksum_eq]
  exact holds

/-! ## Returning -/

/-- On a bus that does not fail, selecting a block returns. -/
theorem selectBlock_finishes (subclass block : UInt8) :
    (Bq27742G1.selectBlock subclass block).Finishes Op.Acknowledged :=
  (i2cWriteErrorHandling_finishes _ _ _ _).bind fun _ =>
    (i2cWriteErrorHandling_finishes _ _ _ _).bind fun _ =>
      (i2cWriteErrorHandling_finishes _ _ _ _).bind fun _ => .act ⟨(), trivial⟩

/-- On a bus that does not fail, reading registers returns. -/
theorem readBytes_finishes (command : UInt8) (len : Nat) :
    (Bq27742G1.readBytes command len).Finishes Op.Acknowledged :=
  (i2cWriteErrorHandling_finishes _ _ _ _).bind fun _ => i2cReadErrorHandling_finishes _ _ _ _

/-- On a bus that does not fail, reading a block returns. -/
theorem readDataFlashBlock_finishes (subclass block : UInt8) :
    (Bq27742G1.readDataFlashBlock subclass block).Finishes Op.Acknowledged := by
  refine (selectBlock_finishes subclass block).bind fun _ => (readBytes_finishes _ _).bind fun _ =>
    (readBytes_finishes _ _).bind fun _ => .ite ?_ trivial
  exact ⟨⟨(), trivial⟩, fun _ _ => trivial⟩

/-- On a bus that does not fail, writing a block returns. -/
theorem writeDataFlashBlock_finishes (subclass block : UInt8) (blockData : Block) :
    (Bq27742G1.writeDataFlashBlock subclass block blockData).Finishes Op.Acknowledged :=
  (selectBlock_finishes subclass block).bind fun _ =>
    (i2cWriteErrorHandling_finishes _ _ _ _).bind fun _ => i2cWriteErrorHandling_finishes _ _ _ _

/-- The gauge can acknowledge every transfer. -/
theorem gives_acknowledged (gauge : Gauge) (op : Op) (possible : ∃ answer, op.Acknowledged answer) :
    ∃ answer, op.Acknowledged answer ∧ gives wires gauge op answer := by
  cases op with
  | i2cReadTimeoutUs i2c addr len nostop =>
    cases i2c with
    | i2c0 =>
      refine ⟨((0 : Int), .ofFn fun i : Fin len =>
        (gauge.register? wires (gauge.selected + UInt8.ofNat i)).getD 0), Int.le_refl 0, ?_⟩
      rintro _ _ i value known
      have entry (f : Fin len → UInt8) : (Vector.ofFn f).get i = f i := Vector.getElem_ofFn i.isLt
      rw [entry, known, Option.getD_some]
    | i2c1 => exact ⟨((0 : Int), .replicate len 0), Int.le_refl 0, trivial⟩
  | _ =>
    obtain ⟨answer, acknowledged⟩ := possible
    exact ⟨answer, acknowledged, trivial⟩

/-- Wires that change nothing. -/
def Wires.faithful (command : (UInt8 → UInt8 → Block) → UInt8 → Option UInt8) : Wires :=
  ⟨fun _ byte => byte, fun _ byte => byte, command⟩

/-- Two blocks with the same bytes are the same. -/
theorem block_ext {first second : Block} (same : ∀ i, first.get i = second.get i) :
    first = second := Vector.ext fun i inside => same ⟨i, inside⟩

/-- Over faithful wires a written block is committed as it is, and no other block changes. -/
theorem written_flash {command : (UInt8 → UInt8 → Block) → UInt8 → Option UInt8}
    (subclass block : UInt8) (blockData : Block) :
    (gauge.written (.faithful command) subclass block blockData).flash =
      fun other number =>
        if other = subclass ∧ number = block then blockData else gauge.flash other number := by
  have whole : Vector.ofFn (fun i => blockData.get i) = blockData :=
    block_ext fun i => Vector.getElem_ofFn i.isLt
  change (if complement blockData.get = complement blockData.get then _ else _) = _
  rw [if_pos rfl]
  exact congrArg (fun block' other number =>
    if other = subclass ∧ number = block then block' else gauge.flash other number) whole

/-- Over faithful wires a read returns the block, and its checksum passes. -/
theorem ensures_readDataFlashBlock_faithful
    {command : (UInt8 → UInt8 → Block) → UInt8 → Option UInt8} (subclass block : UInt8)
    {post : Gauge → Bool × Block → Prop}
    (read : post (gauge.examined subclass block) (true, gauge.flash subclass block)) :
    (device (.faithful command)).Ensures gauge (Bq27742G1.readDataFlashBlock subclass block)
        post := by
  refine ensures_readDataFlashBlock _ _ fun blockData bytes => ?_
  obtain rfl : blockData = gauge.flash subclass block := block_ext bytes
  rwa [decide_eq_true rfl]

/-- When one byte arrives changed, the block is refused. -/
theorem ensures_read_changed (subclass block : UInt8)
    (changed : DifferAtOne (gauge.flash subclass block).get
      fun i => wires.fromGauge i ((gauge.flash subclass block).get i)) :
    (device wires).Ensures gauge (Bq27742G1.readDataFlashBlock subclass block)
      fun _ result => result.1 = false := by
  refine ensures_readDataFlashBlock _ _ fun blockData bytes => decide_eq_false fun same => ?_
  rw [← funext bytes] at changed
  exact changed.sum_ne (ByteSum.complement_inj same)

/-- When one byte is staged changed, the gauge commits nothing. -/
theorem ensures_write_changed (subclass block : UInt8) (blockData : Block)
    (changed : DifferAtOne blockData.get fun i => wires.toGauge i (blockData.get i)) :
    (device wires).Ensures gauge (Bq27742G1.writeDataFlashBlock subclass block blockData)
      fun final _ => final.flash = gauge.flash :=
  ensures_writeDataFlashBlock _ _ _
    (if_neg fun same => changed.sum_ne (ByteSum.complement_inj same))

end Gauge

open Gauge (device)

/-- From every state of the gauge, a block that is written is read back, and the other blocks
stay. When exactly one byte of a block changes on the way, reading the block reports a failure,
and the gauge does not take a written block. -/
theorem data_flash_round_trip (gauge : Gauge)
    (command : (UInt8 → UInt8 → Block) → UInt8 → Option UInt8) (subclass block : UInt8)
    (blockData : Block) :
    (device (.faithful command)).Returns gauge
      (do
        Bq27742G1.writeDataFlashBlock subclass block blockData
        Bq27742G1.readDataFlashBlock subclass block)
      (fun final result => result = (true, blockData) ∧ final.flash subclass block = blockData ∧
        ∀ other number, ¬ (other = subclass ∧ number = block) →
          final.flash other number = gauge.flash other number) ∧
    (∀ toGauge fromGauge : Fin dfBlockLen → UInt8 → UInt8,
      DifferAtOne (gauge.flash subclass block).get
          (fun i => fromGauge i ((gauge.flash subclass block).get i)) →
        (device ⟨toGauge, fromGauge, command⟩).Returns gauge
          (Bq27742G1.readDataFlashBlock subclass block) fun _ result => result.1 = false) ∧
    ∀ toGauge fromGauge : Fin dfBlockLen → UInt8 → UInt8,
      DifferAtOne blockData.get (fun i => toGauge i (blockData.get i)) →
        (device ⟨toGauge, fromGauge, command⟩).Returns gauge
          (Bq27742G1.writeDataFlashBlock subclass block blockData)
          fun final _ => final.flash = gauge.flash := by
  refine ⟨?_, fun toGauge fromGauge changed => ?_, fun toGauge fromGauge changed => ?_⟩
  · refine Device.returns_of_finishes
      ((Gauge.writeDataFlashBlock_finishes _ _ _).bind fun _ =>
          Gauge.readDataFlashBlock_finishes _ _)
      Gauge.gives_acknowledged ?_
    refine Device.ensures_bind.mpr (Gauge.ensures_writeDataFlashBlock _ _ _ ?_)
    refine Gauge.ensures_readDataFlashBlock_faithful _ _ ?_
    have flash : (gauge.written (.faithful command) subclass block blockData).flash = _ :=
      Gauge.written_flash subclass block blockData
    have here := congrFun (congrFun flash subclass) block
    rw [if_pos ⟨rfl, rfl⟩] at here
    refine ⟨congrArg (Prod.mk true) here, here, fun other number apart => ?_⟩
    have elsewhere := congrFun (congrFun flash other) number
    rwa [if_neg apart] at elsewhere
  · exact Device.returns_of_finishes (Gauge.readDataFlashBlock_finishes _ _)
      Gauge.gives_acknowledged (Gauge.ensures_read_changed _ _ changed)
  · exact Device.returns_of_finishes (Gauge.writeDataFlashBlock_finishes _ _ _)
      Gauge.gives_acknowledged (Gauge.ensures_write_changed _ _ _ changed)

/-- A gauge whose data flash is empty. -/
def Gauge.fresh : Gauge := ⟨0, 0, 0, fun _ => 0, fun _ _ => .replicate dfBlockLen 0, 0⟩

/-- A bit of the sixth byte is flipped. -/
def flipBit (i : Fin dfBlockLen) (byte : UInt8) : UInt8 := if i.val = 5 then byte ^^^ 4 else byte

/-- The flipped bit is noticed in both directions. -/
theorem data_flash_round_trip_flipBit :
    (device ⟨flipBit, flipBit, fun _ _ => none⟩).Returns .fresh
        (Bq27742G1.readDataFlashBlock 64 0) (fun _ result => result.1 = false) ∧
      (device ⟨flipBit, flipBit, fun _ _ => none⟩).Returns .fresh
        (Bq27742G1.writeDataFlashBlock 64 0 (.replicate dfBlockLen 7))
        (fun final _ => final.flash = Gauge.fresh.flash) := by
  obtain ⟨_, reading, writing⟩ :=
    data_flash_round_trip .fresh (fun _ _ => none) 64 0 (.replicate dfBlockLen 7)
  exact ⟨reading flipBit flipBit ⟨5, by decide, by decide⟩,
    writing flipBit flipBit ⟨5, by decide, by decide⟩⟩

end RobotFirmware
