import RobotFirmware.Readout

/-!
# The read-out of the charger

The charger answers a read that succeeds with its registers, from the one selected last on. What
lies behind the arrays of its driver is some memory, and each access outside an array is
recorded with its index. The read-out selects and reads four registers and then packs the four
bytes behind `send_buf`; clearing the interrupt buffer stores one byte behind it.
-/

namespace RobotFirmware

open Interaction

namespace ChargerDetails

/-- Four bytes packed most significant first. -/
def packed (byte0 byte1 byte2 byte3 : UInt8) : UInt32 :=
  (byte0.toUInt32 <<< 24) ||| (byte1.toUInt32 <<< 16) ||| (byte2.toUInt32 <<< 8) |||
    byte3.toUInt32

/-- The charger and what has been done to the arrays. -/
structure Charger where
  /-- The register that is read next. -/
  selected : UInt8
  /-- The accesses outside an array. -/
  outside : List Nat

namespace Charger

/-- A read that succeeds returns the registers, and a read behind an array what lies there. -/
def gives (registers : UInt8 → UInt8) (memory : Nat → UInt8) (charger : Charger) :
    (op : Op) → Ans op → Prop
  | .i2cReadTimeoutUs .i2c1 addr len _, answer =>
    addr = Max77976.addr → 0 ≤ answer.1 → ∀ i : Fin len,
      answer.2.get i = registers (charger.selected + UInt8.ofNat i)
  | .strayRead index, byte => byte = memory index
  | _, _ => True

/-- What an answered operation selects or accesses. -/
def next (charger : Charger) : (op : Op) → Ans op → Charger
  | .i2cWriteTimeoutUs .i2c1 addr (reg :: _) _, result =>
    if addr = Max77976.addr ∧ 0 ≤ result then { charger with selected := reg } else charger
  | .strayRead index, _ => { charger with outside := charger.outside ++ [index] }
  | .strayStore index, _ => { charger with outside := charger.outside ++ [index] }
  | _, _ => charger

/-- The charger with the given registers, before the given memory. -/
abbrev device (registers : UInt8 → UInt8) (memory : Nat → UInt8) : Device Ans :=
  ⟨Charger, gives registers memory, next⟩

variable {registers : UInt8 → UInt8} {memory : Nat → UInt8} {charger : Charger} {α : Type}

/-- The accesses outside an array are those of the trace. -/
theorem after_outside (charger : Charger) (trace : List (Event Ans)) :
    ((device registers memory).after charger trace).outside = charger.outside ++ strays trace := by
  induction trace generalizing charger with
  | nil => simp [Device.after, strays]
  | cons event trace ih =>
    have moved : (charger.next event.op event.answer).outside =
        charger.outside ++ event.op.outside?.toList := by
      obtain ⟨op, answer⟩ := event
      cases op with
      | i2cWriteTimeoutUs i2c addr src nostop =>
        cases i2c <;> cases src <;> simp [next, Op.outside?, apply_ite Charger.outside]
      | _ => simp [next, Op.outside?]
    have split : strays (event :: trace) = event.op.outside?.toList ++ strays trace := by
      rw [strays, List.filterMap_cons]
      cases event.op.outside? <;> rfl
    rw [split, ← List.append_assoc, ← moved]
    exact ih _

/-- Routine operations select nothing and stay inside the arrays. -/
theorem ignores_routine : (device registers memory).Ignores Op.Routine := by
  intro charger op answer routine
  cases op <;> first | rfl | exact routine.elim

/-- A message changes nothing. -/
theorem ensures_log (format : String) (args : List LogArg) {next : Unit → Firmware α}
    {post : Charger → α → Prop} (goes : (device registers memory).Ensures charger (next ()) post) :
    (device registers memory).Ensures charger (rp2040Log format args >>= next) post :=
  ⟨fun _ _ => goes⟩

/-- One exchange returns the register that it selects. -/
theorem ensures_readDetail (reg : UInt8) {post : Charger → UInt8 → Prop}
    (holds : post { charger with selected := reg } (registers reg)) :
    (device registers memory).Ensures charger (Max77976.readDetail reg) post := by
  refine Device.ensures_bind.mpr (ensures_i2cWriteErrorHandling ignores_routine
    (fun result failed => ?_) fun result written => ?_)
  · simp [next, Int.not_le.mpr failed]
  · have selects : charger.next (.i2cWriteTimeoutUs .i2c1 Max77976.addr [reg] true) result =
        { charger with selected := reg } := by simp [next, written]
    change (device registers memory).Ensures
      (charger.next (.i2cWriteTimeoutUs .i2c1 Max77976.addr [reg] true) result) _ post
    rw [selects]
    refine Device.ensures_bind.mpr (ensures_i2cReadErrorHandling ignores_routine
      (fun _ _ _ => rfl) fun result bytes success given => ?_)
    have first : bytes.get ⟨0, Nat.zero_lt_one⟩ = registers reg :=
      (given rfl success ⟨0, Nat.zero_lt_one⟩).trans (congrArg registers (UInt8.add_zero reg))
    exact first ▸ holds

/-- The switch over `BYP_DTLS` changes nothing. -/
theorem ensures_logBypDtls (bypDtls : UInt8) {next : Unit → Firmware α}
    {post : Charger → α → Prop} (goes : (device registers memory).Ensures charger (next ()) post) :
    (device registers memory).Ensures charger (Max77976.logBypDtls bypDtls >>= next) post := by
  unfold Max77976.logBypDtls
  split
  · exact ensures_log _ _ goes
  · exact goes

/-- `max77976_get_chg_details` reads the four registers, and packs what lies behind `send_buf`. -/
theorem ensures_getChgDetails : (device registers memory).Ensures charger Max77976.getChgDetails
    fun final word => final.outside = charger.outside ++ [4, 5, 6, 7] ∧
      word = packed (memory 4) (memory 5) (memory 6) (memory 7) := by
  refine Device.ensures_bind.mpr (ensures_readDetail 0x13 ?_)
  iterate 4 refine ensures_log _ _ ?_
  refine Device.ensures_bind.mpr (ensures_readDetail 0x14 ?_)
  iterate 10 refine ensures_log _ _ ?_
  refine Device.ensures_bind.mpr (ensures_readDetail 0x15 (ensures_log _ _ ?_))
  refine ensures_logBypDtls _ (ensures_log _ _ ?_)
  refine Device.ensures_bind.mpr (ensures_readDetail 0x16 (ensures_log _ _ ?_))
  refine ⟨fun b4 at4 => ⟨fun b5 at5 => ⟨fun b6 at6 => ⟨fun b7 at7 => ?_⟩⟩⟩⟩
  obtain rfl : b4 = memory 4 := at4
  obtain rfl : b5 = memory 5 := at5
  obtain rfl : b6 = memory 6 := at6
  obtain rfl : b7 = memory 7 := at7
  exact ⟨by simp [next], rfl⟩

/-- `max77976_get_interrupt_vals` clears one byte behind the interrupt buffer. -/
theorem ensures_getInterruptVals :
    (device registers memory).Ensures charger Max77976.getInterruptVals fun final _ =>
      final.outside = charger.outside ++ [3] := by
  refine Device.ensures_bind.mpr (Device.ensures_act.mpr fun _ _ => ?_)
  refine Device.ensures_bind.mpr (ensures_i2cWriteErrorHandling ignores_routine
    (fun result failed => ?_) fun result written => ?_)
  · simp [next, Int.not_le.mpr failed]
  · refine Device.ensures_bind.mpr (ensures_i2cReadErrorHandling ignores_routine
      (fun _ _ _ => rfl) fun _ _ _ _ => ensures_log _ _ ?_)
    simp [next, written]

/-- `max77976_parse_interrupt_vals` does, too. -/
theorem ensures_parseInterruptVals :
    (device registers memory).Ensures charger Max77976.parseInterruptVals fun final _ =>
      final.outside = charger.outside ++ [3] := by
  refine Device.ensures_bind.mpr (ensures_getInterruptVals.mono fun reached buf outside => ?_)
  have log {bit : UInt8} {detected set clear : String} {rest : Firmware Int32}
      (goes : (device registers memory).Ensures reached rest fun final _ =>
        final.outside = charger.outside ++ [3]) :
      (device registers memory).Ensures reached
        (Max77976.logInterrupt buf bit detected set clear >>= fun _ => rest) fun final _ =>
          final.outside = charger.outside ++ [3] := by
    have routine : (Max77976.logInterrupt buf bit detected set clear).Within Op.Routine :=
      .ite ⟨trivial, fun _ => .ite ⟨trivial, fun _ => trivial⟩ ⟨trivial, fun _ => trivial⟩⟩ trivial
    exact Device.ensures_bind.mpr (ignores_routine.ensures routine fun _ => goes)
  iterate 7 refine log ?_
  rw [Max77976.noteNoInterrupt]
  refine Device.ensures_bind.mpr (Device.ensures_ite.mpr ?_)
  split
  · exact ⟨fun _ _ => outside⟩
  · exact outside

/-! ## Runs of the read-out -/

/-- A message is no obstacle. -/
theorem finishes_log (format : String) (args : List LogArg) {next : Unit → Firmware α}
    (goes : (next ()).Finishes Op.Acknowledged) :
    (rp2040Log format args >>= next).Finishes Op.Acknowledged :=
  ⟨⟨(), trivial⟩, fun _ _ => goes⟩

/-- Reading the interrupt registers returns when no transfer fails. -/
theorem getInterruptVals_finishes : Max77976.getInterruptVals.Finishes Op.Acknowledged :=
  ⟨⟨(), trivial⟩, fun _ _ => (i2cWriteErrorHandling_finishes _ _ _ _).bind fun _ =>
    (i2cReadErrorHandling_finishes _ _ _ _).bind fun _ => finishes_log _ _ trivial⟩

/-- Handling a charger interrupt returns when no transfer fails. -/
theorem parseInterruptVals_finishes : Max77976.parseInterruptVals.Finishes Op.Acknowledged := by
  refine getInterruptVals_finishes.bind fun buf => ?_
  have log (bit : UInt8) (detected set clear : String) :
      (Max77976.logInterrupt buf bit detected set clear).Finishes Op.Acknowledged :=
    .ite (finishes_log _ _ (.ite ⟨⟨(), trivial⟩, fun _ _ => trivial⟩
      ⟨⟨(), trivial⟩, fun _ _ => trivial⟩)) trivial
  iterate 7 refine (log _ _ _ _).bind fun _ => ?_
  have noted : (Max77976.noteNoInterrupt buf).Finishes Op.Acknowledged :=
    .ite ⟨⟨(), trivial⟩, fun _ _ => trivial⟩ trivial
  exact noted.bind fun _ => trivial

/-- On a bus where no transfer fails the charger has an answer. -/
theorem gives_acknowledged (charger : Charger) (op : Op)
    (some : ∃ answer, op.Acknowledged answer) :
    ∃ answer, op.Acknowledged answer ∧ gives registers memory charger op answer := by
  obtain ⟨answer, acknowledged⟩ := some
  cases op with
  | i2cReadTimeoutUs i2c addr len nostop =>
    let bytes : Vector UInt8 len := .ofFn fun i => registers (charger.selected + UInt8.ofNat i)
    refine ⟨((0 : Int), bytes), Int.le_refl 0, ?_⟩
    cases i2c with
    | i2c0 => trivial
    | i2c1 =>
      intro _ _ i
      exact Vector.getElem_ofFn i.isLt
  | strayRead index => exact ⟨memory index, trivial, rfl⟩
  | _ => exact ⟨answer, acknowledged, trivial⟩

/-- The program can return, and every complete run of it accesses just the given places outside
the arrays. -/
def Strays (registers : UInt8 → UInt8) (memory : Nat → UInt8) (charger : Charger)
    (program : Firmware α) (indices : List Nat) : Prop :=
  (∃ trace value, program.Runs trace (.done value) ∧
    (device registers memory).Serves charger trace) ∧
  ∀ trace value, program.Runs trace (.done value) →
    (device registers memory).Serves charger trace → strays trace = indices

/-- What a program ensures of the accesses shows in its runs. -/
theorem strays_of_ensures {program : Firmware α} {indices : List Nat}
    (finishes : program.Finishes Op.Acknowledged)
    (ensures : (device registers memory).Ensures charger program fun final _ =>
      final.outside = charger.outside ++ indices) :
    Strays registers memory charger program indices := by
  have returns := Device.returns_of_finishes finishes gives_acknowledged ensures
  refine ⟨returns.can, fun trace value run serves => ?_⟩
  have outside := returns.ends trace value run serves
  rw [after_outside] at outside
  exact List.append_cancel_left outside

/-- What the state reply should carry, and where the driver should stay, for the given registers. -/
structure Faithful (registers : UInt8 → UInt8) : Prop where
  /-- The word is the four registers, packed. -/
  word : ∀ memory charger trace word, Max77976.getChgDetails.Runs trace (.done word) →
    (device registers memory).Serves charger trace →
    word = packed (registers 0x13) (registers 0x14) (registers 0x15) (registers 0x16)
  /-- The state carries it. -/
  reported : ∀ robot memory charger trace state, (getChargerState robot).Runs trace (.done state) →
    (device registers memory).Serves charger trace → state.chargeSideUSB.max77976ChgDetails =
      packed (registers 0x13) (registers 0x14) (registers 0x15) (registers 0x16)
  /-- The read-out stays inside its arrays. -/
  details : ∀ memory charger trace rest, Max77976.getChgDetails.Runs trace rest →
    (device registers memory).Serves charger trace → strays trace = []
  /-- Reading the interrupt registers does. -/
  interruptVals : ∀ memory charger trace rest, Max77976.getInterruptVals.Runs trace rest →
    (device registers memory).Serves charger trace → strays trace = []
  /-- Handling an interrupt does. -/
  parsed : ∀ memory charger trace rest, Max77976.parseInterruptVals.Runs trace rest →
    (device registers memory).Serves charger trace → strays trace = []

/-- The read-out always leaves `send_buf`. -/
theorem getChgDetails_strays (registers : UInt8 → UInt8) (memory : Nat → UInt8)
    (charger : Charger) :
    Strays registers memory charger Max77976.getChgDetails [4, 5, 6, 7] :=
  strays_of_ensures composes_finishes.getChgDetails
    (ensures_getChgDetails.mono fun _ _ ends => ends.1)

/-- Programs that stray are not faithful. -/
theorem Strays.not_inside {program : Firmware α} {indices : List Nat} (some : indices ≠ [])
    (strayed : Strays registers memory charger program indices) :
    ¬ ∀ trace rest, program.Runs trace rest → (device registers memory).Serves charger trace →
      strays trace = [] := by
  intro inside
  obtain ⟨⟨trace, value, run, serves⟩, every⟩ := strayed
  exact some ((every trace value run serves).symm.trans (inside trace _ run serves))

/-- Whatever the registers hold, the word is packed from the four bytes behind `send_buf`, and each
of the three functions leaves its arrays. -/
theorem details_unfaithful (registers : UInt8 → UInt8) :
    ¬ Faithful registers ∧ ∀ memory charger,
      (∀ trace word, Max77976.getChgDetails.Runs trace (.done word) →
        (device registers memory).Serves charger trace →
        word = packed (memory 4) (memory 5) (memory 6) (memory 7)) ∧
      Strays registers memory charger Max77976.getChgDetails [4, 5, 6, 7] ∧
      Strays registers memory charger Max77976.getInterruptVals [3] ∧
      Strays registers memory charger Max77976.parseInterruptVals [3] := by
  refine ⟨fun faithful => ?_, fun memory charger => ⟨fun trace word run serves => ?_, ?_, ?_, ?_⟩⟩
  · exact (getChgDetails_strays registers (fun _ => 0) ⟨0, []⟩).not_inside (List.cons_ne_nil _ _)
      (faithful.details _ _)
  · exact (ensures_getChgDetails.ends run serves).2
  · exact getChgDetails_strays registers memory charger
  · exact strays_of_ensures getInterruptVals_finishes ensures_getInterruptVals
  · exact strays_of_ensures parseInterruptVals_finishes ensures_parseInterruptVals

/-- With all registers zero the read-out leaves `send_buf`. -/
theorem details_overread : ¬ ∀ registers, Faithful registers := fun faithful =>
  (getChgDetails_strays (fun _ => 0) (fun _ => 0) ⟨0, []⟩).not_inside (List.cons_ne_nil _ _)
    ((faithful fun _ => 0).details _ _)

end Charger

end ChargerDetails

end RobotFirmware
