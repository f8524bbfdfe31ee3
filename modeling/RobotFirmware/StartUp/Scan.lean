import RobotFirmware.StartUp.OnStart

/-!
# Looking for devices

`i2c_scan` asks every address once and returns the list of those where a device answers, closed by
a zero, in a block that it never leaves.
-/

namespace RobotFirmware.StartUp

open Interaction

/-! ## What the bus shows -/

/-- An address that is asked, and whether a device answers. -/
def probe? : (op : StartOp) → StartAns op → Option (UInt8 × Bool)
  | .i2cReadBlocking _ address _ _, answer => some (address, decide (0 < answer.1))
  | _, _ => none

/-- The addresses asked in a trace. -/
def probes (trace : List (Event StartAns)) : List (UInt8 × Bool) :=
  trace.filterMap fun event => probe? event.op event.answer

/-- The addresses at which a device answers. -/
def answering (probes : List (UInt8 × Bool)) : List UInt8 := (probes.filter Prod.snd).map Prod.fst

/-- No more devices answer than are asked. -/
theorem answering_length (probes : List (UInt8 × Bool)) :
    (answering probes).length ≤ probes.length := by
  rw [answering, List.length_map]
  exact List.length_filter_le _ _

/-- They are among those that are asked, in their order. -/
theorem answering_sublist (probes : List (UInt8 × Bool)) :
    (answering probes).Sublist (probes.map Prod.fst) := List.filter_sublist.map Prod.fst

/-- One more address is asked. -/
theorem answering_append (probes : List (UInt8 × Bool)) (address : UInt8) (answers : Bool) :
    answering (probes ++ [(address, answers)]) =
      answering probes ++ if answers then [address] else [] := by
  cases answers <;> simp [answering]

/-! ## The loop -/

/-- A pause, or a read of one byte on the bus. -/
def Asking (i2c : I2c) (op : StartOp) : Prop :=
  op = .platform (.sleepMs 10) ∨ ∃ address, op = .i2cReadBlocking i2c address 1 false

/-- Watch which addresses are asked on a bus. -/
abbrev scanning (i2c : I2c) : Monitor StartAns := .noting probe? fun _ => Asking i2c

/-- A block that begins with some values. -/
def Begins (block : Vector UInt8 maxDevices) (found : List UInt8)
    (foundAddresses : Vector UInt8 maxDevices) : Prop :=
  foundAddresses.toList = found ++ block.toList.drop found.length

/-- The next value is stored behind them. -/
theorem Begins.set {block foundAddresses : Vector UInt8 maxDevices} {found : List UInt8}
    (begins : Begins block found foundAddresses) (room : found.length < maxDevices)
        (value : UInt8) :
    Begins block (found ++ [value]) (foundAddresses.set found.length value) := by
  have inside : found.length < block.toList.length := by simpa using room
  unfold Begins at *
  rw [Vector.toList_set, begins, List.set_append_right _ _ (Nat.le_refl _), Nat.sub_self,
    List.drop_eq_getElem_cons inside, List.set_cons_zero]
  simp

/-- What the loop has established after some addresses. -/
structure Scanned (block : Vector UInt8 maxDevices) (asked : List UInt8)
    (noted : List (UInt8 × Bool)) (scan : Scan) : Prop where
  /-- Each address was asked once. -/
  asked : noted.map Prod.fst = asked
  /-- The answers are counted. -/
  count : scan.count.toNat = (answering noted).length
  /-- The block begins with them. -/
  found : Begins block (answering noted) scan.foundAddresses

variable {i2c : I2c} {block : Vector UInt8 maxDevices} {asked : List UInt8}
  {noted : List (UInt8 × Bool)} {scan : Scan}

/-- There is a place left in the block as long as fewer addresses were asked than it holds. -/
theorem Scanned.room (scanned : Scanned block asked noted scan) (few : asked.length < maxDevices) :
    (answering noted).length < maxDevices := by
  have short := answering_length noted
  have same : noted.length = asked.length := by rw [← scanned.asked, List.length_map]
  omega

/-- A value is stored where the count says, inside the block. -/
theorem Scanned.store (scanned : Scanned block asked noted scan) (few : asked.length < maxDevices)
    (seen : List (UInt8 × Bool)) (value : UInt8) :
    (scanning i2c).Guards seen (scan.store value) fun final stored =>
      final = seen ∧ Begins block (answering noted ++ [value]) stored := by
  have room := scanned.room few
  have inside : scan.count.toNat < maxDevices := scanned.count ▸ room
  rw [Scan.store, dif_pos inside]
  have begins := scanned.found.set room value
  simp only [← scanned.count] at begins ⊢
  exact ⟨rfl, begins⟩

/-- One round asks one more address. -/
theorem scanRound_scans (scanned : Scanned block asked noted scan)
    (few : asked.length < maxDevices) (address : UInt8) :
    (scanning i2c).Guards noted (scanRound i2c scan address)
      (Scanned block (asked ++ [address])) := by
  refine ⟨.inl rfl, fun _ => ⟨.inr ⟨address, rfl⟩, fun (result, rxdata) => ?_⟩⟩
  have slept : (scanning i2c).next noted (.platform (.sleepMs 10)) () = noted :=
    List.append_nil noted
  have once (answers : Bool) :
      (noted ++ [(address, answers)]).map Prod.fst = asked ++ [address] := by
    rw [List.map_append, scanned.asked]
    rfl
  have room : (answering noted).length < 128 := scanned.room few
  rw [slept]
  refine .branch (fun answered => ?_) fun silent => ?_
  · have next : (scanning i2c).next noted (.i2cReadBlocking i2c address 1 false)
        (result, rxdata) = noted ++ [(address, true)] := by
      simp [probe?, answered]
    have more : answering (noted ++ [(address, true)]) = answering noted ++ [address] :=
      answering_append noted address true
    have count : (scan.count + 1).toNat = (answering noted).length + 1 := by
      have counted := scanned.count
      rw [UInt8.toNat_add, counted]
      exact Nat.mod_eq_of_lt (by simp only [UInt8.toNat_one]; omega)
    rw [next]
    refine Monitor.guards_bind.mpr ((scanned.store few _ address).mono ?_)
    rintro final stored ⟨rfl, begins⟩
    exact ⟨once true, by rw [more, count, List.length_append, List.length_singleton],
      more ▸ begins⟩
  · have next : (scanning i2c).next noted (.i2cReadBlocking i2c address 1 false)
        (result, rxdata) = noted ++ [(address, false)] := by
      simp [probe?, silent]
    have same : answering (noted ++ [(address, false)]) = answering noted := by
      rw [answering_append]
      exact List.append_nil _
    rw [next]
    exact ⟨once false, same ▸ scanned.count, same ▸ scanned.found⟩

/-- The addresses leave a place for the zero. -/
theorem scannedAddresses_length : scannedAddresses.length < maxDevices := by
  rw [scannedAddresses, List.length_map, List.length_range]
  decide

/-- None of them is zero. -/
theorem scannedAddresses_ne_zero : ∀ address ∈ scannedAddresses, address ≠ 0 := by
  decide +kernel

/-- The whole scan asks every address once and lists those that answer. -/
theorem i2cScan_scans (i2c : I2c) (block : Vector UInt8 maxDevices) :
    (scanning i2c).Guards [] (i2cScan i2c block) fun noted found =>
      noted.map Prod.fst = scannedAddresses ∧ Begins block (answering noted ++ [0]) found := by
  have start : Scanned block [] [] ⟨block, 0⟩ := ⟨rfl, rfl, rfl⟩
  have round (done : List UInt8) (address : UInt8) (later : List UInt8)
      (noted : List (UInt8 × Bool)) (scan : Scan)
          (split : done ++ address :: later = scannedAddresses)
      (scanned : Scanned block done noted scan) :
      (scanning i2c).Guards noted (scanRound i2c scan address)
        (Scanned block (done ++ [address])) := by
    apply scanRound_scans scanned
    have whole := scannedAddresses_length
    rw [← split, List.length_append] at whole
    omega
  have loop := Monitor.guards_foldlM (m := scanning i2c) (Scanned block) round start
  refine Monitor.guards_bind.mpr (loop.mono fun noted scan scanned => ?_)
  refine (scanned.store scannedAddresses_length noted 0).mono ?_
  rintro final found ⟨rfl, begins⟩
  exact ⟨scanned.asked, begins⟩

/-- It only pauses and reads. -/
theorem i2cScan_asks (i2c : I2c) (block : Vector UInt8 maxDevices) :
    (i2cScan i2c block).Within (Asking i2c) :=
  Program.within_of_guards (i2cScan_scans i2c block) fun _ _ asks => asks

/-- A reader that stops at the zero reads the list before it. -/
theorem takeWhile_closed {found : List UInt8} (listed : ∀ address ∈ found, address ≠ 0)
    (rest : List UInt8) : (found ++ 0 :: rest).takeWhile (· ≠ 0) = found := by
  rw [List.takeWhile_append_of_pos (by simpa using listed)]
  simp

/-- A scan asks each address from 0x08 to 0x77 once, in ascending order, and returns the addresses
at which a device answered, closed by a zero, with the rest of its block as it was. So a reader that
stops at the zero reads exactly these addresses, and nothing is ever stored outside the block. -/
theorem i2cScan_finds {i2c : I2c} {block found : Vector UInt8 maxDevices}
    {trace : List (Event StartAns)} (run : (i2cScan i2c block).Runs trace (.done found)) :
    (probes trace).map Prod.fst = scannedAddresses ∧
      found.toList = answering (probes trace) ++ 0 ::
        block.toList.drop ((answering (probes trace)).length + 1) ∧
      found.toList.takeWhile (· ≠ 0) = answering (probes trace) ∧
      ∀ event ∈ trace, Asking i2c event.op := by
  have ends := (i2cScan_scans i2c block).ends run
  rw [Monitor.noting_after, List.nil_append] at ends
  obtain ⟨asked, begins⟩ := ends
  have whole : found.toList = answering (probes trace) ++ 0 ::
      block.toList.drop ((answering (probes trace)).length + 1) := by
    have begins : found.toList = answering (probes trace) ++ [0] ++ block.toList.drop
        (answering (probes trace) ++ [0]).length := begins
    rw [begins, List.length_append, List.append_assoc]
    rfl
  have listed : ∀ address ∈ answering (probes trace), address ≠ 0 := by
    intro address answered
    apply scannedAddresses_ne_zero
    rw [← asked]
    exact (answering_sublist _).subset answered
  have asks := ((i2cScan_asks i2c block).run run).1
  exact ⟨asked, whole, whole ▸ takeWhile_closed listed _, asks⟩

/-- The devices on the first bus answer. -/
def devicesAnswer : Unit → (op : StartOp) → Option (StartAns op × Unit)
  | _, .platform (.sleepMs _) => some ((), ())
  | _, .i2cReadBlocking _ address len _ =>
    let present := address ∈ [Bq27742G1.addr, Drv8830.Motor.left.address,
      Drv8830.Motor.right.address]
    some ((if present then len else -1, .replicate len 0), ())
  | _, _ => none

/-- The scan of the first bus. -/
def firstScan : Starting (Vector UInt8 maxDevices) := i2cScan .i2c0 (.replicate maxDevices 0xFF)

/-- The scan ends, and three devices have answered. -/
theorem firstScan_done : (firstScan.drive devicesAnswer ()).2.1.isDone = true ∧
    answering (probes (firstScan.drive devicesAnswer ()).1) =
      [Bq27742G1.addr, Drv8830.Motor.left.address, Drv8830.Motor.right.address] := by
  decide +kernel

/-- It lists the fuel gauge and the motor drivers. -/
theorem i2cScan_finds_devices :
    ((firstScan.drive devicesAnswer ()).2.1.valueD (.replicate maxDevices 0)).toList.takeWhile
      (· ≠ 0) = [Bq27742G1.addr, Drv8830.Motor.left.address, Drv8830.Motor.right.address] := by
  have run := Program.drive_runs devicesAnswer () firstScan
  rw [Program.eq_done_valueD firstScan_done.1 (.replicate maxDevices 0)] at run
  have finds := i2cScan_finds run
  rw [finds.2.2.1, firstScan_done.2]

end RobotFirmware.StartUp
