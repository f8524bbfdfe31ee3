import RobotFirmware.Footprint
import RobotFirmware.Interaction.Device

/-!
# Bus exchanges against a device

An exchange with error handling repeats its attempt and returns only when one has succeeded.
Against a device that a failed attempt leaves as it was, it is therefore one successful
attempt.
-/

namespace RobotFirmware

open Interaction

section Exchanges

variable {d : Device Ans} {state : d.State} {α : Type}

/-- A device that ignores routine operations moves with the first successful attempt. -/
theorem ensures_i2cAttempts {attempt : Firmware (Int × α)} {post : d.State → α → Prop}
    (ignores : d.Ignores Op.Routine)
    (attempted : d.Ensures state attempt fun final reached =>
      if 0 ≤ reached.1 then post final reached.2 else final = state) (left : Nat) :
    d.Ensures state (i2cAttempts attempt left) fun final outcome =>
      ∀ value, outcome = .ok value → post final value := by
  induction left with
  | zero =>
    refine Device.ensures_bind.mpr (attempted.mono fun final reached ended => ?_)
    refine Device.ensures_ite.mpr ?_
    split_ifs at ended ⊢ with success
    · rintro value same
      obtain rfl := Except.ok.inj same
      exact ended
    · rintro value ⟨⟩
  | succ left ih =>
    refine Device.ensures_bind.mpr (attempted.mono fun final reached ended => ?_)
    refine Device.ensures_ite.mpr ?_
    split_ifs at ended ⊢ with success
    · rintro value same
      obtain rfl := Except.ok.inj same
      exact ended
    · refine ⟨fun slept _ => ?_⟩
      rw [ignores final (.sleepMs retryDelay) slept trivial, ended]
      exact ih

/-- An exchange with error handling returns the value of an attempt that succeeded. -/
theorem ensures_i2cErrorHandling {attempt : Firmware (Int × α)} {post : d.State → α → Prop}
    (ignores : d.Ignores Op.Routine) (message : String)
    (attempted : d.Ensures state attempt fun final reached =>
      if 0 ≤ reached.1 then post final reached.2 else final = state) :
    d.Ensures state (i2cErrorHandling message attempt) post := by
  have routine {op : Op} {program : Ans op → Firmware α} {reached : d.State} (routine : op.Routine)
      (goes : ∀ answer, d.Ensures reached (program answer) post) :
      d.Ensures reached (perform op >>= program) post := by
    refine ⟨fun answer _ => ?_⟩
    rw [ignores reached op answer routine]
    exact goes answer
  refine routine trivial fun _ => Device.ensures_bind.mpr ?_
  refine (ensures_i2cAttempts ignores attempted _).mono fun final outcome ended => ?_
  cases outcome with
  | ok value => exact ended value rfl
  | error result =>
    exact routine trivial fun _ => routine trivial fun _ => routine trivial fun _ =>
      routine trivial fun impossible => Empty.elim impossible

/-- A write with error handling is one successful write. -/
theorem ensures_i2cWriteErrorHandling {i2c : I2c} {addr : UInt8} {src : List UInt8} {nostop : Bool}
    {post : d.State → Unit → Prop} (ignores : d.Ignores Op.Routine)
    (failed : ∀ result : Int, result < 0 →
      d.next state (.i2cWriteTimeoutUs i2c addr src nostop) result = state)
    (written : ∀ result : Int, 0 ≤ result →
      post (d.next state (.i2cWriteTimeoutUs i2c addr src nostop) result) ()) :
    d.Ensures state (i2cWriteErrorHandling i2c addr src nostop) post := by
  refine ensures_i2cErrorHandling ignores _ ⟨fun (result : Int) _ => ?_⟩
  change if 0 ≤ result then _ else _
  split_ifs with success
  · exact written result success
  · exact failed result (Int.not_le.mp success)

/-- A read with error handling is one successful read. -/
theorem ensures_i2cReadErrorHandling {i2c : I2c} {addr : UInt8} {len : Nat} {nostop : Bool}
    {post : d.State → Vector UInt8 len → Prop} (ignores : d.Ignores Op.Routine)
    (failed : ∀ (result : Int) (bytes : Vector UInt8 len), result < 0 →
      d.next state (.i2cReadTimeoutUs i2c addr len nostop) (result, bytes) = state)
    (obtained : ∀ (result : Int) (bytes : Vector UInt8 len), 0 ≤ result →
      d.gives state (.i2cReadTimeoutUs i2c addr len nostop) (result, bytes) →
      post (d.next state (.i2cReadTimeoutUs i2c addr len nostop) (result, bytes)) bytes) :
    d.Ensures state (i2cReadErrorHandling i2c addr len nostop) post := by
  refine ensures_i2cErrorHandling ignores _ ⟨fun answer given => ?_⟩
  obtain ⟨result, bytes⟩ : Int × Vector UInt8 len := answer
  change if 0 ≤ result then _ else _
  split_ifs with success
  · exact obtained result bytes success given
  · exact failed result bytes (Int.not_le.mp success)

/-- Entering the guarded block changes nothing that the device sees. -/
theorem completes_try {resume : Unit → Firmware α} {post : d.State → α → Prop}
    (ignores : d.Ignores Op.Routine) (free : d.gives state .cexceptionTry ()) :
    d.Completes state (perform .cexceptionTry >>= resume) post ↔
      d.Completes state (resume ()) post := by
  have entered : d.next state .cexceptionTry () = state := ignores _ _ _ trivial
  refine Device.completes_perform.trans ⟨fun both => ?_, fun completes => ⟨⟨(), free⟩, ?_⟩⟩
  · exact entered ▸ both.2 () free
  · rintro ⟨⟩ _
    exact entered.symm ▸ completes

/-- An exchange with error handling whose attempts succeed is one attempt. -/
theorem completes_i2cErrorHandling {attempt : Firmware (Int × α)} {post : d.State → α → Prop}
    (ignores : d.Ignores Op.Routine) (free : d.gives state .cexceptionTry ()) (message : String)
    (succeeds : d.Ensures state attempt fun _ reached => 0 ≤ reached.1) :
    d.Completes state (i2cErrorHandling message attempt) post ↔
      d.Completes state attempt fun final reached => post final reached.2 := by
  refine (completes_try ignores free).trans (Device.completes_bind.trans ?_)
  change d.Completes state (attempt >>= _) _ ↔ _
  rw [Device.completes_bind]
  refine succeeds.completes_congr fun final reached success => ?_
  obtain ⟨result, value⟩ := reached
  change d.Completes final (if 0 ≤ result then _ else _) _ ↔ _
  rw [if_pos success]
  exact Iff.rfl

/-- A write with error handling that succeeds is one write. -/
theorem completes_i2cWriteErrorHandling {i2c : I2c} {addr : UInt8} {src : List UInt8}
    {nostop : Bool} {post : d.State → Unit → Prop} (ignores : d.Ignores Op.Routine)
    (free : d.gives state .cexceptionTry ())
    (succeeds : ∀ result : Int, d.gives state (.i2cWriteTimeoutUs i2c addr src nostop) result →
      0 ≤ result) :
    d.Completes state (i2cWriteErrorHandling i2c addr src nostop) post ↔
      (∃ result : Int, d.gives state (.i2cWriteTimeoutUs i2c addr src nostop) result) ∧
        ∀ result : Int, d.gives state (.i2cWriteTimeoutUs i2c addr src nostop) result →
          post (d.next state (.i2cWriteTimeoutUs i2c addr src nostop) result) () := by
  refine (completes_i2cErrorHandling ignores free _ ?_).trans Device.completes_perform
  exact ⟨succeeds⟩

/-- A read with error handling that succeeds is one read. -/
theorem completes_i2cReadErrorHandling {i2c : I2c} {addr : UInt8} {len : Nat} {nostop : Bool}
    {post : d.State → Vector UInt8 len → Prop} (ignores : d.Ignores Op.Routine)
    (free : d.gives state .cexceptionTry ())
    (succeeds : ∀ answer : Int × Vector UInt8 len,
      d.gives state (.i2cReadTimeoutUs i2c addr len nostop) answer → 0 ≤ answer.1) :
    d.Completes state (i2cReadErrorHandling i2c addr len nostop) post ↔
      (∃ answer : Int × Vector UInt8 len,
        d.gives state (.i2cReadTimeoutUs i2c addr len nostop) answer) ∧
        ∀ answer : Int × Vector UInt8 len,
          d.gives state (.i2cReadTimeoutUs i2c addr len nostop) answer →
            post (d.next state (.i2cReadTimeoutUs i2c addr len nostop) answer) answer.2 := by
  refine (completes_i2cErrorHandling ignores free _ ?_).trans Device.completes_perform
  exact ⟨succeeds⟩

end Exchanges

/-! ## A bus on which no transfer fails -/

/-- The answers of a bus on which no transfer fails. -/
def Op.Acknowledged : (op : Op) → Ans op → Prop
  | .i2cWriteTimeoutUs .., (result : Int) => 0 ≤ result
  | .i2cReadTimeoutUs .., answer => 0 ≤ answer.1
  | _, _ => True

/-- An acknowledged write with error handling returns. -/
theorem i2cWriteErrorHandling_finishes (i2c : I2c) (addr : UInt8) (src : List UInt8)
    (nostop : Bool) : (i2cWriteErrorHandling i2c addr src nostop).Finishes Op.Acknowledged := by
  refine ⟨⟨(), trivial⟩, fun _ _ => ⟨⟨(0 : Int), Int.le_refl 0⟩, fun (result : Int) written => ?_⟩⟩
  have acknowledged : 0 ≤ result := written
  change Program.Finishes _ ((if 0 ≤ result then _ else _) >>= _)
  rw [if_pos acknowledged]
  trivial

/-- An acknowledged read with error handling returns. -/
theorem i2cReadErrorHandling_finishes (i2c : I2c) (addr : UInt8) (len : Nat) (nostop : Bool) :
    (i2cReadErrorHandling i2c addr len nostop).Finishes Op.Acknowledged := by
  refine ⟨⟨(), trivial⟩, fun _ _ =>
    ⟨⟨((0 : Int), .replicate len 0), Int.le_refl 0⟩, fun answer obtained => ?_⟩⟩
  obtain ⟨result, bytes⟩ : Int × Vector UInt8 len := answer
  have acknowledged : 0 ≤ result := obtained
  change Program.Finishes _ ((if 0 ≤ result then _ else _) >>= _)
  rw [if_pos acknowledged]
  trivial

end RobotFirmware
