import RobotFirmware.Retries

/-!
# Retries and the exception frame

The two functions with error handling are called one after the other, each from a stack frame
of its own, and the exception library keeps one pointer to a frame. `Try` saves the pointer and
installs the frame of the call; only `Catch` restores it. The retries are kept to, but a call
that succeeds returns out of `Try` and leaves the pointer at a frame that is gone.
-/

namespace RobotFirmware

open Interaction

/-- The result code of a bus attempt. -/
def Op.busResult? : (op : Op) → Ans op → Option Int
  | .i2cWriteTimeoutUs .., (result : Int) => some result
  | .i2cReadTimeoutUs .., answer => some answer.1
  | _, _ => none

namespace ExceptionFrame

/-- A call with error handling. -/
inductive BusCall where
  | write (i2c : I2c) (addr : UInt8) (src : List UInt8) (nostop : Bool)
  | read (i2c : I2c) (addr : UInt8) (len : Nat) (nostop : Bool)

/-- The function called. -/
def BusCall.program : BusCall → Firmware Unit
  | .write i2c addr src nostop => i2cWriteErrorHandling i2c addr src nostop
  | .read i2c addr len nostop => i2cReadErrorHandling i2c addr len nostop >>= fun _ => .done ()

variable {Frame : Type}

/-- What has happened in a call, and where the frames are. -/
structure Progress (Frame : Type) where
  /-- The results of the attempts made, in order. -/
  results : List Int
  /-- `Catch` has been reached. -/
  caught : Bool
  /-- The frame that the library points to. -/
  current : Frame
  /-- `PrevFrame` of the call, once it has been entered. -/
  saved : Frame

namespace Progress

/-- A call is entered with a frame pointer. -/
def entry (pointer : Frame) : Progress Frame := ⟨[], false, pointer, pointer⟩

/-- The progress after an answered operation of a call whose frame is `own`. -/
def next (own : Frame) (progress : Progress Frame) : (op : Op) → Ans op → Progress Frame
  | .cexceptionTry, _ => { progress with saved := progress.current, current := own }
  | .cexceptionCatch, _ => { progress with caught := true, current := progress.saved }
  | .i2cWriteTimeoutUs .., (result : Int) =>
    { progress with results := progress.results ++ [result] }
  | .i2cReadTimeoutUs .., answer => { progress with results := progress.results ++ [answer.1] }
  | _, _ => progress

/-- Every attempt so far has failed. -/
def Failing (progress : Progress Frame) : Prop := ∀ result ∈ progress.results, result < 0

/-- Every attempt has failed, and there are no more. -/
def Exhausted (progress : Progress Frame) : Prop :=
  progress.Failing ∧ progress.results.length = maxRetries

/-- The given number of attempts has been made inside `Try`, and all have failed. -/
structure Trying (own : Frame) (made : Nat) (progress : Progress Frame) : Prop where
  failing : progress.Failing
  length : progress.results.length = made
  uncaught : progress.caught = false
  installed : progress.current = own

/-- An attempt is made only as long as all have failed and there are some left, a throw lands in
the call's own `Catch`, and only after the last failure. -/
def allows (own : Frame) (progress : Progress Frame) : Op → Prop
  | .i2cWriteTimeoutUs .. => progress.Failing ∧ progress.results.length < maxRetries
  | .i2cReadTimeoutUs .. => progress.Failing ∧ progress.results.length < maxRetries
  | .cexceptionThrow _ => progress.Exhausted ∧ progress.current = own
  | .cexceptionCatch => progress.Exhausted
  | .assertFalse => progress.Exhausted ∧ progress.caught = true
  | _ => True

/-- The last attempt has succeeded, and the frame installed is still there. -/
structure Succeeded (own : Frame) (progress : Progress Frame) : Prop where
  /-- The attempts before the last have failed. -/
  last : ∃ before result, progress.results = before ++ [result] ∧ 0 ≤ result ∧
    (∀ earlier ∈ before, earlier < 0) ∧ before.length < maxRetries
  /-- `Catch` was not reached. -/
  uncaught : progress.caught = false
  /-- The pointer is at the frame of the call. -/
  dangling : progress.current = own

end Progress

/-- What a call with its own frame may do. -/
abbrev retrying (own : Frame) : Monitor Ans where
  State := Progress Frame
  allows := Progress.allows own
  next := Progress.next own

variable {α : Type} {own : Frame}

/-- An attempt is one transfer, whose result is recorded. -/
def Attempts (own : Frame) (attempt : Firmware (Int × α)) : Prop :=
  ∀ progress : Progress Frame, progress.Failing → progress.results.length < maxRetries →
    (retrying own).Guards progress attempt fun final reached =>
      final = { progress with results := progress.results ++ [reached.1] }

/-- After an attempt the call has succeeded, or has one attempt less. -/
theorem guards_attempt {attempt : Firmware (Int × α)} (attempts : Attempts own attempt) {made : Nat}
    {progress : Progress Frame} (room : made < maxRetries) (trying : progress.Trying own made) :
    (retrying own).Guards progress attempt fun final reached =>
      if 0 ≤ reached.1 then final.Succeeded own else final.Trying own (made + 1) := by
  obtain ⟨failing, length, uncaught, installed⟩ := trying
  refine (attempts progress failing (length ▸ room)).mono fun final reached recorded => ?_
  obtain ⟨result, value⟩ := reached
  subst recorded
  split_ifs with nonneg
  · exact ⟨⟨progress.results, result, rfl, nonneg, failing, length ▸ room⟩, uncaught, installed⟩
  · refine ⟨fun earlier member => ?_, ?_, uncaught, installed⟩
    · obtain member | member := List.mem_append.mp member
      · exact failing earlier member
      · exact List.mem_singleton.mp member ▸ Int.not_le.mp nonneg
    · rw [List.length_append, List.length_singleton, length]

/-- A call either succeeds and leaves its frame installed, or ends at the assertion in `Catch`. -/
theorem guards_call_of_attempts {attempt : Firmware (Int × α)} (attempts : Attempts own attempt)
    (message : String) (pointer : Frame) :
    (retrying own).Guards (.entry pointer) (i2cErrorHandling message attempt) fun final _ =>
      final.Succeeded own := by
  have start : (Progress.next own (.entry pointer) .cexceptionTry ()).Trying own 0 :=
    ⟨fun _ member => absurd member List.not_mem_nil, rfl, rfl, rfl⟩
  refine @guards_errorHandling (retrying own) α attempt _ (fun made progress =>
    progress.Trying own made) _ message ⟨trivial, fun _ => start⟩ ?_
    (fun _ _ trying => ⟨trivial, fun _ => trying⟩) fun result progress trying => ?_
  · exact fun made progress room trying => guards_attempt attempts room trying
  · have exhausted : progress.Exhausted := ⟨trying.failing, trying.length⟩
    exact ⟨⟨exhausted, trying.installed⟩, fun _ => ⟨exhausted, fun _ => ⟨trivial, fun _ =>
      ⟨⟨exhausted, rfl⟩, fun impossible => Empty.elim impossible⟩⟩⟩⟩

/-- The attempts of a write are its transfers. -/
theorem attempts_write (i2c : I2c) (addr : UInt8) (src : List UInt8) (nostop : Bool) :
    Attempts own (do
      let result ← perform (.i2cWriteTimeoutUs i2c addr src nostop)
      return (result, ())) :=
  fun _ failing room => ⟨⟨failing, room⟩, fun _ => rfl⟩

/-- The attempts of a read are its transfers. -/
theorem attempts_read (i2c : I2c) (addr : UInt8) (len : Nat) (nostop : Bool) :
    Attempts own (perform (.i2cReadTimeoutUs i2c addr len nostop)) :=
  fun _ failing room => ⟨⟨failing, room⟩, fun _ => rfl⟩

/-- Every call is guarded. -/
theorem guards_call (own pointer : Frame) (call : BusCall) :
    (retrying own).Guards (.entry pointer) call.program fun final _ => final.Succeeded own := by
  cases call with
  | write i2c addr src nostop =>
    exact guards_call_of_attempts (attempts_write i2c addr src nostop) _ pointer
  | read i2c addr len nostop =>
    exact Monitor.guards_bind.mpr
      (guards_call_of_attempts (attempts_read i2c addr len nostop) _ pointer)

/-! ## Sequences of calls -/

/-- A call that has been made, as far as it goes. -/
structure Visit (Frame : Type) where
  /-- The call. -/
  call : BusCall
  /-- The frame of its `Try`. -/
  own : Frame
  /-- What it performed. -/
  trace : List (Event Ans)
  /-- What was left of it. -/
  rest : Firmware Unit
  /-- The trace is one of the call. -/
  run : call.program.Runs trace rest
  /-- The call has returned or stopped at an assertion. -/
  ended : rest.isDone = true ∨ rest.next? = some .assertFalse

namespace Visit

/-- The call has returned. -/
def Returned (visit : Visit Frame) : Prop := visit.rest.isDone = true

/-- The results of its attempts, in order. -/
def results (visit : Visit Frame) : List Int :=
  visit.trace.filterMap fun event => event.op.busResult? event.answer

/-- The call has reached `Catch`. -/
def Caught (visit : Visit Frame) : Prop := ∃ event ∈ visit.trace, event.op = .cexceptionCatch

/-- How far the call has come, when it is entered with the given frame pointer. -/
def progress (visit : Visit Frame) (pointer : Frame) : Progress Frame :=
  (retrying visit.own).after (.entry pointer) visit.trace

/-- The frame pointer when the call has ended. -/
def leaves (visit : Visit Frame) (pointer : Frame) : Frame := (visit.progress pointer).current

/-- The call keeps to its retries. -/
structure Retries (visit : Visit Frame) : Prop where
  /-- There are at most `MAX_RETRIES` attempts. -/
  bounded : visit.results.length ≤ maxRetries
  /-- None follows the first success. -/
  stops : ∀ result ∈ visit.results.dropLast, result < 0
  /-- The call returns exactly when one of its attempts succeeds. -/
  returns : visit.Returned ↔ ∃ result ∈ visit.results.take maxRetries, 0 ≤ result
  /-- It reaches `Catch` exactly when all of them fail. -/
  catches : visit.Caught ↔
    visit.results.length = maxRetries ∧ ∀ result ∈ visit.results, result < 0

/-- The results are those that the progress has recorded. -/
theorem progress_results (visit : Visit Frame) (pointer : Frame) :
    (visit.progress pointer).results = visit.results := by
  have recorded (progress : Progress Frame) (trace : List (Event Ans)) :
      ((retrying visit.own).after progress trace).results =
        progress.results ++ trace.filterMap fun event => event.op.busResult? event.answer := by
    induction trace generalizing progress with
    | nil => simp
    | cons event trace ih =>
      rw [Monitor.after_cons, ih, List.filterMap_cons]
      obtain ⟨op, answer⟩ := event
      cases op <;> simp [Progress.next, Op.busResult?]
  exact recorded (.entry pointer) visit.trace

/-- `Catch` has been reached when the progress has recorded it. -/
theorem progress_caught (visit : Visit Frame) (pointer : Frame) :
    (visit.progress pointer).caught = true ↔ visit.Caught := by
  have recorded (progress : Progress Frame) (trace : List (Event Ans)) :
      ((retrying visit.own).after progress trace).caught = true ↔
        progress.caught = true ∨ ∃ event ∈ trace, event.op = .cexceptionCatch := by
    induction trace generalizing progress with
    | nil => simp
    | cons event trace ih =>
      rw [Monitor.after_cons, ih]
      obtain ⟨op, answer⟩ := event
      cases op <;> simp [Progress.next]
  exact (recorded (.entry pointer) visit.trace).trans (or_iff_right Bool.false_ne_true)

/-- A call that has ended either has succeeded and returned, or is at the assertion in `Catch`. -/
theorem outcome (visit : Visit Frame) (pointer : Frame) :
    visit.Returned ∧ (visit.progress pointer).Succeeded visit.own ∨
      ¬ visit.Returned ∧ (visit.progress pointer).Exhausted ∧
        (visit.progress pointer).caught = true := by
  have guards := guards_call visit.own pointer visit.call
  obtain returned | stopped := visit.ended
  · have same : visit.rest = .done () := Program.eq_done_valueD returned ()
    have run : visit.call.program.Runs visit.trace (.done ()) := same ▸ visit.run
    exact .inl ⟨returned, guards.ends run⟩
  · refine .inr ⟨fun returned => ?_, guards.allows_next visit.run stopped⟩
    rw [Program.eq_done_valueD returned ()] at stopped
    cases stopped

/-- A call returns exactly when an attempt succeeds, whatever the frame pointer. -/
theorem retries (visit : Visit Frame) : visit.Retries := by
  have results := visit.progress_results visit.own
  have caught := visit.progress_caught visit.own
  obtain ⟨returned, ⟨before, result, same, nonneg, earlier, room⟩, uncaught, -⟩ |
      ⟨stuck, ⟨failing, length⟩, reached⟩ := visit.outcome visit.own
  · rw [results] at same
    have short : visit.results.length ≤ maxRetries := by
      rw [same, List.length_append, List.length_singleton]
      exact room
    have member : result ∈ visit.results := by simp [same]
    refine ⟨short, ?_, iff_of_true returned ⟨result, ?_, nonneg⟩, ?_⟩
    · rw [same, List.dropLast_concat]
      exact earlier
    · rwa [List.take_of_length_le short]
    · refine iff_of_false (fun both => ?_) fun both => ?_
      · rw [caught.mpr both] at uncaught
        cases uncaught
      · exact absurd (both.2 result member) (Int.not_lt.mpr nonneg)
  · rw [Progress.Failing, results] at failing
    rw [results] at length
    refine ⟨Nat.le_of_eq length, fun result member =>
      failing result ((List.dropLast_sublist _).subset member), iff_of_false stuck ?_,
      iff_of_true (caught.mp reached) ⟨length, failing⟩⟩
    rintro ⟨result, member, nonneg⟩
    exact absurd (failing result (List.mem_of_mem_take member)) (Int.not_lt.mpr nonneg)

/-- A call that returns leaves its own frame installed. -/
theorem leaves_own (visit : Visit Frame) (returned : visit.Returned) (pointer : Frame) :
    visit.leaves pointer = visit.own := by
  obtain ⟨-, succeeded⟩ | ⟨stuck, -⟩ := visit.outcome pointer
  · exact succeeded.dangling
  · exact absurd returned stuck

end Visit

/-- The frame pointer is, after every call that returns, what it was when the call was entered. -/
def Balanced : Frame → List (Visit Frame) → Prop
  | _, [] => True
  | pointer, visit :: later =>
    (visit.Returned → visit.leaves pointer = pointer) ∧ Balanced (visit.leaves pointer) later

/-- Calls made one after the other. -/
structure Session (Frame : Type) where
  /-- The frame pointer before the first call: null, or the frame of an enclosing `Try`. -/
  pointer : Frame
  /-- The calls. -/
  visits : List (Visit Frame)
  /-- A call is made when the one before has returned. -/
  sequential : ∀ visit ∈ visits.dropLast, visit.Returned
  /-- The enclosing frame is live, so that no call has its frame there. -/
  fresh : ∀ visit ∈ visits, visit.own ≠ pointer

namespace Session

/-- The calls keep to their retries, and the exception frames are balanced. -/
structure Disciplined (session : Session Frame) : Prop where
  /-- Every call keeps to its retries. -/
  retries : ∀ visit ∈ session.visits, visit.Retries
  /-- The frame pointer is restored on every return. -/
  balanced : Balanced session.pointer session.visits

/-- Calls keep to their retries and restore the frame pointer exactly when no attempt succeeds,
so that none of them returns. -/
theorem disciplined_iff (session : Session Frame) :
    session.Disciplined ↔ ∀ visit ∈ session.visits, ∀ result ∈ visit.results, result < 0 := by
  obtain ⟨pointer, visits, sequential, fresh⟩ := session
  cases visits with
  | nil => exact iff_of_true ⟨fun _ => nofun, trivial⟩ nofun
  | cons visit later =>
    -- the first call that returns leaves its frame behind, so there must be none
    have alone (stuck : ¬ visit.Returned) : later = [] := by
      cases later with
      | nil => rfl
      | cons next later => exact absurd (sequential visit List.mem_cons_self) stuck
    have stuck_iff : ¬ visit.Returned ↔ ∀ result ∈ visit.results, result < 0 := by
      rw [← visit.progress_results pointer]
      obtain ⟨returned, succeeded⟩ | ⟨stuck, exhausted, -⟩ := visit.outcome pointer
      · refine iff_of_false (not_not.mpr returned) fun negative => ?_
        obtain ⟨before, result, same, nonneg, -⟩ := succeeded.last
        exact absurd (negative result (by simp [same])) (Int.not_lt.mpr nonneg)
      · exact iff_of_true stuck exhausted.1
    refine ⟨fun disciplined => ?_, fun failing => ⟨fun visit _ => visit.retries, ?_, ?_⟩⟩
    · have stuck : ¬ visit.Returned := fun returned =>
        fresh visit List.mem_cons_self
          ((visit.leaves_own returned pointer).symm.trans (disciplined.balanced.1 returned))
      obtain rfl := alone stuck
      intro reached member
      obtain rfl := List.mem_singleton.mp member
      exact stuck_iff.mp stuck
    · exact fun returned => absurd returned (stuck_iff.mpr (failing visit List.mem_cons_self))
    · obtain rfl := alone (stuck_iff.mpr (failing visit List.mem_cons_self))
      trivial

/-- A bus on which every write succeeds. -/
def acknowledge : Unit → (op : Op) → Option (Ans op × Unit)
  | _, .cexceptionTry => some ((), ())
  | _, .i2cWriteTimeoutUs .. => some ((1 : Int), ())
  | _, _ => none

/-- A write whose first attempt succeeds. -/
def firstSuccess : Visit Nat where
  call := .write .i2c0 0x61 [0] false
  own := 1
  trace := ((i2cWriteErrorHandling .i2c0 0x61 [0] false).drive acknowledge ()).1
  rest := ((i2cWriteErrorHandling .i2c0 0x61 [0] false).drive acknowledge ()).2.1
  run := Program.drive_runs acknowledge () _
  ended := .inl rfl

/-- It returns and leaves the pointer at its own frame. -/
theorem success_unbalanced : ¬ ∀ session : Session Nat, session.Disciplined := fun disciplined =>
  absurd ((disciplined ⟨0, [firstSuccess], fun _ member => absurd member List.not_mem_nil,
    fun _ member => List.mem_singleton.mp member ▸ Nat.one_ne_zero⟩).2.1 rfl) Nat.one_ne_zero

end Session

end ExceptionFrame

end RobotFirmware
