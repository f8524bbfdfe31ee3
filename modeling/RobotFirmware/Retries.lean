import RobotFirmware.Platform
import Mathlib.Tactic.SplitIfs

/-!
# Retries under a monitor

An exchange with error handling makes its attempts inside `Try`, sleeps between them, and gives
up when none is left. A monitor follows it when it follows one attempt: what holds after a number
of failed attempts has to hold after one more, or the attempt has succeeded.
-/

namespace RobotFirmware

open Interaction

variable {m : Monitor Ans} {α : Type} {attempt : Firmware (Int × α)} {state : m.State}
  {failing : Nat → m.State → Prop} {post : m.State → α → Prop}

/-- The attempts end with the first success, or when none is left. -/
theorem guards_attempts
    (attempted : ∀ made state, made < maxRetries → failing made state →
      m.Guards state attempt fun final reached =>
        if 0 ≤ reached.1 then post final reached.2 else failing (made + 1) final)
    (delayed : ∀ made state, failing made state → m.allows state (.sleepMs retryDelay) ∧
      ∀ answer, failing made (m.next state (.sleepMs retryDelay) answer))
    (left made : Nat) (remaining : made + left + 1 = maxRetries) (start : failing made state) :
    m.Guards state (i2cAttempts attempt left) fun final outcome =>
      (∀ value, outcome = .ok value → post final value) ∧
        ∀ result, outcome = .error result → failing maxRetries final := by
  induction left generalizing made state with
  | zero =>
    refine Monitor.guards_bind.mpr ((attempted made state (by omega) start).mono
      fun final reached ended => ?_)
    refine Monitor.guards_ite.mpr ?_
    split_ifs at ended ⊢ with success
    · exact ⟨fun value same => Except.ok.inj same ▸ ended, nofun⟩
    · exact ⟨nofun, fun _ _ => remaining ▸ ended⟩
  | succ left ih =>
    refine Monitor.guards_bind.mpr ((attempted made state (by omega) start).mono
      fun final reached ended => ?_)
    refine Monitor.guards_ite.mpr ?_
    split_ifs at ended ⊢ with success
    · exact ⟨fun value same => Except.ok.inj same ▸ ended, nofun⟩
    · obtain ⟨allowed, still⟩ := delayed _ final ended
      exact ⟨allowed, fun answer => ih (made + 1) (by omega) (still answer)⟩

/-- An exchange returns what a successful attempt brought, or it gives up after the last one. -/
theorem guards_errorHandling (message : String)
    (enters : m.allows state .cexceptionTry ∧
      ∀ answer, failing 0 (m.next state .cexceptionTry answer))
    (attempted : ∀ made state, made < maxRetries → failing made state →
      m.Guards state attempt fun final reached =>
        if 0 ≤ reached.1 then post final reached.2 else failing (made + 1) final)
    (delayed : ∀ made state, failing made state → m.allows state (.sleepMs retryDelay) ∧
      ∀ answer, failing made (m.next state (.sleepMs retryDelay) answer))
    (gives : ∀ result state, failing maxRetries state → m.Guards state (do
      perform (.cexceptionThrow result)
      perform .cexceptionCatch
      rp2040Log message [.int result, .int result]
      assertFalse : Firmware α) post) :
    m.Guards state (i2cErrorHandling message attempt) post := by
  refine Monitor.guards_bind.mpr (Monitor.guards_act.mpr ⟨enters.1, fun answer => ?_⟩)
  refine Monitor.guards_bind.mpr ((guards_attempts attempted delayed (maxRetries - 1) 0 rfl
    (enters.2 answer)).mono fun final outcome ended => ?_)
  cases outcome with
  | ok value => exact ended.1 value rfl
  | error result => exact gives result final (ended.2 result rfl)

end RobotFirmware
