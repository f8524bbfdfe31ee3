import RobotFirmware.Interaction.System
import Mathlib.Data.Option.Basic

/-!
# Playing runs of a system

A player computes answers, launches and moves of the environment for a system. A list of cues
is played as far as the player, the system and a condition on the steps allow, and what was
played is reachable. So a run over a system is exhibited by evaluation.
-/

namespace Interaction

variable {Op : Type} {Ans : Op → Type}

namespace System

/-- Computed choices for a system. -/
structure Player (sys : System Ans) where
  /-- What a cue may choose. -/
  Choice : Type
  /-- The threads that may preempt a thread. -/
  above : sys.Thread → List sys.Thread
  /-- No other thread preempts it. -/
  covers : ∀ {other thread}, sys.preempts other thread → other ∈ above thread
  /-- The answer to an operation. -/
  answer : Choice → sys.Thread → sys.Shared → (op : Op) → Option (Ans op)
  /-- A program for an idle thread, and the shared state after its launch. -/
  launch : Choice → sys.Thread → sys.Shared → Option (Program Ans Unit × sys.Shared)
  /-- It is a launch of the system. -/
  launches : ∀ {choice thread shared program after},
    launch choice thread shared = some (program, after) → sys.launch thread shared program after
  /-- The shared state after the environment has moved. -/
  drift : Choice → sys.Shared → Option sys.Shared
  /-- It is a move of the environment. -/
  drifts : ∀ {choice shared after}, drift choice shared = some after → sys.drift shared after

namespace Player

variable {sys : System Ans} (player : Player sys)

/-- A part of a run. -/
inductive Cue where
  /-- A thread performs at most this many operations. -/
  | run (thread : sys.Thread) (choice : player.Choice) (operations : Nat)
  /-- An idle thread is launched. -/
  | launch (thread : sys.Thread) (choice : player.Choice)
  /-- The environment moves. -/
  | drift (choice : player.Choice)

variable (condition : sys.Shared → sys.Action → Prop)
  [∀ shared action, Decidable (condition shared action)]

/-- No thread that may preempt the given one is running. -/
def clear (config : sys.Config) (thread : sys.Thread) : Bool :=
  (player.above thread).all fun other => (config.programs other).isDone

/-- One operation of a thread, if it is possible and meets the condition. -/
def perform (choice : player.Choice) (config : sys.Config) (thread : sys.Thread) :
    Option sys.Config :=
  match config.programs thread with
  | .done _ => none
  | .perform op resume =>
    (player.answer choice thread config.shared op).bind fun answer =>
      (sys.exec thread config.shared op answer).bind fun after =>
        if player.clear config thread ∧ condition config.shared (.perform thread op answer) then
          some ⟨after, Function.update config.programs thread (resume answer)⟩
        else none

/-- A thread performs operations until one is not possible. -/
def run (choice : player.Choice) (thread : sys.Thread) : Nat → sys.Config → sys.Config
  | 0, config => config
  | operations + 1, config =>
    match player.perform condition choice config thread with
    | none => config
    | some next => run choice thread operations next

/-- The configuration after a cue, if it can be played. -/
def cue (config : sys.Config) : player.Cue → Option sys.Config
  | .run thread choice operations => some (player.run condition choice thread operations config)
  | .launch thread choice =>
    (player.launch choice thread config.shared).bind fun launched =>
      if player.clear config thread ∧ (config.programs thread).isDone ∧
          condition config.shared (.launch thread launched.1) then
        some ⟨launched.2, Function.update config.programs thread launched.1⟩
      else none
  | .drift choice =>
    (player.drift choice config.shared).bind fun after =>
      if condition config.shared .drift then some ⟨after, config.programs⟩ else none

/-- The configuration after some cues, if they can be played. -/
def play : List player.Cue → sys.Config → Option sys.Config
  | [], config => some config
  | cue :: cues, config => (player.cue condition config cue).bind (play cues)

variable {player condition} {start config next : sys.Config}

/-- A clear thread is free. -/
theorem clear_free {thread : sys.Thread} (clear : player.clear config thread = true) :
    config.Free thread :=
  fun other preempts => List.all_eq_true.mp clear other (player.covers preempts)

/-- A performed operation is a step. -/
theorem perform_reaches (reached : Reaches condition start config) {choice : player.Choice}
    {thread : sys.Thread} (performed : player.perform condition choice config thread = some next) :
    Reaches condition start next := by
  unfold perform at performed
  split at performed
  · cases performed
  · rename_i op resume running
    obtain ⟨answer, _, performed⟩ := Option.bind_eq_some_iff.mp performed
    obtain ⟨after, answered, performed⟩ := Option.bind_eq_some_iff.mp performed
    obtain ⟨⟨clear, met⟩, same⟩ := Option.ite_none_right_eq_some.mp performed
    obtain rfl := Option.some.inj same
    exact reached.step met (.perform (clear_free clear) running answered)

/-- A thread that performs operations takes steps. -/
theorem run_reaches (reached : Reaches condition start config) (choice : player.Choice)
    (thread : sys.Thread) (operations : Nat) :
    Reaches condition start (player.run condition choice thread operations config) := by
  induction operations generalizing config with
  | zero => exact reached
  | succ operations ih =>
    unfold run
    split
    · exact reached
    · exact ih (perform_reaches reached ‹_›)

/-- A cue takes steps. -/
theorem cue_reaches (reached : Reaches condition start config) {cue : player.Cue}
    (played : player.cue condition config cue = some next) : Reaches condition start next := by
  cases cue with
  | run thread choice operations =>
    obtain rfl := Option.some.inj played
    exact run_reaches reached choice thread operations
  | launch thread choice =>
    obtain ⟨⟨program, after⟩, launched, played⟩ := Option.bind_eq_some_iff.mp played
    obtain ⟨⟨clear, idle, met⟩, same⟩ := Option.ite_none_right_eq_some.mp played
    obtain rfl := Option.some.inj same
    have resting : config.programs thread = .done () := Program.eq_done_valueD idle ()
    exact reached.step met (.launch (clear_free clear) resting (player.launches launched))
  | drift choice =>
    obtain ⟨after, drifted, played⟩ := Option.bind_eq_some_iff.mp played
    obtain ⟨met, same⟩ := Option.ite_none_right_eq_some.mp played
    obtain rfl := Option.some.inj same
    exact reached.step met (.drift (player.drifts drifted))

/-- What was played is reachable. -/
theorem play_reaches {cues : List player.Cue} (reached : Reaches condition start config)
    (played : player.play condition cues config = some next) : Reaches condition start next := by
  induction cues generalizing config with
  | nil =>
    obtain rfl := Option.some.inj played
    exact reached
  | cons cue cues ih =>
    obtain ⟨middle, first, later⟩ := Option.bind_eq_some_iff.mp played
    exact ih (cue_reaches reached first) later

variable (player condition start) in
/-- A property that is seen in the end is one of a reachable configuration. -/
theorem reaches_of_any (cues : List player.Cue) (seen : sys.Config → Bool)
    (played : (player.play condition cues start).any seen = true) :
    ∃ config, Reaches condition start config ∧ seen config = true := by
  cases found : player.play condition cues start with
  | none =>
    rw [found] at played
    cases played
  | some config =>
    rw [found] at played
    exact ⟨config, play_reaches .refl found, played⟩

end Player

end System

end Interaction
