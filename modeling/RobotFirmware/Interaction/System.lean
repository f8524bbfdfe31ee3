import RobotFirmware.Interaction.Monitor

/-!
# Threads over shared state

A system runs one program per thread. The threads take turns at single operations in any
order, except that a thread waits while a thread that preempts it is running. An idle thread
may be launched on a new program, and the environment may change the shared state by itself.

Reachability carries a condition on every step taken, stated on the state before it, so that
a theorem can say which runs keep a property. `Discipline` is the invariant rule: each
thread's programs are guarded by a monitor whose state is kept in the shared state, and an
invariant of the shared state has to be preserved by allowed operations only.
-/

namespace Interaction

variable {Op : Type} {Ans : Op → Type}

/-- Programs running over a shared state. -/
structure System (Ans : Op → Type) where
  /-- The threads. -/
  Thread : Type
  /-- Threads are told apart. -/
  decEq : DecidableEq Thread
  /-- What the threads share. -/
  Shared : Type
  /-- The first thread interrupts the second one. -/
  preempts : Thread → Thread → Prop
  /-- The state after a thread's operation received an answer, if that answer is possible. -/
  exec : Thread → Shared → (op : Op) → Ans op → Option Shared
  /-- An idle thread starts a program. -/
  launch : Thread → Shared → Program Ans Unit → Shared → Prop
  /-- The environment moves by itself. -/
  drift : Shared → Shared → Prop

namespace System

variable (sys : System Ans)

instance : DecidableEq sys.Thread := sys.decEq

/-- The shared state and what is left of each thread's program. -/
structure Config where
  /-- The shared state. -/
  shared : sys.Shared
  /-- What each thread still has to do. -/
  programs : sys.Thread → Program Ans Unit

/-- What a step does. -/
inductive Action where
  /-- A thread performs an operation and receives an answer. -/
  | perform (thread : sys.Thread) (op : Op) (answer : Ans op)
  /-- A thread starts a program. -/
  | launch (thread : sys.Thread) (program : Program Ans Unit)
  /-- The environment moves. -/
  | drift

variable {sys}

/-- No thread that preempts the given one is running. -/
def Config.Free (config : sys.Config) (thread : sys.Thread) : Prop :=
  ∀ other, sys.preempts other thread → (config.programs other).isDone = true

/-- One step of the system. -/
inductive Step : sys.Config → sys.Action → sys.Config → Prop where
  /-- The running thread's next operation is answered. -/
  | perform {config : sys.Config} {thread : sys.Thread} {op : Op}
      {resume : Ans op → Program Ans Unit} {answer : Ans op} {shared : sys.Shared}
      (free : config.Free thread)
      (running : config.programs thread = .perform op resume)
      (answered : sys.exec thread config.shared op answer = some shared) :
      Step config (.perform thread op answer)
        ⟨shared, Function.update config.programs thread (resume answer)⟩
  /-- An idle thread is launched. -/
  | launch {config : sys.Config} {thread : sys.Thread} {program : Program Ans Unit}
      {shared : sys.Shared} (free : config.Free thread)
      (idle : config.programs thread = .done ())
      (launched : sys.launch thread config.shared program shared) :
      Step config (.launch thread program)
        ⟨shared, Function.update config.programs thread program⟩
  /-- The environment moves. -/
  | drift {config : sys.Config} {shared : sys.Shared}
      (drifted : sys.drift config.shared shared) :
      Step config .drift ⟨shared, config.programs⟩

/-- Reachable by steps that all meet a condition on the state before them. -/
inductive Reaches (condition : sys.Shared → sys.Action → Prop) (start : sys.Config) :
    sys.Config → Prop where
  /-- No step has been taken. -/
  | refl : Reaches condition start start
  /-- One more step. -/
  | step {config next : sys.Config} {action : sys.Action}
      (before : Reaches condition start config) (met : condition config.shared action)
      (taken : Step config action next) : Reaches condition start next

/-- Runs under a stronger condition are runs under a weaker one. -/
theorem Reaches.mono {condition weaker : sys.Shared → sys.Action → Prop}
    {start config : sys.Config} (reached : Reaches condition start config)
    (weaken : ∀ shared action, condition shared action → weaker shared action) :
    Reaches weaker start config := by
  induction reached with
  | refl => exact .refl
  | step _ met taken ih => exact .step ih (weaken _ _ met) taken

/-- A thread has been run as far as a reply function answers it. -/
def Config.drive (config : sys.Config) (thread : sys.Thread)
    (reply : sys.Shared → (op : Op) → Option (Ans op × sys.Shared)) : sys.Config where
  shared := ((config.programs thread).drive reply config.shared).2.2
  programs := Function.update config.programs thread
    ((config.programs thread).drive reply config.shared).2.1

/-- A thread that nothing preempts can be run as far as a reply function answers it, when the
system admits the answers and the condition the steps. What the replies depend on may be more than
what is shared. -/
theorem Reaches.driveFrom {condition : sys.Shared → sys.Action → Prop} {start config : sys.Config}
    (reached : Reaches condition start config) (thread : sys.Thread) {σ : Type}
    (view : σ → sys.Shared) (reply : σ → (op : Op) → Option (Ans op × σ)) (state : σ)
    (shows : config.shared = view state)
    (admitted : ∀ state op answer after, reply state op = some (answer, after) →
      condition (view state) (.perform thread op answer) ∧
        sys.exec thread (view state) op answer = some (view after))
    (free : ∀ other, sys.preempts other thread →
      other ≠ thread ∧ (config.programs other).isDone = true) :
    Reaches condition start ⟨view ((config.programs thread).drive reply state).2.2,
      Function.update config.programs thread ((config.programs thread).drive reply state).2.1⟩ := by
  obtain ⟨shared, programs⟩ := config
  obtain rfl : shared = view state := shows
  have runs (program : Program Ans Unit) (state : σ)
      (reached : Reaches condition start ⟨view state, Function.update programs thread program⟩) :
      Reaches condition start ⟨view (program.drive reply state).2.2,
        Function.update programs thread (program.drive reply state).2.1⟩ := by
    induction program generalizing state with
    | done value => exact reached
    | perform op resume ih =>
      unfold Program.drive
      split
      · exact reached
      · rename_i answer after replied
        let config : sys.Config :=
          ⟨view state, Function.update programs thread (.perform op resume)⟩
        have unhindered : config.Free thread := fun other hit => by
          obtain ⟨differs, idle⟩ := free other hit
          simpa only [config, Function.update_of_ne differs] using idle
        obtain ⟨met, answered⟩ := admitted _ _ _ _ replied
        have taken : Step config (.perform thread op answer)
            ⟨view after, Function.update config.programs thread (resume answer)⟩ :=
          .perform unhindered (Function.update_self ..) answered
        simp only [config, Function.update_idem] at taken
        exact ih answer after (.step reached met taken)
  exact runs _ _ (by rwa [Function.update_eq_self])

/-- The replies may depend on what is shared only. -/
theorem Reaches.drive {condition : sys.Shared → sys.Action → Prop} {start config : sys.Config}
    (reached : Reaches condition start config) (thread : sys.Thread)
    (reply : sys.Shared → (op : Op) → Option (Ans op × sys.Shared))
    (admitted : ∀ shared op answer after, reply shared op = some (answer, after) →
      condition shared (.perform thread op answer) ∧
        sys.exec thread shared op answer = some after)
    (free : ∀ other, sys.preempts other thread →
      other ≠ thread ∧ (config.programs other).isDone = true) :
    Reaches condition start (config.drive thread reply) :=
  reached.driveFrom thread id reply config.shared rfl admitted free

/-- Monitors for the threads of a system. Their states live in the shared state, so that
invariants can speak about where each thread stands. -/
structure Discipline (sys : System Ans) where
  /-- The monitor of each thread. -/
  monitor : sys.Thread → Monitor Ans
  /-- Where a thread stands. -/
  view : (thread : sys.Thread) → sys.Shared → (monitor thread).State
  /-- Where an idle thread may stand. -/
  rest : (thread : sys.Thread) → (monitor thread).State → Prop
  /-- An operation moves its own thread as the monitor says. -/
  own : ∀ {thread shared op answer after}, sys.exec thread shared op answer = some after →
    view thread after = (monitor thread).next (view thread shared) op answer
  /-- An operation moves no other thread. -/
  other : ∀ {thread shared op answer after}, sys.exec thread shared op answer = some after →
    ∀ {bystander}, bystander ≠ thread → view bystander after = view bystander shared
  /-- A launched program is guarded until it comes to rest. -/
  launched : ∀ {thread shared program after}, sys.launch thread shared program after →
    rest thread (view thread shared) →
    (monitor thread).Guards (view thread after) program fun state _ => rest thread state
  /-- A launch moves no other thread. -/
  aside : ∀ {thread shared program after}, sys.launch thread shared program after →
    ∀ {bystander}, bystander ≠ thread → view bystander after = view bystander shared
  /-- The environment moves no thread. -/
  drifted : ∀ {shared after}, sys.drift shared after → ∀ thread,
    view thread after = view thread shared

namespace Discipline

variable (discipline : Discipline sys)

/-- What is left of every thread's program is guarded from where the thread stands. -/
def Holds (config : sys.Config) : Prop :=
  ∀ thread, (discipline.monitor thread).Guards (discipline.view thread config.shared)
    (config.programs thread) fun state _ => discipline.rest thread state

/-- A step keeps every thread guarded, and performs only allowed operations. -/
theorem Holds.step {discipline : Discipline sys} {config next : sys.Config} {action : sys.Action}
    (holds : discipline.Holds config) (taken : Step config action next) :
    discipline.Holds next := by
  intro bystander
  cases taken with
  | perform free running answered =>
    rename_i thread op resume answer shared
    have guarded := holds thread
    rw [running] at guarded
    by_cases same : bystander = thread
    · subst same
      simpa only [Function.update_self, discipline.own answered] using guarded.2 answer
    · simpa only [Function.update_of_ne same, discipline.other answered same] using
        holds bystander
  | launch free idle launched =>
    rename_i thread program shared
    by_cases same : bystander = thread
    · subst same
      have resting := holds bystander
      rw [idle] at resting
      simpa only [Function.update_self] using discipline.launched launched resting
    · simpa only [Function.update_of_ne same, discipline.aside launched same] using
        holds bystander
  | drift drifted => simpa only [discipline.drifted drifted] using holds bystander

/-- Threads that preempt a free thread are at rest. -/
theorem Holds.resting {discipline : Discipline sys} {config : sys.Config} {thread : sys.Thread}
    (holds : discipline.Holds config) (free : config.Free thread) :
    ∀ other, sys.preempts other thread →
      discipline.rest other (discipline.view other config.shared) := by
  intro other preempts
  have resting := holds other
  rwa [Program.eq_done_valueD (free other preempts) ()] at resting

/-- The invariant rule: operations that the monitors allow, launches of resting threads and
moves of the environment preserve an invariant, so every reachable state has it. A thread
moves only while those that preempt it are at rest. -/
theorem preemptive_invariant {condition : sys.Shared → sys.Action → Prop}
    {Inv : sys.Shared → Prop}
    (perform : ∀ {thread shared op answer after}, Inv shared →
      (∀ other, sys.preempts other thread →
        discipline.rest other (discipline.view other shared)) →
      (discipline.monitor thread).allows (discipline.view thread shared) op →
      condition shared (.perform thread op answer) →
      sys.exec thread shared op answer = some after → Inv after)
    (launch : ∀ {thread shared program after}, Inv shared →
      (∀ other, sys.preempts other thread →
        discipline.rest other (discipline.view other shared)) →
      discipline.rest thread (discipline.view thread shared) →
      condition shared (.launch thread program) →
      sys.launch thread shared program after → Inv after)
    (drift : ∀ {shared after}, Inv shared → condition shared .drift →
      sys.drift shared after → Inv after)
    {start config : sys.Config} (guarded : discipline.Holds start) (initially : Inv start.shared)
    (reached : Reaches condition start config) :
    discipline.Holds config ∧ Inv config.shared := by
  induction reached with
  | refl => exact ⟨guarded, initially⟩
  | step _ met taken ih =>
    obtain ⟨holds, inv⟩ := ih
    refine ⟨holds.step taken, ?_⟩
    cases taken with
    | perform free running answered =>
      rename_i thread op resume answer shared
      have guarded := holds thread
      rw [running] at guarded
      exact perform inv (holds.resting free) guarded.1 met answered
    | launch free idle launched =>
      rename_i thread program shared
      have resting := holds thread
      rw [idle] at resting
      exact launch inv (holds.resting free) resting met launched
    | drift drifted => exact drift inv met drifted

/-- The invariant rule where preemption does not matter. -/
theorem invariant {condition : sys.Shared → sys.Action → Prop} {Inv : sys.Shared → Prop}
    (perform : ∀ {thread shared op answer after}, Inv shared →
      (discipline.monitor thread).allows (discipline.view thread shared) op →
      condition shared (.perform thread op answer) →
      sys.exec thread shared op answer = some after → Inv after)
    (launch : ∀ {thread shared program after}, Inv shared →
      discipline.rest thread (discipline.view thread shared) →
      condition shared (.launch thread program) →
      sys.launch thread shared program after → Inv after)
    (drift : ∀ {shared after}, Inv shared → condition shared .drift →
      sys.drift shared after → Inv after)
    {start config : sys.Config} (guarded : discipline.Holds start) (initially : Inv start.shared)
    (reached : Reaches condition start config) :
    discipline.Holds config ∧ Inv config.shared :=
  discipline.preemptive_invariant (fun inv _ => perform inv) (fun inv _ => launch inv) drift guarded
    initially reached

/-- Every reachable configuration has its threads guarded. -/
theorem holds_of_reaches {condition : sys.Shared → sys.Action → Prop} {start config : sys.Config}
    (guarded : discipline.Holds start) (reached : Reaches condition start config) :
    discipline.Holds config := by
  induction reached with
  | refl => exact guarded
  | step _ _ taken ih => exact ih.step taken

end Discipline

/-- The invariant rule for one monitor that watches every thread separately, with states that the
system does not keep: the invariant relates them to the shared state. -/
theorem supervised {watch : Monitor Ans} {rest : watch.State → Prop}
    (Inv : sys.Shared → (sys.Thread → watch.State) → Prop)
    {condition : sys.Shared → sys.Action → Prop} {start config : sys.Config}
    (launched : ∀ {thread shared program after}, sys.launch thread shared program after →
      watch.Keeps rest program)
    (perform : ∀ {thread shared op answer after states}, Inv shared states →
      watch.allows (states thread) op → sys.exec thread shared op answer = some after →
      Inv after (Function.update states thread (watch.next (states thread) op answer)))
    (launch : ∀ {thread shared program after states}, Inv shared states →
      sys.launch thread shared program after → Inv after states)
    (drift : ∀ {shared after states}, Inv shared states → sys.drift shared after →
      Inv after states)
    {states : sys.Thread → watch.State} (guarded : ∀ thread,
      watch.Guards (states thread) (start.programs thread) fun final _ => rest final)
    (initially : Inv start.shared states) (reached : Reaches condition start config) :
    ∃ states, Inv config.shared states ∧ ∀ thread,
      watch.Guards (states thread) (config.programs thread) fun final _ => rest final := by
  induction reached with
  | refl => exact ⟨states, initially, guarded⟩
  | step _ _ taken ih =>
    obtain ⟨standing, inv, holds⟩ := ih
    cases taken with
    | perform free running answered =>
      rename_i thread op resume answer shared _
      have moving := holds thread
      rw [running] at moving
      refine ⟨_, perform inv moving.1 answered, fun bystander => ?_⟩
      by_cases same : bystander = thread
      · subst same
        simpa only [Function.update_self] using moving.2 answer
      · simpa only [Function.update_of_ne same] using holds bystander
    | launch free idle started =>
      rename_i thread program shared _
      have resting := holds thread
      rw [idle] at resting
      refine ⟨standing, launch inv started, fun bystander => ?_⟩
      by_cases same : bystander = thread
      · subst same
        simpa only [Function.update_self] using launched started _ resting
      · simpa only [Function.update_of_ne same] using holds bystander
    | drift drifted => exact ⟨standing, drift inv drifted, holds⟩

/-- The invariant rule for threads that rely on what others have done: next to an invariant of the
shared state, something is kept of what is left of each thread's program, also while the others
take their steps. -/
theorem secured {Inv : sys.Shared → Prop}
    (secure : sys.Thread → sys.Shared → Program Ans Unit → Prop)
    {condition : sys.Shared → sys.Action → Prop} {start config : sys.Config}
    (perform : ∀ {thread shared op resume answer after}, Inv shared →
      secure thread shared (.perform op resume) → sys.exec thread shared op answer = some after →
      Inv after ∧ secure thread after (resume answer) ∧ ∀ bystander ≠ thread, ∀ program,
        secure bystander shared program → secure bystander after program)
    (launch : ∀ {thread shared program after}, Inv shared → secure thread shared (.done ()) →
      sys.launch thread shared program after →
      Inv after ∧ secure thread after program ∧ ∀ bystander ≠ thread, ∀ program,
        secure bystander shared program → secure bystander after program)
    (drift : ∀ {shared after}, Inv shared → sys.drift shared after →
      Inv after ∧ ∀ thread program, secure thread shared program → secure thread after program)
    (initially : Inv start.shared)
    (started : ∀ thread, secure thread start.shared (start.programs thread))
    (reached : Reaches condition start config) :
    Inv config.shared ∧ ∀ thread, secure thread config.shared (config.programs thread) := by
  induction reached with
  | refl => exact ⟨initially, started⟩
  | step _ _ taken ih =>
    obtain ⟨inv, holds⟩ := ih
    cases taken with
    | perform free running answered =>
      rename_i thread op resume answer shared _
      have moving := holds thread
      rw [running] at moving
      obtain ⟨kept, own, others⟩ := perform inv moving answered
      refine ⟨kept, fun bystander => ?_⟩
      by_cases same : bystander = thread
      · subst same
        simpa only [Function.update_self] using own
      · simpa only [Function.update_of_ne same] using others bystander same _ (holds bystander)
    | launch free idle launched =>
      rename_i thread program shared _
      have resting := holds thread
      rw [idle] at resting
      obtain ⟨kept, own, others⟩ := launch inv resting launched
      refine ⟨kept, fun bystander => ?_⟩
      by_cases same : bystander = thread
      · subst same
        simpa only [Function.update_self] using own
      · simpa only [Function.update_of_ne same] using others bystander same _ (holds bystander)
    | drift drifted =>
      obtain ⟨kept, others⟩ := drift inv drifted
      exact ⟨kept, fun thread => others thread _ (holds thread)⟩

end System

end Interaction
