import RobotFirmware.Interaction.System

/-!
# Recorded systems

A system that also records what its threads have performed runs as before. What a thread that is
never launched again has performed is a run of its program, so that a property of single runs holds
in every interleaving; and what the other threads perform is of the kinds that their programs have.
-/

namespace Interaction

variable {Op : Type} {Ans : Op → Type}

namespace System

/-- The system with a record of who performed what. -/
def recorded (sys : System Ans) : System Ans where
  Thread := sys.Thread
  decEq := sys.decEq
  Shared := sys.Shared × List (sys.Thread × Event Ans)
  preempts := sys.preempts
  exec thread shared op answer := (sys.exec thread shared.1 op answer).map fun after =>
    (after, shared.2 ++ [(thread, ⟨op, answer⟩)])
  launch thread shared program after :=
    sys.launch thread shared.1 program after.1 ∧ after.2 = shared.2
  drift shared after := sys.drift shared.1 after.1 ∧ after.2 = shared.2

variable {sys : System Ans}

/-- The configuration with an empty record. -/
def Config.recording (config : sys.Config) : sys.recorded.Config where
  shared := (config.shared, [])
  programs := config.programs

/-- What a thread contributed to a record. -/
def ownTrace (record : List (sys.Thread × Event Ans)) (thread : sys.Thread) : List (Event Ans) :=
  (record.filter fun entry => entry.1 = thread).map Prod.snd

/-- A record of the thread's own operation adds to its trace. -/
theorem ownTrace_own (record : List (sys.Thread × Event Ans)) (thread : sys.Thread)
    (event : Event Ans) : ownTrace (record ++ [(thread, event)]) thread =
      ownTrace record thread ++ [event] := by
  simp [ownTrace]

/-- A record of another thread's operation does not. -/
theorem ownTrace_other (record : List (sys.Thread × Event Ans)) {thread actor : sys.Thread}
    (apart : actor ≠ thread) (event : Event Ans) :
    ownTrace (record ++ [(actor, event)]) thread = ownTrace record thread := by
  simp [ownTrace, apart]

/-- Everything that is recorded is in the trace of who did it. -/
theorem mem_ownTrace {record : List (sys.Thread × Event Ans)} {entry : sys.Thread × Event Ans}
    (member : entry ∈ record) : entry.2 ∈ ownTrace record entry.1 :=
  List.mem_map_of_mem (List.mem_filter.mpr ⟨member, decide_eq_true rfl⟩)

/-- What only one thread does shows in its own trace. -/
theorem filterMap_ownTrace {β : Type} (f : Event Ans → Option β) {thread : sys.Thread}
    {record : List (sys.Thread × Event Ans)}
    (others : ∀ entry ∈ record, entry.1 ≠ thread → f entry.2 = none) :
    (record.map Prod.snd).filterMap f = (ownTrace record thread).filterMap f := by
  unfold ownTrace
  induction record with
  | nil => rfl
  | cons entry record ih =>
    have later := ih fun other member => others other (List.mem_cons_of_mem _ member)
    by_cases own : entry.1 = thread
    · simp [own, List.filterMap_cons, later]
    · simp [own, later, others entry List.mem_cons_self own]

/-- What a thread has performed and what is left of its program. -/
def Config.progress (config : sys.recorded.Config) (thread : sys.Thread) :
    List (Event Ans) × Program Ans Unit :=
  (ownTrace config.shared.2 thread, config.programs thread)

/-- A step performs an operation of the thread, launches it, or leaves it alone. -/
theorem progress_step {config next : sys.recorded.Config} {action : sys.recorded.Action}
    (taken : Step config action next) (thread : sys.Thread) :
    (∃ op resume answer, config.programs thread = .perform op resume ∧
      next.progress thread =
        (ownTrace config.shared.2 thread ++ [⟨op, answer⟩], resume answer)) ∨
    (∃ program shared, sys.launch thread config.shared.1 program shared ∧
      next.progress thread = (ownTrace config.shared.2 thread, program)) ∨
    next.progress thread = config.progress thread := by
  cases taken with
  | perform free running answered =>
    rename_i actor op resume answer shared
    obtain ⟨moved, _, rfl⟩ := Option.map_eq_some_iff.mp answered
    by_cases same : actor = thread
    · subst same
      exact .inl ⟨op, resume, answer, running,
        Prod.ext (ownTrace_own _ _ _) (Function.update_self _ _ _)⟩
    · exact .inr (.inr (Prod.ext (ownTrace_other _ same _)
        (Function.update_of_ne (Ne.symm same) _ _)))
  | launch free idle launched =>
    rename_i actor program shared
    obtain ⟨begun, kept⟩ := launched
    have record (thread : sys.Thread) :
        ownTrace shared.2 thread = ownTrace config.shared.2 thread := by rw [kept]
    by_cases same : actor = thread
    · subst same
      exact .inr (.inl ⟨program, _, begun, Prod.ext (record _) (Function.update_self _ _ _)⟩)
    · exact .inr (.inr (Prod.ext (record _) (Function.update_of_ne (Ne.symm same) _ _)))
  | drift drifted =>
    rename_i shared
    have record : ownTrace shared.2 thread = ownTrace config.shared.2 thread := by rw [drifted.2]
    exact .inr (.inr (Prod.ext record rfl))

variable {condition : sys.recorded.Shared → sys.recorded.Action → Prop} {start : sys.Config}
  {config : sys.recorded.Config}

/-- What a thread that is never launched performed is a run of its program. -/
theorem own_run {thread : sys.Thread}
    (only : ∀ shared program after, ¬ sys.launch thread shared program after)
    (reached : Reaches condition start.recording config) :
    (start.programs thread).Runs (ownTrace config.shared.2 thread) (config.programs thread) := by
  induction reached with
  | refl => exact .refl _
  | step _ _ taken ih =>
    obtain ⟨op, resume, answer, running, moved⟩ | ⟨_, _, launched, _⟩ | moved :=
      progress_step taken thread
    · obtain ⟨trace, rest⟩ := Prod.mk.inj moved
      rw [trace, rest]
      rw [running] at ih
      exact ih.append (.step answer (.refl (resume answer)))
    · exact absurd launched (only _ _ _)
    · obtain ⟨trace, rest⟩ := Prod.mk.inj moved
      rw [trace, rest]
      exact ih

/-- What a thread performed is of the kind of the programs that it runs. -/
theorem ownTrace_within {thread : sys.Thread} {kind : Op → Prop}
    (launched : ∀ {shared program after}, sys.launch thread shared program after →
      program.Within kind)
    (started : (start.programs thread).Within kind)
    (reached : Reaches condition start.recording config) :
    (∀ event ∈ ownTrace config.shared.2 thread, kind event.op) ∧
      (config.programs thread).Within kind := by
  induction reached with
  | refl => exact ⟨List.forall_mem_nil _, started⟩
  | step _ _ taken ih =>
    obtain ⟨performed, inside⟩ := ih
    obtain ⟨op, resume, answer, running, moved⟩ | ⟨_, _, begun, moved⟩ | moved :=
      progress_step taken thread
    · obtain ⟨trace, rest⟩ := Prod.mk.inj moved
      rw [running] at inside
      rw [trace, rest]
      refine ⟨fun event member => ?_, inside.2 answer⟩
      obtain earlier | last := List.mem_append.mp member
      · exact performed event earlier
      · obtain rfl := List.mem_singleton.mp last
        exact inside.1
    · obtain ⟨trace, rest⟩ := Prod.mk.inj moved
      rw [trace, rest]
      exact ⟨performed, launched begun⟩
    · obtain ⟨trace, rest⟩ := Prod.mk.inj moved
      rw [trace, rest]
      exact ⟨performed, inside⟩

/-! ## Driving a recorded system -/

variable {σ : Type}

/-- The configuration after driving a thread from a state that shows what is shared, with the record
of what it performed. -/
def Config.driveRecorded (config : sys.Config) (thread : sys.Thread) (view : σ → sys.Shared)
    (reply : σ → (op : Op) → Option (Ans op × σ)) (state : σ) : sys.recorded.Config where
  shared := (view ((config.programs thread).drive reply state).2.2,
    ((config.programs thread).drive reply state).1.map fun event => (thread, event))
  programs := Function.update config.programs thread
    ((config.programs thread).drive reply state).2.1

/-- A reply that is recorded. -/
def recordedReply (thread : sys.Thread) (reply : σ → (op : Op) → Option (Ans op × σ))
    (state : σ × List (sys.Thread × Event Ans)) (op : Op) :
    Option (Ans op × σ × List (sys.Thread × Event Ans)) :=
  (reply state.1 op).map fun answered =>
    (answered.1, answered.2, state.2 ++ [(thread, ⟨op, answered.1⟩)])

/-- Recording does not change what is performed. -/
theorem drive_recordedReply (thread : sys.Thread) (reply : σ → (op : Op) → Option (Ans op × σ))
    (state : σ) (record : List (sys.Thread × Event Ans)) (program : Program Ans Unit) :
    program.drive (recordedReply thread reply) (state, record) =
      ((program.drive reply state).1, (program.drive reply state).2.1,
        (program.drive reply state).2.2,
        record ++ (program.drive reply state).1.map fun event => (thread, event)) := by
  induction program generalizing state record with
  | done value => simp [Program.drive]
  | perform op resume ih =>
    cases replied : reply state op with
    | none => simp [Program.drive, recordedReply, replied]
    | some answered =>
      simp only [Program.drive, recordedReply, replied, Option.map_some]
      rw [ih]
      simp

/-- A thread that nothing preempts can be run and recorded. -/
theorem Reaches.driveRecorded {config : sys.Config} (thread : sys.Thread) (view : σ → sys.Shared)
    (reply : σ → (op : Op) → Option (Ans op × σ)) (state : σ) (shows : config.shared = view state)
    (admitted : ∀ state op answer after, reply state op = some (answer, after) →
      sys.exec thread (view state) op answer = some (view after))
    (free : ∀ other, sys.preempts other thread →
      other ≠ thread ∧ (config.programs other).isDone = true) :
    Reaches (fun _ _ => True) config.recording
      (config.driveRecorded thread view reply state) := by
  have start : Reaches (fun _ _ => True) config.recording config.recording := .refl
  have driven := start.driveFrom thread (fun noted : σ × List (sys.Thread × Event Ans) =>
      ((view noted.1, noted.2) : sys.recorded.Shared)) (recordedReply thread reply) (state, [])
    (congrArg (·, []) shows) (fun noted op answer after replied => by
      obtain ⟨answered, found, same⟩ := Option.map_eq_some_iff.mp replied
      obtain ⟨rfl, rfl⟩ := Prod.mk.inj same
      have done := admitted noted.1 op answered.1 answered.2 found
      exact ⟨trivial, by simp [recorded, done]⟩) free
  have trace := drive_recordedReply thread reply state [] (config.programs thread)
  have same : _ = config.driveRecorded thread view reply state :=
    congrArg (fun result : _ × _ × σ × List (sys.Thread × Event Ans) =>
      (⟨(view result.2.2.1, result.2.2.2),
        Function.update config.programs thread result.2.1⟩ : sys.recorded.Config)) trace
  exact same ▸ driven

end System

end Interaction
