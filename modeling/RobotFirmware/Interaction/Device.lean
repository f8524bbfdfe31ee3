import RobotFirmware.Interaction.Monitor

/-!
# Programs against a device

A device restricts the answers that a program can receive and moves with every answered
operation. `Device.Ensures` is the weakest precondition of a program that runs against a
device: it is computed by recursion on the program, distributes over sequencing, and what it
promises holds at the end of every complete run whose answers the device gives. Operations
that a device does not see may be answered in any way. `Program.Finishes` says that there is
such a run, and `Device.Completes` is the precondition that promises both.
-/

namespace Interaction

variable {Op : Type} {Ans : Op → Type} {α β σ : Type}

/-- As long as its answers are of the given kind, the program is never left without one, so that
it returns. -/
def Program.Finishes (given : (op : Op) → Ans op → Prop) : Program Ans α → Prop
  | .done _ => True
  | .perform op resume =>
    (∃ answer, given op answer) ∧ ∀ answer, given op answer → (resume answer).Finishes given

namespace Program.Finishes

variable {given : (op : Op) → Ans op → Prop}

/-- A single operation that has an answer. -/
theorem act {op : Op} (some : ∃ answer, given op answer) :
    (Program.act op : Program Ans (Ans op)).Finishes given := ⟨some, fun _ _ => trivial⟩

/-- One program after another. -/
theorem bind {program : Program Ans α} {next : α → Program Ans β}
    (first : program.Finishes given) (second : ∀ value, (next value).Finishes given) :
    (program >>= next).Finishes given := by
  induction program with
  | done value => exact second value
  | perform op resume ih =>
    exact ⟨first.1, fun answer meets => ih answer (first.2 answer meets)⟩

/-- A choice of two such programs. -/
theorem ite {condition : Prop} [Decidable condition] {first second : Program Ans α}
    (yes : first.Finishes given) (no : second.Finishes given) :
    (if condition then first else second).Finishes given := by
  split
  · exact yes
  · exact no

end Program.Finishes

/-- A state machine over events that gives only some answers. -/
structure Device (Ans : Op → Type) where
  /-- What the device remembers. -/
  State : Type
  /-- The answers that are possible in a state. -/
  gives : State → (op : Op) → Ans op → Prop
  /-- The state after an answered operation. -/
  next : State → (op : Op) → Ans op → State

namespace Device

variable (d : Device Ans)

/-- The state after a trace. -/
def after : d.State → List (Event Ans) → d.State
  | state, [] => state
  | state, event :: trace => after (d.next state event.op event.answer) trace

/-- Every answer of the trace is one that the device gives at its point. -/
def Serves : d.State → List (Event Ans) → Prop
  | _, [] => True
  | state, event :: trace =>
    d.gives state event.op event.answer ∧ Serves (d.next state event.op event.answer) trace

/-- `rest` holds of every answer that the device gives to an operation. -/
structure Throughout (state : d.State) (op : Op) (rest : Ans op → Prop) : Prop where
  /-- The answer may be any that is given. -/
  all : ∀ answer, d.gives state op answer → rest answer

/-- Whatever the device answers from `state` on, when the program returns `post` holds of the
final state of the device and the returned value. -/
def Ensures : d.State → Program Ans α → (d.State → α → Prop) → Prop
  | state, .done value, post => post state value
  | state, .perform op resume, post =>
    d.Throughout state op fun answer => Ensures (d.next state op answer) (resume answer) post

variable {d} {state : d.State}

/-- A program that has returned keeps its promise now. -/
@[simp] theorem ensures_done {value : α} {post : d.State → α → Prop} :
    d.Ensures state (.done value) post ↔ post state value := Iff.rfl

/-- A single operation keeps it at every answer that is given. -/
@[simp] theorem ensures_act {op : Op} {post : d.State → Ans op → Prop} :
    d.Ensures state (Program.act op) post ↔
      ∀ answer, d.gives state op answer → post (d.next state op answer) answer :=
  ⟨Throughout.all, Throughout.mk⟩

/-- Sequencing passes the state of the device on. -/
@[simp] theorem ensures_bind {program : Program Ans α} {next : α → Program Ans β}
    {post : d.State → β → Prop} :
    d.Ensures state (program >>= next) post ↔
      d.Ensures state program fun middle value => d.Ensures middle (next value) post := by
  induction program generalizing state with
  | done value => exact Iff.rfl
  | perform op resume ih => simp only [Program.perform_bind, Ensures, ih]

/-- A choice ensures what the branch taken does. -/
@[simp] theorem ensures_ite {condition : Prop} [Decidable condition]
    {first second : Program Ans α} {post : d.State → α → Prop} :
    d.Ensures state (if condition then first else second) post ↔
      if condition then d.Ensures state first post else d.Ensures state second post := by
  split <;> rfl

/-- A choice between stateful programs ensures what the branch taken does. -/
@[simp] theorem ensures_run_ite {condition : Prop} [Decidable condition]
    {first second : StateT σ (Program Ans) α} {memory : σ} {post : d.State → α × σ → Prop} :
    d.Ensures state ((if condition then first else second).run memory) post ↔
      if condition then d.Ensures state (first.run memory) post
      else d.Ensures state (second.run memory) post := by
  split <;> rfl

/-- A weaker promise is kept as well. -/
theorem Ensures.mono {program : Program Ans α} {post wanted : d.State → α → Prop}
    (ensures : d.Ensures state program post)
    (weaken : ∀ state value, post state value → wanted state value) :
    d.Ensures state program wanted := by
  induction program generalizing state with
  | done value => exact weaken _ _ ensures
  | perform op resume ih => exact ⟨fun answer given => ih answer (ensures.all answer given)⟩

/-- Whatever the device answers from `state` on, the program is never left without an answer, so
that it returns, and then `post` holds of the final state of the device and the returned value. -/
def Completes (d : Device Ans) : d.State → Program Ans α → (d.State → α → Prop) → Prop
  | state, .done value, post => post state value
  | state, .perform op resume, post => (∃ answer, d.gives state op answer) ∧
    d.Throughout state op fun answer => Completes d (d.next state op answer) (resume answer) post

/-- A program that has returned is complete. -/
@[simp] theorem completes_done {value : α} {post : d.State → α → Prop} :
    d.Completes state (.done value) post ↔ post state value := Iff.rfl

/-- A single operation needs an answer, and completes with every one that is given. -/
theorem completes_perform {op : Op} {resume : Ans op → Program Ans α}
    {post : d.State → α → Prop} :
    d.Completes state (.perform op resume) post ↔ (∃ answer, d.gives state op answer) ∧
      ∀ answer, d.gives state op answer →
        d.Completes (d.next state op answer) (resume answer) post :=
  and_congr_right fun _ => ⟨Throughout.all, Throughout.mk⟩

/-- Sequencing passes the state of the device on. -/
theorem completes_bind {program : Program Ans α} {next : α → Program Ans β}
    {post : d.State → β → Prop} :
    d.Completes state (program >>= next) post ↔
      d.Completes state program fun middle value => d.Completes middle (next value) post := by
  induction program generalizing state with
  | done value => exact Iff.rfl
  | perform op resume ih => simp only [Program.perform_bind, completes_perform, ih]

/-- A weaker promise is kept as well. -/
theorem Completes.mono {program : Program Ans α} {post wanted : d.State → α → Prop}
    (completes : d.Completes state program post)
    (weaken : ∀ state value, post state value → wanted state value) :
    d.Completes state program wanted := by
  induction program generalizing state with
  | done value => exact weaken _ _ completes
  | perform op resume ih =>
    rw [completes_perform] at completes ⊢
    exact ⟨completes.1, fun answer given => ih answer (completes.2 answer given)⟩

/-- A program that completes has some end. -/
theorem Completes.exists {program : Program Ans α} {post : d.State → α → Prop}
    (completes : d.Completes state program post) : ∃ final value, post final value := by
  induction program generalizing state with
  | done value => exact ⟨_, _, completes⟩
  | perform op resume ih =>
    obtain ⟨⟨answer, given⟩, goes⟩ := completes_perform.mp completes
    exact ih answer (goes answer given)

/-- Promises that agree wherever the program can end are kept alike. -/
theorem Ensures.completes_congr {program : Program Ans α} {ends post wanted : d.State → α → Prop}
    (ensures : d.Ensures state program ends)
    (same : ∀ state value, ends state value → (post state value ↔ wanted state value)) :
    d.Completes state program post ↔ d.Completes state program wanted := by
  induction program generalizing state with
  | done value => exact same _ _ ensures
  | perform op resume ih =>
    rw [completes_perform, completes_perform]
    exact and_congr_right fun _ => forall_congr' fun answer =>
      ⟨fun completes given => (ih answer (ensures.all answer given)).mp (completes given),
        fun completes given => (ih answer (ensures.all answer given)).mpr (completes given)⟩

/-- A program that finishes on the kind of answers that the device gives completes. -/
theorem completes_of_finishes {given : (op : Op) → Ans op → Prop} {program : Program Ans α}
    (finishes : program.Finishes given)
    (gives : ∀ state op, (∃ answer, given op answer) → ∃ answer, d.gives state op answer)
    (meets : ∀ state op answer, d.gives state op answer → given op answer) :
    d.Completes state program fun _ _ => True := by
  induction program generalizing state with
  | done value => trivial
  | perform op resume ih =>
    exact completes_perform.mpr ⟨gives _ _ finishes.1,
      fun answer reply => ih answer (finishes.2 answer (meets _ _ _ reply))⟩

/-- A property of the device that every operation of a kind keeps is kept by a program of such
operations. -/
theorem ensures_of_within {kind : Op → Prop} {Inv : d.State → Prop} {program : Program Ans α}
    (inside : program.Within kind)
    (keeps : ∀ state op answer, kind op → d.gives state op answer → Inv state →
      Inv (d.next state op answer))
    (initially : Inv state) : d.Ensures state program fun final _ => Inv final := by
  induction program generalizing state with
  | done value => exact initially
  | perform op resume ih =>
    exact ⟨fun answer given => ih answer (inside.2 answer) (keeps _ _ _ inside.1 given initially)⟩

/-- The device does not move at operations of the kind. -/
def Ignores (kind : Op → Prop) : Prop :=
  ∀ state op answer, kind op → d.next state op answer = state

/-- A program of ignored operations leaves the device as it was. -/
theorem Ignores.ensures {d : Device Ans} {kind : Op → Prop} {program : Program Ans α}
    {state : d.State} {post : d.State → α → Prop} (ignores : d.Ignores kind)
    (inside : program.Within kind) (holds : ∀ value, post state value) :
    d.Ensures state program post := by
  have kept : d.Ensures state program fun final _ => final = state :=
    ensures_of_within inside
      (fun _ _ _ ignored _ same => (ignores _ _ _ ignored).trans same) rfl
  exact kept.mono fun _ value same => same ▸ holds value

/-- A reply function that keeps the state of the device, and answers as the device does, drives
programs on answers that the device gives. -/
theorem serves_drive {reply : σ → (op : Op) → Option (Ans op × σ)} {view : σ → d.State}
    (honest : ∀ memory op answer later, reply memory op = some (answer, later) →
      d.gives (view memory) op answer ∧ view later = d.next (view memory) op answer)
    (program : Program Ans α) (memory : σ) :
    d.Serves (view memory) (program.drive reply memory).1 := by
  induction program generalizing memory with
  | done value => trivial
  | perform op resume ih =>
    unfold Program.drive
    split
    · trivial
    · rename_i answer later replied
      obtain ⟨given, moved⟩ := honest _ _ _ _ replied
      exact ⟨given, moved ▸ ih answer later⟩

/-- A complete run on answers that the device gives ends as promised. -/
theorem Ensures.ends {program : Program Ans α} {trace : List (Event Ans)} {value : α}
    {post : d.State → α → Prop} (ensures : d.Ensures state program post)
    (run : program.Runs trace (.done value)) (serves : d.Serves state trace) :
    post (d.after state trace) value := by
  generalize ended : Program.done value = rest at run
  induction run generalizing state with
  | refl program =>
    subst ended
    exact ensures
  | step answer _ ih => exact ih (ensures.all answer serves.1) serves.2 ended

/-- The program can return on answers that the device gives, and whenever it does `post` holds
of the final state and the returned value. -/
structure Returns (d : Device Ans) (state : d.State) (program : Program Ans α)
    (post : d.State → α → Prop) : Prop where
  /-- There is a complete run. -/
  can : ∃ trace value, program.Runs trace (.done value) ∧ d.Serves state trace
  /-- Every complete run ends as promised. -/
  ends : ∀ trace value, program.Runs trace (.done value) → d.Serves state trace →
    post (d.after state trace) value

/-- A program returns as promised when it finishes on answers of which the device gives one. -/
theorem returns_of_finishes {given : (op : Op) → Ans op → Prop} {program : Program Ans α}
    {post : d.State → α → Prop} (finishes : program.Finishes given)
    (gives : ∀ state op, (∃ answer, given op answer) →
      ∃ answer, given op answer ∧ d.gives state op answer)
    (ensures : d.Ensures state program post) : d.Returns state program post := by
  refine ⟨?_, fun _ _ run serves => ensures.ends run serves⟩
  clear ensures
  induction program generalizing state with
  | done value => exact ⟨[], value, .refl _, trivial⟩
  | perform op resume ih =>
    obtain ⟨some, later⟩ := finishes
    obtain ⟨answer, meets, given⟩ := gives state op some
    obtain ⟨trace, value, run, serves⟩ := ih answer (later answer meets)
    exact ⟨⟨op, answer⟩ :: trace, value, .step answer run, given, serves⟩

end Device

end Interaction
