import Mathlib.Logic.Function.Basic

/-!
# Programs over answered operations

A program performs operations one at a time and continues with the answer that each one
receives. Nothing is fixed about the answers: a run is any sequence of operations and
answers that the program can perform, and a theorem about all runs is a theorem about every
environment. Programs are finite trees, so every run ends; endless loops are modelled by
their iterations.
-/

namespace Interaction

variable {Op : Type} {Ans : Op → Type} {α β σ : Type}

/-- A program whose operation `op` is answered by a value of `Ans op`. -/
inductive Program (Ans : Op → Type) (α : Type) : Type where
  /-- The program has returned. -/
  | done (value : α)
  /-- Perform one operation and continue with its answer. -/
  | perform (op : Op) (resume : Ans op → Program Ans α)

namespace Program

/-- Run a second program on the value of the first. -/
protected def bind : Program Ans α → (α → Program Ans β) → Program Ans β
  | .done value, next => next value
  | .perform op resume, next => .perform op fun answer => (resume answer).bind next

instance : Monad (Program Ans) where
  pure := .done
  bind := Program.bind

/-- The program of a single operation. -/
def act (op : Op) : Program Ans (Ans op) := .perform op .done

/-- Returning a value. -/
@[simp] theorem pure_def (value : α) : (pure value : Program Ans α) = .done value := rfl

/-- What follows a returned value starts with it. -/
@[simp] theorem done_bind (value : α) (next : α → Program Ans β) :
    (Program.done value >>= next) = next value := rfl

/-- What follows an operation follows its answer. -/
@[simp] theorem perform_bind (op : Op) (resume : Ans op → Program Ans α)
    (next : α → Program Ans β) :
    (Program.perform op resume >>= next) = .perform op fun answer => resume answer >>= next := rfl

/-- Returning the value of a program changes nothing. -/
theorem bind_done_eq (program : Program Ans α) : program.bind .done = program := by
  induction program with
  | done => rfl
  | perform op resume ih => simp only [Program.bind, ih]

/-- Sequencing is associative. -/
theorem bind_bind {γ : Type} (program : Program Ans α) (next : α → Program Ans β)
    (last : β → Program Ans γ) :
    (program.bind next).bind last = program.bind fun value => (next value).bind last := by
  induction program with
  | done => rfl
  | perform op resume ih => simp only [Program.bind, ih]

instance : LawfulMonad (Program Ans) :=
  LawfulMonad.mk' _ bind_done_eq (fun _ _ => rfl) bind_bind

/-- Whether a program has returned. -/
def isDone : Program Ans α → Bool
  | .done _ => true
  | .perform _ _ => false

/-- The value of a program that has returned. -/
def valueD (default : α) : Program Ans α → α
  | .done value => value
  | .perform _ _ => default

/-- A program that has returned is determined by its value. -/
theorem eq_done_valueD {program : Program Ans α} (returned : program.isDone = true) (default : α) :
    program = .done (program.valueD default) := by
  cases program with
  | done value => rfl
  | perform op resume => cases returned

/-- The operation that a program performs next. -/
def next? : Program Ans α → Option Op
  | .done _ => none
  | .perform op _ => some op

/-- The program has returned, or it waits for an answer that does not exist. -/
def Halted : Program Ans α → Prop
  | .done _ => True
  | .perform op _ => Ans op → False

/-- Replace every operation by a program that computes its answer. -/
def expand (handler : (op : Op) → Program Ans (Ans op)) : Program Ans α → Program Ans α
  | .done value => .done value
  | .perform op resume => (handler op).bind fun answer => (resume answer).expand handler

/-- Repeat a program a fixed number of times, passing its state on. -/
def iterate (body : σ → Program Ans σ) : Nat → σ → Program Ans σ
  | 0, state => .done state
  | count + 1, state => body state >>= iterate body count

end Program

/-- An operation together with the answer that it received. -/
structure Event (Ans : Op → Type) where
  /-- The operation performed. -/
  op : Op
  /-- Its answer. -/
  answer : Ans op

/-- `Runs program trace rest`: performing exactly the events of `trace` takes `program` to
`rest`. A run may stop anywhere, so traces are closed under prefixes. -/
inductive Program.Runs : Program Ans α → List (Event Ans) → Program Ans α → Prop where
  /-- Nothing has been performed yet. -/
  | refl (program : Program Ans α) : Runs program [] program
  /-- One operation is answered, and the run goes on. -/
  | step {op : Op} {resume : Ans op → Program Ans α} (answer : Ans op)
      {trace : List (Event Ans)} {rest : Program Ans α} (later : Runs (resume answer) trace rest) :
      Runs (.perform op resume) (⟨op, answer⟩ :: trace) rest

namespace Program.Runs

variable {program rest : Program Ans α} {trace : List (Event Ans)} {next : α → Program Ans β}

/-- A returned program performs nothing more. -/
theorem of_done {value : α} (run : Runs (.done value) trace rest) :
    trace = [] ∧ rest = .done value := by
  cases run
  exact ⟨rfl, rfl⟩

/-- Two runs in sequence. -/
theorem append {middle : Program Ans α} {later : List (Event Ans)}
    (first : Runs program trace middle) (second : Runs middle later rest) :
    Runs program (trace ++ later) rest := by
  induction first with
  | refl => exact second
  | step answer _ ih => exact .step answer (ih second)

/-- A run of the first program is a run of the sequence. -/
theorem bind_left (run : Runs program trace rest) :
    Runs (program >>= next) trace (rest >>= next) := by
  induction run with
  | refl => exact .refl _
  | step answer _ ih => exact .step answer ih

/-- A complete run of the first program followed by a run of the second. -/
theorem bind {value : α} {later : List (Event Ans)} {last : Program Ans β}
    (first : Runs program trace (.done value)) (second : Runs (next value) later last) :
    Runs (program >>= next) (trace ++ later) last :=
  first.bind_left.append second

/-- A run of a sequence is still inside the first program, or has completed it. -/
theorem bind_cases {last : Program Ans β} (run : Runs (program >>= next) trace last) :
    (∃ rest, Runs program trace rest ∧ last = rest >>= next) ∨
      ∃ value first later, Runs program first (.done value) ∧
        Runs (next value) later last ∧ trace = first ++ later := by
  induction program generalizing trace with
  | done value => exact .inr ⟨value, [], trace, .refl _, run, rfl⟩
  | perform op resume ih =>
    cases run with
    | refl => exact .inl ⟨_, .refl _, rfl⟩
    | step answer later =>
      obtain ⟨rest, inside, same⟩ | ⟨value, first, tail, whole, rest, split⟩ := ih answer later
      · exact .inl ⟨rest, .step answer inside, same⟩
      · exact .inr ⟨value, _, tail, .step answer whole, rest, by rw [split, List.cons_append]⟩

/-- A complete run of a sequence splits into complete runs of its two parts. -/
theorem bind_done {value : β} (run : Runs (program >>= next) trace (.done value)) :
    ∃ middle first later, Runs program first (.done middle) ∧
      Runs (next middle) later (.done value) ∧ trace = first ++ later := by
  obtain ⟨rest, inside, same⟩ | found := run.bind_cases
  · cases rest with
    | done middle => exact ⟨middle, trace, [], inside, same ▸ .refl _, by simp⟩
    | perform => cases same
  · exact found

/-- A body that comes back to where it started can be run any number of times. -/
theorem iterate {body : σ → Program Ans σ} {state : σ}
    (round : Runs (body state) trace (.done state)) (count more : Nat) :
    Runs (Program.iterate body (count + more) state) (List.replicate count trace).flatten
      (Program.iterate body more state) := by
  induction count with
  | zero => simpa using .refl _
  | succ count ih =>
    rw [Nat.succ_add, List.replicate_succ, List.flatten_cons]
    exact round.bind ih

end Program.Runs

/-- Answer the operations of a program from a state, stopping at the first one that the state
does not answer. -/
def Program.drive (reply : σ → (op : Op) → Option (Ans op × σ)) :
    σ → Program Ans α → List (Event Ans) × Program Ans α × σ
  | state, .done value => ([], .done value, state)
  | state, .perform op resume =>
    match reply state op with
    | none => ([], .perform op resume, state)
    | some (answer, state) =>
      let (trace, rest, state) := drive reply state (resume answer)
      (⟨op, answer⟩ :: trace, rest, state)

/-- Driving a program performs one of its runs. -/
theorem Program.drive_runs (reply : σ → (op : Op) → Option (Ans op × σ)) (state : σ)
    (program : Program Ans α) :
    Runs program (program.drive reply state).1 (program.drive reply state).2.1 := by
  induction program generalizing state with
  | done value => exact .refl _
  | perform op resume ih =>
    unfold Program.drive
    split
    · exact .refl _
    · exact .step _ (ih _ _)

end Interaction
