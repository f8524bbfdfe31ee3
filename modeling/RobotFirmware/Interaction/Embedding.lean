import RobotFirmware.Interaction.Monitor

/-!
# Programs over more operations

A program over some operations is one over any larger set in which they are answered alike. What a
monitor of the larger set requires of it is what the monitor requires when it only sees the smaller
set, so that what is known of the program carries over.
-/

namespace Interaction

variable {Op Op' : Type} {Ans' : Op' → Type} {α β : Type}

namespace Program

/-- The same program, each operation taken as one of the larger set. -/
def embed (into : Op → Op') : Program (fun op => Ans' (into op)) α → Program Ans' α
  | .done value => .done value
  | .perform op resume => .perform (into op) fun answer => (resume answer).embed into

variable {into : Op → Op'}

/-- A value is embedded as it is. -/
@[simp] theorem embed_done (value : α) :
    (done value : Program (fun op => Ans' (into op)) α).embed into = .done value := rfl

/-- An operation is replaced by its image. -/
@[simp] theorem embed_perform (op : Op)
    (resume : Ans' (into op) → Program (fun op => Ans' (into op)) α) :
    (perform op resume).embed into =
      (.perform (into op) fun answer => (resume answer).embed into : Program Ans' α) := rfl

/-- Sequencing is kept. -/
theorem embed_bind (program : Program (fun op => Ans' (into op)) α)
    (next : α → Program (fun op => Ans' (into op)) β) :
    (program >>= next).embed into =
      (program.embed into >>= fun value => (next value).embed into : Program Ans' β) := by
  induction program with
  | done value => rfl
  | perform op resume ih =>
    simp only [perform_bind, embed_perform, ih]

/-- The operations of the program in the larger set are those that it has. -/
theorem embed_within {kind : Op' → Prop} {program : Program (fun op => Ans' (into op)) α} :
    (program.embed into).Within kind ↔ program.Within fun op => kind (into op) := by
  induction program with
  | done value => exact Iff.rfl
  | perform op resume ih => exact and_congr_right fun _ => forall_congr' ih

end Program

/-- An event, its operation taken as one of the larger set. -/
def Event.embed (into : Op → Op') (event : Event fun op => Ans' (into op)) : Event Ans' :=
  ⟨into event.op, event.answer⟩

/-- A run among the larger set is a run among the smaller one. -/
theorem Program.Runs.of_embed {into : Op → Op'} {program : Program (fun op => Ans' (into op)) α}
    {trace : List (Event Ans')} {rest : Program Ans' α}
    (run : Runs (program.embed into) trace rest) :
    ∃ inner left, Runs program inner left ∧ trace = inner.map (Event.embed into) ∧
      rest = left.embed into := by
  induction program generalizing trace with
  | done value =>
    obtain ⟨rfl, rfl⟩ := run.of_done
    exact ⟨[], .done value, .refl _, rfl, rfl⟩
  | perform op resume ih =>
    cases run with
    | refl => exact ⟨[], .perform op resume, .refl _, rfl, rfl⟩
    | step answer later =>
      obtain ⟨inner, left, runs, trace, rest⟩ := ih answer later
      have whole : Runs (perform op resume : Program (fun op => Ans' (into op)) α)
          (⟨op, answer⟩ :: inner) left := by
        apply Runs.step
        exact runs
      exact ⟨_, left, whole, congrArg (⟨into op, answer⟩ :: ·) trace, rest⟩

namespace Monitor

/-- The monitor as it sees the smaller set. -/
abbrev along (m : Monitor Ans') (into : Op → Op') : Monitor fun op => Ans' (into op) where
  State := m.State
  allows state op := m.allows state (into op)
  next state op answer := m.next state (into op) answer

/-- A program is guarded among the larger set as it is among the smaller one. -/
theorem guards_embed {m : Monitor Ans'} {into : Op → Op'} {state : m.State}
    {program : Program (fun op => Ans' (into op)) α} {post : m.State → α → Prop} :
    m.Guards state (program.embed into) post ↔ (m.along into).Guards state program post := by
  induction program generalizing state with
  | done value => exact Iff.rfl
  | perform op resume ih => exact and_congr_right fun _ => forall_congr' fun answer => ih answer

end Monitor

end Interaction
