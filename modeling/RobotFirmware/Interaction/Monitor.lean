import RobotFirmware.Interaction.Program

/-!
# Monitors

A monitor watches the operations and answers of a program and says at each point which
operations it allows. `Monitor.Guards` is the weakest precondition calculus of a monitor: it
is computed by recursion on the program, distributes over sequencing, and holds exactly when
every run of the program is accepted and ends as promised. A property of all runs of a
program is proved by choosing a monitor that states it and rewriting with the rules below.
-/

namespace Interaction

variable {Op : Type} {Ans : Op → Type} {α β σ : Type}

/-- A state machine over events that allows some operations and refuses the others. -/
structure Monitor (Ans : Op → Type) where
  /-- What the monitor remembers. -/
  State : Type
  /-- The operations allowed in a state. -/
  allows : State → Op → Prop
  /-- The state after an answered operation. -/
  next : State → (op : Op) → Ans op → State

namespace Monitor

variable (m : Monitor Ans)

/-- The state after a trace. -/
def after : m.State → List (Event Ans) → m.State
  | state, [] => state
  | state, event :: trace => after (m.next state event.op event.answer) trace

/-- Every operation of the trace is allowed at its point. -/
def Accepts : m.State → List (Event Ans) → Prop
  | _, [] => True
  | state, event :: trace =>
    m.allows state event.op ∧ Accepts (m.next state event.op event.answer) trace

/-- An empty trace changes nothing. -/
@[simp] theorem after_nil (state : m.State) : m.after state [] = state := rfl

/-- The first event of a trace is watched first. -/
@[simp] theorem after_cons (state : m.State) (event : Event Ans) (trace : List (Event Ans)) :
    m.after state (event :: trace) = m.after (m.next state event.op event.answer) trace := rfl

/-- An empty trace is accepted. -/
@[simp] theorem accepts_nil (state : m.State) : m.Accepts state [] := trivial

/-- A trace is watched in pieces. -/
theorem after_append (state : m.State) (first later : List (Event Ans)) :
    m.after state (first ++ later) = m.after (m.after state first) later := by
  induction first generalizing state with
  | nil => rfl
  | cons event first ih => exact ih _

/-- Every piece of an accepted trace is accepted. -/
theorem accepts_append (state : m.State) (first later : List (Event Ans)) :
    m.Accepts state (first ++ later) ↔
      m.Accepts state first ∧ m.Accepts (m.after state first) later := by
  induction first generalizing state with
  | nil => simp
  | cons event first ih => simp only [List.cons_append, Accepts, ih, after_cons, and_assoc]

/-- Every operation of an accepted trace was allowed where it was performed. -/
theorem Accepts.allowed {m : Monitor Ans} {state : m.State} {trace : List (Event Ans)}
    (accepted : m.Accepts state trace) {event : Event Ans} (member : event ∈ trace) :
    ∃ reached, m.allows reached event.op := by
  induction trace generalizing state with
  | nil => cases member
  | cons first trace ih =>
    obtain ⟨allowed, later⟩ := accepted
    obtain rfl | member := List.mem_cons.mp member
    · exact ⟨_, allowed⟩
    · exact ih later member

/-- Whatever the answers, the program performs only allowed operations from `state`, and when
it returns `post` holds of the final monitor state and the returned value. -/
def Guards : m.State → Program Ans α → (m.State → α → Prop) → Prop
  | state, .done value, post => post state value
  | state, .perform op resume, post =>
    m.allows state op ∧ ∀ answer, Guards (m.next state op answer) (resume answer) post

variable {m} {state : m.State}

/-- A program that has returned keeps its promise now. -/
@[simp] theorem guards_done {value : α} {post : m.State → α → Prop} :
    m.Guards state (.done value) post ↔ post state value := Iff.rfl

/-- An operation is allowed where it is performed, and what follows is guarded after any answer. -/
@[simp] theorem guards_perform {op : Op} {resume : Ans op → Program Ans α}
    {post : m.State → α → Prop} :
    m.Guards state (.perform op resume) post ↔
      m.allows state op ∧ ∀ answer, m.Guards (m.next state op answer) (resume answer) post :=
  Iff.rfl

/-- The same for a single operation, whose answer is returned. -/
@[simp] theorem guards_act {op : Op} {post : m.State → Ans op → Prop} :
    m.Guards state (Program.act op) post ↔
      m.allows state op ∧ ∀ answer, post (m.next state op answer) answer := Iff.rfl

/-- Sequencing passes the monitor state on. -/
@[simp] theorem guards_bind {program : Program Ans α} {next : α → Program Ans β}
    {post : m.State → β → Prop} :
    m.Guards state (program >>= next) post ↔
      m.Guards state program fun middle value => m.Guards middle (next value) post := by
  induction program generalizing state with
  | done value => exact Iff.rfl
  | perform op resume ih =>
    simp only [Program.perform_bind, guards_perform, ih]

/-- A choice is guarded when the branch taken is. -/
@[simp] theorem guards_ite {condition : Prop} [Decidable condition]
    {first second : Program Ans α} {post : m.State → α → Prop} :
    m.Guards state (if condition then first else second) post ↔
      if condition then m.Guards state first post else m.Guards state second post := by
  split <;> rfl

/-- A choice is guarded when each branch is under its condition. -/
theorem Guards.branch {condition : Prop} [Decidable condition] {first second : Program Ans α}
    {post : m.State → α → Prop} (yes : condition → m.Guards state first post)
    (no : ¬ condition → m.Guards state second post) :
    m.Guards state (if condition then first else second) post := by
  split
  · exact yes ‹_›
  · exact no ‹_›

/-- A pure function of the value changes only the promise. -/
@[simp] theorem guards_map {program : Program Ans α} {f : α → β} {post : m.State → β → Prop} :
    m.Guards state (f <$> program) post ↔
      m.Guards state program fun middle value => post middle (f value) := by
  rw [map_eq_pure_bind, guards_bind]
  rfl

/-- A choice between stateful programs is guarded when the branch taken is. -/
@[simp] theorem guards_run_ite {condition : Prop} [Decidable condition]
    {first second : StateT σ (Program Ans) α} {memory : σ} {post : m.State → α × σ → Prop} :
    m.Guards state ((if condition then first else second).run memory) post ↔
      if condition then m.Guards state (first.run memory) post
      else m.Guards state (second.run memory) post := by
  split <;> rfl

/-- A weaker promise is kept as well. -/
theorem Guards.mono {program : Program Ans α} {post wanted : m.State → α → Prop}
    (guards : m.Guards state program post)
    (weaken : ∀ state value, post state value → wanted state value) :
    m.Guards state program wanted := by
  induction program generalizing state with
  | done value => exact weaken _ _ guards
  | perform op resume ih => exact ⟨guards.1, fun answer => ih answer (guards.2 answer)⟩

/-- What is guarded from one state is guarded from every wider one, and keeps a promise there that
does not get weaker. -/
theorem Guards.widen {wider : m.State → m.State → Prop}
    (permits : ∀ first second op, wider first second → m.allows first op → m.allows second op)
    (keeps : ∀ first second op answer, wider first second →
      wider (m.next first op answer) (m.next second op answer))
    {program : Program Ans α} {larger : m.State} {post wanted : m.State → α → Prop}
    (guards : m.Guards state program post) (widened : wider state larger)
    (weaken : ∀ first second value, wider first second → post first value → wanted second value) :
    m.Guards larger program wanted := by
  induction program generalizing state larger with
  | done value => exact weaken _ _ _ widened guards
  | perform op resume ih =>
    have allowed := permits _ _ op widened guards.1
    exact ⟨allowed, fun answer => ih answer (guards.2 answer) (keeps _ _ op answer widened)⟩

/-- The loop rule: a body that keeps an invariant keeps it over any number of rounds. -/
theorem guards_iterate {body : σ → Program Ans σ} (invariant : m.State → σ → Prop)
    (keeps : ∀ state value, invariant state value → m.Guards state (body value) invariant)
    (count : Nat) {value : σ} (start : invariant state value) :
    m.Guards state (Program.iterate body count value) invariant := by
  induction count generalizing state value with
  | zero => exact start
  | succ count ih =>
    exact guards_bind.mpr ((keeps _ _ start).mono fun _ _ kept => ih kept)

/-- The rule for a loop over a list: a body that brings an invariant from the elements done to one
more brings it to all of them. -/
theorem guards_foldlM {body : σ → β → Program Ans σ} {values : List β}
    (invariant : List β → m.State → σ → Prop)
    (keeps : ∀ done value later state memory, done ++ value :: later = values →
      invariant done state memory →
      m.Guards state (body memory value) (invariant (done ++ [value])))
    {memory : σ} (start : invariant [] state memory) :
    m.Guards state (values.foldlM body memory) (invariant values) := by
  have rounds (left done : List β) (state : m.State) (memory : σ) (split : done ++ left = values)
      (kept : invariant done state memory) :
      m.Guards state (left.foldlM body memory) (invariant values) := by
    induction left generalizing done state memory with
    | nil =>
      rw [List.append_nil] at split
      exact split ▸ kept
    | cons value left ih =>
      have round := keeps done value left state memory split kept
      rw [List.append_cons] at split
      exact guards_bind.mpr (round.mono fun final reached kept => ih _ final reached split kept)
  exact rounds values [] state memory (List.nil_append values) start

/-- A guarded program is accepted along every run, and what is left of it is still guarded. -/
theorem Guards.run {program rest : Program Ans α} {trace : List (Event Ans)}
    {post : m.State → α → Prop} (guards : m.Guards state program post)
    (run : program.Runs trace rest) :
    m.Accepts state trace ∧ m.Guards (m.after state trace) rest post := by
  induction run generalizing state with
  | refl => exact ⟨trivial, guards⟩
  | step answer _ ih =>
    obtain ⟨accepted, left⟩ := ih (guards.2 answer)
    exact ⟨⟨guards.1, accepted⟩, left⟩

/-- A complete run of a guarded program ends as promised. -/
theorem Guards.ends {program : Program Ans α} {trace : List (Event Ans)} {value : α}
    {post : m.State → α → Prop} (guards : m.Guards state program post)
    (run : program.Runs trace (.done value)) : post (m.after state trace) value :=
  (guards.run run).2

/-- A program is guarded with its operations replaced, when each replacement moves the monitor as a
second monitor moves at the operation itself. -/
theorem Guards.expand {m : Monitor Ans} (coarse : Monitor Ans) (view : coarse.State → m.State)
    {handler : (op : Op) → Program Ans (Ans op)}
    (replaces : ∀ state op, coarse.allows state op → m.Guards (view state) (handler op)
      fun final answer => final = view (coarse.next state op answer))
    {state : coarse.State} {program : Program Ans α} {post : m.State → α → Prop}
    (guards : coarse.Guards state program fun final value => post (view final) value) :
    m.Guards (view state) (program.expand handler) post := by
  induction program generalizing state with
  | done value => exact guards
  | perform op resume ih =>
    refine guards_bind.mpr ((replaces state op guards.1).mono fun final answer moved => ?_)
    rw [moved]
    exact ih answer (guards.2 answer)

/-- An operation that a guarded program is about to perform is allowed. -/
theorem Guards.allows_next {program rest : Program Ans α} {trace : List (Event Ans)}
    {op : Op} {post : m.State → α → Prop} (guards : m.Guards state program post)
    (run : program.Runs trace rest) (next : rest.next? = some op) :
    m.allows (m.after state trace) op := by
  have left := (guards.run run).2
  cases rest with
  | done value => cases next
  | perform found resume =>
    obtain rfl : found = op := Option.some.inj next
    exact left.1

/-- Note what some events show, and allow operations by what has been noted. -/
abbrev noting (reads : (op : Op) → Ans op → Option β) (permits : List β → Op → Prop) :
    Monitor Ans where
  State := List β
  allows := permits
  next noted op answer := noted ++ (reads op answer).toList

/-- What is noted after a trace. -/
theorem noting_after {reads : (op : Op) → Ans op → Option β} {permits : List β → Op → Prop}
    (noted : List β) (trace : List (Event Ans)) :
    (noting reads permits).after noted trace =
      noted ++ trace.filterMap fun event => reads event.op event.answer := by
  induction trace generalizing noted with
  | nil => exact (List.append_nil noted).symm
  | cons event trace ih =>
    rw [after_cons, ih, List.filterMap_cons]
    cases shown : reads event.op event.answer <;> simp [shown]

end Monitor

/-! ## Programs that only perform some operations -/

/-- The program performs only operations of the given kind, whatever the answers. -/
def Program.Within (kind : Op → Prop) : Program Ans α → Prop
  | .done _ => True
  | .perform op resume => kind op ∧ ∀ answer, (resume answer).Within kind

namespace Program.Within

variable {kind : Op → Prop}

/-- A program that has returned performs nothing. -/
@[simp] theorem done (value : α) : (Program.done value : Program Ans α).Within kind := trivial

/-- A single operation is of the kind or not. -/
@[simp] theorem act_iff {op : Op} :
    (Program.act op : Program Ans (Ans op)).Within kind ↔ kind op :=
  ⟨And.left, fun inside => ⟨inside, fun _ => trivial⟩⟩

/-- A program of one operation of the kind. -/
theorem act {op : Op} (inside : kind op) :
    (Program.act op : Program Ans (Ans op)).Within kind := act_iff.mpr inside

/-- An operation is of the kind, and so is what follows any answer. -/
@[simp] theorem act_bind_iff {op : Op} {next : Ans op → Program Ans α} :
    (Program.act op >>= next).Within kind ↔ kind op ∧ ∀ answer, (next answer).Within kind :=
  Iff.rfl

/-- One program after another. -/
theorem bind {program : Program Ans α} {next : α → Program Ans β}
    (first : program.Within kind) (second : ∀ value, (next value).Within kind) :
    (program >>= next).Within kind := by
  induction program with
  | done value => exact second value
  | perform op resume ih => exact ⟨first.1, fun answer => ih answer (first.2 answer)⟩

/-- A function of the value performs nothing. -/
theorem map {program : Program Ans α} {f : α → β} (inside : program.Within kind) :
    (f <$> program).Within kind := by
  rw [map_eq_pure_bind]
  exact inside.bind fun _ => trivial

/-- A choice stays where both branches do. -/
theorem ite {condition : Prop} [Decidable condition] {first second : Program Ans α}
    (yes : first.Within kind) (no : second.Within kind) :
    (if condition then first else second).Within kind := by
  split
  · exact yes
  · exact no

/-- A loop stays where its body does. -/
theorem iterate {body : σ → Program Ans σ} (inside : ∀ state, (body state).Within kind)
    (count : Nat) (state : σ) : (Program.iterate body count state).Within kind := by
  induction count generalizing state with
  | zero => exact trivial
  | succ count ih => exact (inside state).bind ih

/-- So does a loop over a list. -/
theorem forM {body : α → Program Ans PUnit} {values : List α}
    (inside : ∀ value ∈ values, (body value).Within kind) : (values.forM body).Within kind := by
  induction values with
  | nil => exact trivial
  | cons value values ih =>
    obtain ⟨first, later⟩ := List.forall_mem_cons.mp inside
    exact first.bind fun _ => ih later

/-- And one that passes a state along the list. -/
theorem foldlM {body : σ → α → Program Ans σ}
    (inside : ∀ state value, (body state value).Within kind) (values : List α) (state : σ) :
    (values.foldlM body state).Within kind := by
  induction values generalizing state with
  | nil => exact trivial
  | cons value values ih => exact (inside state value).bind fun _ => ih _

/-- A program that performs only operations of one kind performs only those of a larger one. -/
theorem mono {program : Program Ans α} {larger : Op → Prop} (inside : program.Within kind)
    (includes : ∀ op, kind op → larger op) : program.Within larger := by
  induction program with
  | done => trivial
  | perform op resume ih => exact ⟨includes op inside.1, fun answer => ih answer (inside.2 answer)⟩

/-- Every operation of a run is of the kind. -/
theorem run {program rest : Program Ans α} {trace : List (Event Ans)}
    (inside : program.Within kind) (run : program.Runs trace rest) :
    (∀ event ∈ trace, kind event.op) ∧ rest.Within kind := by
  induction run with
  | refl => exact ⟨by simp, inside⟩
  | step answer _ ih =>
    obtain ⟨trace, rest⟩ := ih (inside.2 answer)
    exact ⟨by simpa using ⟨inside.1, trace⟩, rest⟩

end Program.Within

/-- The stateful program performs only operations of the given kind from every state. -/
def StatefulWithin (kind : Op → Prop) (program : StateT σ (Program Ans) α) : Prop :=
  ∀ memory, (program.run memory).Within kind

namespace StatefulWithin

variable {kind : Op → Prop}

/-- Returning a value performs nothing. -/
theorem pure (value : α) : StatefulWithin kind (pure value : StateT σ (Program Ans) α) :=
  fun _ => trivial

/-- Nor does reading the state. -/
theorem get : StatefulWithin kind (get : StateT σ (Program Ans) σ) := fun _ => trivial

/-- Nor does changing it. -/
theorem modify (f : σ → σ) : StatefulWithin kind (modify f : StateT σ (Program Ans) PUnit) :=
  fun _ => trivial

/-- A program that does not see the state. -/
theorem lift {program : Program Ans α} (inside : program.Within kind) :
    StatefulWithin kind (monadLift program : StateT σ (Program Ans) α) :=
  fun _ => inside.bind fun _ => trivial

/-- One stateful program after another. -/
theorem bind {program : StateT σ (Program Ans) α} {next : α → StateT σ (Program Ans) β}
    (first : StatefulWithin kind program) (second : ∀ value, StatefulWithin kind (next value)) :
    StatefulWithin kind (program >>= next) :=
  fun memory => (first memory).bind fun reached => second reached.1 reached.2

/-- A choice stays where both branches do. -/
theorem ite {condition : Prop} [Decidable condition] {first second : StateT σ (Program Ans) α}
    (yes : StatefulWithin kind first) (no : StatefulWithin kind second) :
    StatefulWithin kind (if condition then first else second) := by
  split
  · exact yes
  · exact no

/-- A stateful program of operations of one kind is one of a larger kind. -/
theorem mono {program : StateT σ (Program Ans) α} {larger : Op → Prop}
    (inside : StatefulWithin kind program) (includes : ∀ op, kind op → larger op) :
    StatefulWithin larger program := fun memory => (inside memory).mono includes

end StatefulWithin

/-- A property of the monitor that every operation of a kind keeps, and under which the monitor
allows it, is kept by a program of such operations. -/
theorem Monitor.guards_of_within {m : Monitor Ans} {kind : Op → Prop} {Inv : m.State → Prop}
    {program : Program Ans α} {state : m.State} (inside : program.Within kind)
    (keeps : ∀ state op, kind op → Inv state →
      m.allows state op ∧ ∀ answer, Inv (m.next state op answer))
    (initially : Inv state) : m.Guards state program fun final _ => Inv final := by
  induction program generalizing state with
  | done value => exact initially
  | perform op resume ih =>
    obtain ⟨allowed, kept⟩ := keeps state op inside.1 initially
    exact ⟨allowed, fun answer => ih answer (inside.2 answer) (kept answer)⟩

/-- What a monitor never allows is not performed by a program that it guards. -/
theorem Program.within_of_guards {m : Monitor Ans} {kind : Op → Prop} {program : Program Ans α}
    {state : m.State} {post : m.State → α → Prop} (guards : m.Guards state program post)
    (only : ∀ state op, m.allows state op → kind op) : program.Within kind := by
  induction program generalizing state with
  | done value => trivial
  | perform op resume ih => exact ⟨only _ _ guards.1, fun answer => ih answer (guards.2 answer)⟩

/-- The monitor allows every operation of the kind and does not change at it. -/
def Monitor.Ignores (m : Monitor Ans) (kind : Op → Prop) : Prop :=
  ∀ state op, kind op → m.allows state op ∧ ∀ answer, m.next state op answer = state

/-- A program of ignored operations is guarded in every state and leaves it as it was. -/
theorem Monitor.Ignores.guards {m : Monitor Ans} {kind : Op → Prop} {program : Program Ans α}
    {post : m.State → α → Prop} {state : m.State} (ignores : m.Ignores kind)
    (inside : program.Within kind) (holds : ∀ value, post state value) :
    m.Guards state program post := by
  induction program with
  | done value => exact holds value
  | perform op resume ih =>
    obtain ⟨allowed, unchanged⟩ := ignores state op inside.1
    exact ⟨allowed, fun answer => by rw [unchanged]; exact ih answer (inside.2 answer)⟩

/-! ## Properties of the monitor that a program restores -/

/-- Started where the property holds, the program performs only allowed operations and returns
where it holds again. In between it need not hold. -/
def Monitor.Keeps (m : Monitor Ans) (Inv : m.State → Prop) (program : Program Ans α) : Prop :=
  ∀ state, Inv state → m.Guards state program fun final _ => Inv final

namespace Monitor.Keeps

variable {m : Monitor Ans} {Inv : m.State → Prop} {program : Program Ans α}

/-- One program after another. -/
theorem bind {next : α → Program Ans β} (first : m.Keeps Inv program)
    (second : ∀ value, m.Keeps Inv (next value)) : m.Keeps Inv (program >>= next) :=
  fun state holds => guards_bind.mpr
    ((first state holds).mono fun middle value kept => second value middle kept)

/-- A choice keeps what both branches keep. -/
theorem ite {condition : Prop} [Decidable condition] {first second : Program Ans α}
    (yes : m.Keeps Inv first) (no : m.Keeps Inv second) :
    m.Keeps Inv (if condition then first else second) := by
  split
  · exact yes
  · exact no

/-- Ignored operations change nothing. -/
theorem of_within {kind : Op → Prop} (ignores : m.Ignores kind) (inside : program.Within kind) :
    m.Keeps Inv program :=
  fun _ holds => ignores.guards inside fun _ => holds

/-- Operations that each keep the property. -/
theorem of_kind {kind : Op → Prop}
    (keeps : ∀ state op, kind op → Inv state →
      m.allows state op ∧ ∀ answer, Inv (m.next state op answer))
    (inside : program.Within kind) : m.Keeps Inv program :=
  fun _ holds => Monitor.guards_of_within inside keeps holds

/-- A loop over a list keeps what its rounds keep. -/
theorem forM {body : β → Program Ans PUnit} {values : List β}
    (each : ∀ value ∈ values, m.Keeps Inv (body value)) : m.Keeps Inv (values.forM body) := by
  induction values with
  | nil => exact fun _ holds => holds
  | cons value values ih =>
    have later : m.Keeps Inv (values.forM body) :=
      ih fun other member => each other (List.mem_cons_of_mem _ member)
    exact (each value List.mem_cons_self).bind fun _ => later

end Monitor.Keeps

/-- The stateful program keeps the property from every state. -/
def Monitor.StatefulKeeps (m : Monitor Ans) (Inv : m.State → Prop)
    (program : StateT σ (Program Ans) α) : Prop :=
  ∀ memory, m.Keeps Inv (program.run memory)

namespace Monitor.StatefulKeeps

variable {m : Monitor Ans} {Inv : m.State → Prop} {program : StateT σ (Program Ans) α}

/-- Returning a value keeps everything. -/
theorem pure (value : α) : m.StatefulKeeps Inv (pure value : StateT σ (Program Ans) α) :=
  fun _ _ holds => holds

/-- So does reading the state. -/
theorem get : m.StatefulKeeps Inv (get : StateT σ (Program Ans) σ) := fun _ _ holds => holds

/-- One stateful program after another. -/
theorem bind {next : α → StateT σ (Program Ans) β} (first : m.StatefulKeeps Inv program)
    (second : ∀ value, m.StatefulKeeps Inv (next value)) :
    m.StatefulKeeps Inv (program >>= next) :=
  fun memory => (first memory).bind fun reached => second reached.1 reached.2

/-- A choice keeps what both branches keep. -/
theorem ite {condition : Prop} [Decidable condition] {first second : StateT σ (Program Ans) α}
    (yes : m.StatefulKeeps Inv first) (no : m.StatefulKeeps Inv second) :
    m.StatefulKeeps Inv (if condition then first else second) := by
  split
  · exact yes
  · exact no

/-- A program that does not see the state. -/
theorem lift {program : Program Ans α} (keeps : m.Keeps Inv program) :
    m.StatefulKeeps Inv (monadLift program : StateT σ (Program Ans) α) :=
  fun _ => keeps.bind fun _ _ holds => holds

/-- Ignored operations change nothing. -/
theorem of_within {kind : Op → Prop} (ignores : m.Ignores kind)
    (inside : StatefulWithin kind program) : m.StatefulKeeps Inv program :=
  fun memory => .of_within ignores (inside memory)

end Monitor.StatefulKeeps

/-! ## Properties of the monitor that a program establishes -/

/-- Started where one property holds, the program performs only allowed operations and returns where
the other one holds. -/
def Monitor.Leads (m : Monitor Ans) (before after : m.State → Prop) (program : Program Ans α) :
    Prop :=
  ∀ state, before state → m.Guards state program fun final _ => after final

namespace Monitor.Leads

variable {m : Monitor Ans} {before middle after : m.State → Prop} {program : Program Ans α}

/-- A single operation that is allowed and leads from the one to the other. -/
theorem act {op : Op} (allowed : ∀ state, before state → m.allows state op)
    (moves : ∀ state, before state → ∀ answer, after (m.next state op answer)) :
    m.Leads before after (Program.act op : Program Ans (Ans op)) :=
  fun state holds => ⟨allowed state holds, moves state holds⟩

/-- What follows may promise something of its value, too. -/
theorem andThen {next : α → Program Ans β} {post : m.State → β → Prop}
    (first : m.Leads before middle program)
    (second : ∀ value state, middle state → m.Guards state (next value) post) {state : m.State}
    (holds : before state) : m.Guards state (program >>= next) post :=
  guards_bind.mpr ((first state holds).mono fun final value reached => second value final reached)

/-- One program leads to where another one starts. -/
theorem bind {next : α → Program Ans β} (first : m.Leads before middle program)
    (second : ∀ value, m.Leads middle after (next value)) :
        m.Leads before after (program >>= next) :=
  fun _ holds => first.andThen second holds

/-- A choice leads where both branches do. -/
theorem ite {condition : Prop} [Decidable condition] {first second : Program Ans α}
    (yes : m.Leads before after first) (no : m.Leads before after second) :
    m.Leads before after (if condition then first else second) := by
  split
  · exact yes
  · exact no

/-- What is kept is established where it held. -/
theorem of_keeps (keeps : m.Keeps after program) : m.Leads after after program := keeps

/-- More may hold before, and less is needed after. -/
theorem weaken {stronger weaker : m.State → Prop} (leads : m.Leads before after program)
    (starts : ∀ state, stronger state → before state)
    (ends : ∀ state, after state → weaker state) : m.Leads stronger weaker program :=
  fun state holds => (leads state (starts state holds)).mono fun final _ => ends final

end Monitor.Leads

/-- The stateful program leads from one property to the other from every state. -/
def Monitor.StatefulLeads (m : Monitor Ans) (before after : m.State → Prop)
    (program : StateT σ (Program Ans) α) : Prop :=
  ∀ memory, m.Leads before after (program.run memory)

namespace Monitor.StatefulLeads

variable {m : Monitor Ans} {before middle after : m.State → Prop}
  {program : StateT σ (Program Ans) α}

/-- One stateful program leads to where another one starts. -/
theorem bind {next : α → StateT σ (Program Ans) β} (first : m.StatefulLeads before middle program)
    (second : ∀ value, m.StatefulLeads middle after (next value)) :
    m.StatefulLeads before after (program >>= next) :=
  fun memory => (first memory).bind fun reached => second reached.1 reached.2

/-- A program that does not see the state. -/
theorem lift {program : Program Ans α} (leads : m.Leads before after program) :
    m.StatefulLeads before after (monadLift program : StateT σ (Program Ans) α) :=
  fun _ => leads.bind fun _ _ holds => holds

/-- What is kept is established where it held. -/
theorem of_keeps (keeps : m.StatefulKeeps after program) : m.StatefulLeads after after program :=
  keeps

end Monitor.StatefulLeads

end Interaction
