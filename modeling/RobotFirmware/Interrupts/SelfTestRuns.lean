import RobotFirmware.Interaction.Playback
import RobotFirmware.Interrupts.SelfTests
import Mathlib.Data.List.Basic

/-!
# Runs of the interrupt tests

Every step of a run changes the bench in one of a few ways, and three invariants follow from them: a
phase that may see its completed flag had its pin serviced, only the device that core 0 holds has a
flag or a response, and flags stay set until they are cleared. The first two need a condition on the
steps, since responses outlive their phases and the second phases clear too few flags.
-/

namespace RobotFirmware

open Interaction
open TypeC (Thread callQueueCapacity)

namespace SelfTests

/-! ## What a step does -/

/-- What a deed does to the bench. Core 0 moves while the callback rests. -/
inductive Change (bench : Bench) : Deed → Bench → Prop where
  /-- Nothing about the tests. -/
  | aside (what : Deed) (latched : Nat → UInt32) (entries : List QueueEntry)
      (serviced : Tested → List Nat) (silent : ∀ entry ∈ entries, response? entry.func = none)
      (grows : ∀ tested, bench.serviced tested ⊆ serviced tested) :
      Change bench what { bench with
        latched := latched
        callQueue := bench.callQueue ++ entries
        serviced := serviced }
  /-- A phase starts. -/
  | start (phase : Phase) (begins : bench.stage.Begins phase) (rests : bench.callback = .resting) :
      Change bench (.set (.started phase.tested) true) { bench with
        stage := .waiting phase
        marks := Function.update bench.marks (.started phase.tested) true
        serviced := Function.update bench.serviced phase.tested [] }
  /-- A phase sees its completed flag. -/
  | see (phase : Phase) (waits : bench.stage = .waiting phase)
      (completed : bench.marks (.completed phase.tested) = true) :
      Change bench (.see (.completed phase.tested) true) { bench with stage := .seen phase }
  /-- A phase clears its started flag. -/
  | stop (phase : Phase) (seen : bench.stage = .seen phase) (rests : bench.callback = .resting) :
      Change bench (.set (.started phase.tested) false) { bench with
        stage := .stopped phase
        marks := Function.update bench.marks (.started phase.tested) false }
  /-- A phase clears its completed flag. -/
  | clear (phase : Phase) (stopped : bench.stage = .stopped phase) :
      Change bench (.set (.completed phase.tested) false) { bench with
        stage := .cleared phase
        marks := Function.update bench.marks (.completed phase.tested) false }
  /-- An edge of a device is serviced. -/
  | acknowledge (gpio : Nat) (events : UInt32) (tested : Tested) (latched : Nat → UInt32)
      (belongs : tested? gpio = some tested) :
      Change bench (.acknowledge gpio events) { bench with
        latched := latched
        callback := .servicing tested
        serviced := fun tested => gpio :: bench.serviced tested }
  /-- The callback looks at a started flag. -/
  | look (tested : Tested) (services : bench.callback = .servicing tested) :
      Change bench (.see (.started tested) (bench.marks (.started tested))) { bench with
        callback := if bench.marks (.started tested) then .answering tested else .resting }
  /-- The callback queues a response. -/
  | respond (entry : QueueEntry) (tested : Tested) (answers : bench.callback = .answering tested)
      (responds : response? entry.func = some tested) :
      Change bench (.queue entry true) { bench with
        callQueue := bench.callQueue ++ [entry]
        callback := .resting }
  /-- Core 1 executes a response. -/
  | complete (tested : Tested) (executes : bench.responding = some tested) :
      Change bench (.set (.completed tested) true) { bench with
        marks := Function.update bench.marks (.completed tested) true
        responding := none }

/-- A flag that core 0 assigns belongs to the phase that it is in. -/
theorem staged_set {stage : Stage} {mark : Mark} {value : Bool}
    (tests : (Deed.set mark value).Tests stage) :
    (∃ phase : Phase, stage.Begins phase ∧ mark = .started phase.tested ∧ value = true ∧
      staged stage (.set mark value) = .waiting phase) ∨
    (∃ phase : Phase, stage = .seen phase ∧ mark = .started phase.tested ∧ value = false ∧
      staged stage (.set mark value) = .stopped phase) ∨
    ∃ phase : Phase, stage = .stopped phase ∧ mark = .completed phase.tested ∧ value = false ∧
      staged stage (.set mark value) = .cleared phase := by
  cases mark with
  | started device =>
    cases value with
    | true =>
      cases stage with
      | begun tested =>
        obtain rfl : device = tested := tests
        exact .inl ⟨device.first, .inl ⟨by simp, by simp⟩, by simp, rfl, rfl⟩
      | cleared phase =>
        obtain rfl : device = phase.tested := tests
        exact .inl ⟨phase.tested.last, .inr ⟨phase, rfl, rfl⟩, by simp, rfl, rfl⟩
      | _ => exact tests.elim
    | false =>
      cases stage with
      | seen phase =>
        obtain rfl : device = phase.tested := tests
        exact .inr (.inl ⟨phase, rfl, rfl, rfl, rfl⟩)
      | _ => exact tests.elim
  | completed device =>
    cases value with
    | true => cases stage <;> exact tests.elim
    | false =>
      cases stage with
      | stopped phase =>
        obtain rfl : device = phase.tested := tests
        exact .inr (.inr ⟨phase, rfl, rfl, rfl, rfl⟩)
      | _ => exact tests.elim

/-- A flag that core 0 reads is the completed flag of the phase that waits. -/
theorem staged_see {stage : Stage} {mark : Mark} {value : Bool}
    (tests : (Deed.see mark value).Tests stage) :
    ∃ phase : Phase, stage = .waiting phase ∧ mark = .completed phase.tested ∧
      staged stage (.see mark value) = if value then .seen phase else stage := by
  cases mark with
  | started device => cases stage <;> exact tests.elim
  | completed device =>
    cases stage with
    | waiting phase =>
      obtain rfl : device = phase.tested := tests
      exact ⟨phase, rfl, rfl, by cases value <;> rfl⟩
    | _ => exact tests.elim

namespace Bench

/-- Latched edges, and pins of other devices, are not about the tests. -/
theorem latched_unchanged (bench : Bench) (what : Deed) (latched : Nat → UInt32)
    {serviced : Tested → List Nat} (grows : ∀ tested, bench.serviced tested ⊆ serviced tested) :
    Change bench what { bench with latched := latched, serviced := serviced } := by
  have change := @Change.aside bench what latched [] serviced (by simp) grows
  rwa [List.append_nil] at change

/-- A bench that stays as it is has changed in an allowed way. -/
theorem unchanged (bench : Bench) (what : Deed) : Change bench what bench :=
  latched_unchanged bench what bench.latched fun _ => List.Subset.refl _

/-- An entry that is no response is offered. -/
theorem act_queue {bench after : Bench} {entry : QueueEntry} {added : Bool}
    (silent : response? entry.func = none) (acted : bench.act (.queue entry added) = some after) :
    Change bench (.queue entry added) after := by
  obtain ⟨_, same⟩ := Option.ite_none_right_eq_some.mp acted
  obtain rfl := Option.some.inj same
  cases added with
  | false => exact unchanged bench _
  | true =>
    refine .aside (.queue entry true) bench.latched [entry] bench.serviced ?_
      fun _ => List.Subset.refl _
    rintro _ member
    rwa [List.mem_singleton.mp member]

/-- A permitted deed of core 0 changes the bench in one of these ways. -/
theorem change_of_tests {bench after : Bench} {what : Deed} (permitted : what.Tests bench.stage)
    (rests : bench.callback = .resting)
    (acted : (bench.moved .core0 what).act what = some after) : Change bench what after := by
  cases what with
  | other =>
    obtain rfl := Option.some.inj acted
    exact unchanged bench _
  | queue entry added => exact act_queue permitted acted
  | acknowledge gpio events =>
    obtain rfl := Option.some.inj acted
    exact latched_unchanged bench _ _ fun _ => List.Subset.refl _
  | set mark value =>
    obtain rfl := Option.some.inj acted
    obtain ⟨phase, begins, rfl, rfl, next⟩ | ⟨phase, seen, rfl, rfl, next⟩ |
      ⟨phase, stopped, rfl, rfl, next⟩ := staged_set permitted
    · have change := Change.start phase begins rests
      rw [← next] at change
      exact change
    · have change := Change.stop phase seen rests
      rw [← next] at change
      exact change
    · have change := Change.clear phase stopped
      rw [← next] at change
      exact change
  | see mark value =>
    obtain ⟨same, found⟩ := Option.ite_none_right_eq_some.mp acted
    obtain rfl := Option.some.inj found
    obtain ⟨phase, waits, rfl, next⟩ := staged_see permitted
    cases value with
    | true =>
      have change := Change.see phase waits same.symm
      rw [if_pos rfl] at next
      rw [← next] at change
      exact change
    | false =>
      have stays : staged bench.stage (.see (.completed phase.tested) false) = bench.stage := next
      change Change bench _ { bench with stage := staged bench.stage _ }
      rw [stays]
      exact unchanged bench _

/-- A permitted deed of the callback changes the bench in one of these ways. -/
theorem change_of_answers {bench after : Bench} {what : Deed}
    (permitted : what.Answers bench.callback)
    (acted : (bench.moved .interrupt what).act what = some after) : Change bench what after := by
  cases what with
  | other =>
    obtain rfl := Option.some.inj acted
    exact unchanged bench _
  | queue entry added =>
    cases told : response? entry.func with
    | none =>
      have stays : bench.moved .interrupt (.queue entry added) = bench := by
        simp only [moved, called, recorded, told, ne_eq, not_true_eq_false, and_false, if_false]
      rw [stays] at acted
      exact act_queue told acted
    | some tested =>
      obtain ⟨_, same⟩ := Option.ite_none_right_eq_some.mp acted
      obtain rfl := Option.some.inj same
      cases added with
      | false =>
        exact unchanged bench _
      | true =>
        have change := Change.respond entry tested (permitted tested told) told
        have rests : called bench.callback (.queue entry true) = .resting :=
          if_pos ⟨rfl, by rw [told]; exact Option.some_ne_none _⟩
        rw [← rests] at change
        exact change
  | set mark value => exact permitted.elim
  | see mark value =>
    cases mark with
    | started tested =>
      obtain ⟨same, found⟩ := Option.ite_none_right_eq_some.mp acted
      obtain rfl := Option.some.inj found
      obtain rfl : value = bench.marks (.started tested) := same
      exact Change.look tested permitted
    | completed tested => exact permitted.elim
  | acknowledge gpio events =>
    obtain rfl := Option.some.inj acted
    have grows (tested : Tested) : bench.serviced tested ⊆ gpio :: bench.serviced tested :=
      List.subset_cons_self ..
    cases belongs : tested? gpio with
    | none =>
      have stays : called bench.callback (.acknowledge gpio events) = bench.callback := by
        rw [called, belongs]
        rfl
      have change := latched_unchanged bench (.acknowledge gpio events)
        (Function.update bench.latched gpio (bench.latched gpio &&& ~~~events)) grows
      rw [← stays] at change
      exact change
    | some tested =>
      have change := @Change.acknowledge bench gpio events tested
        (Function.update bench.latched gpio (bench.latched gpio &&& ~~~events)) belongs
      have moves : called bench.callback (.acknowledge gpio events) = .servicing tested := by
        rw [called, belongs]
        rfl
      rw [← moves] at change
      exact change

/-- A permitted deed of core 1 changes the bench in one of these ways. -/
theorem change_of_completes {bench after : Bench} {what : Deed}
    (permitted : what.Completes bench.responding)
    (acted : (bench.moved .core1 what).act what = some after) : Change bench what after := by
  cases what with
  | other =>
    obtain rfl := Option.some.inj acted
    exact unchanged bench _
  | queue entry added => exact act_queue permitted acted
  | acknowledge gpio events =>
    obtain rfl := Option.some.inj acted
    exact latched_unchanged bench _ _ fun _ => List.Subset.refl _
  | set mark value =>
    obtain rfl := Option.some.inj acted
    obtain ⟨tested, executes, rfl, rfl⟩ := permitted
    exact Change.complete tested executes
  | see mark value => exact permitted.elim

/-- What a deed does to the bench moves no thread. -/
theorem act_threads {bench after : Bench} {what : Deed} (acted : bench.act what = some after) :
    after.stage = bench.stage ∧ after.callback = bench.callback ∧
      after.responding = bench.responding := by
  cases what with
  | queue entry added =>
    obtain ⟨_, same⟩ := Option.ite_none_right_eq_some.mp acted
    obtain rfl := Option.some.inj same
    exact ⟨rfl, rfl, rfl⟩
  | see mark value =>
    obtain ⟨_, same⟩ := Option.ite_none_right_eq_some.mp acted
    obtain rfl := Option.some.inj same
    exact ⟨rfl, rfl, rfl⟩
  | _ =>
    obtain rfl := Option.some.inj acted
    exact ⟨rfl, rfl, rfl⟩

end Bench

section Runs

variable [Max77958.DriverHeader]

/-- The threads keep to their monitors. -/
def discipline : System.Discipline (system : System Ans) where
  monitor := monitor
  view := view
  rest := rest
  own := by
    intro thread bench op answer after executed
    obtain ⟨stage, callback, responding⟩ := Bench.act_threads executed
    cases thread with
    | core0 => exact stage
    | interrupt => exact callback
    | core1 => exact responding
  other := by
    intro thread bench op answer after executed bystander apart
    obtain ⟨stage, callback, responding⟩ := Bench.act_threads executed
    cases bystander with
    | core0 =>
      cases thread with
      | core0 => exact absurd rfl apart
      | _ => exact stage
    | interrupt =>
      cases thread with
      | interrupt => exact absurd rfl apart
      | _ => exact callback
    | core1 =>
      cases thread with
      | core1 => exact absurd rfl apart
      | _ => exact responding
  launched := by
    intro thread bench program after launched resting
    cases thread with
    | core0 =>
      obtain ⟨tested, rfl, rfl⟩ | ⟨rfl, inside⟩ := launched
      · exact (guards_test tested).mono fun _ _ ended => .inr ⟨tested, ended⟩
      · exact tester_ignores_untesting.guards inside fun _ => .inl rfl
    | interrupt =>
      obtain ⟨gpio, _, rfl, rfl⟩ := launched
      have rests : bench.callback = .resting := resting
      change answerer.Guards bench.callback _ _
      rw [rests]
      exact guards_callback gpio _
    | core1 =>
      obtain ⟨entry, rest, queued, rfl, runs⟩ := launched
      split at runs
      · rename_i own
        obtain ⟨buffers, rfl⟩ := runs
        exact guards_call buffers entry own
      · rename_i foreign
        have silent : response? entry.func = none := by
          revert foreign
          cases entry.func <;> first | exact fun _ => rfl | exact fun foreign => absurd rfl foreign
        exact completer_ignores_elsewhere.guards runs fun _ => silent
  aside := by
    intro thread bench program after launched bystander apart
    cases thread with
    | core0 =>
      obtain ⟨tested, rfl, _⟩ | ⟨rfl, _⟩ := launched
      · cases bystander with
        | core0 => exact absurd rfl apart
        | _ => rfl
      · cases bystander with
        | core0 => exact absurd rfl apart
        | _ => rfl
    | interrupt =>
      obtain ⟨gpio, _, rfl, _⟩ := launched
      cases bystander <;> rfl
    | core1 =>
      obtain ⟨entry, rest, queued, rfl, _⟩ := launched
      cases bystander with
      | core1 => exact absurd rfl apart
      | _ => rfl
  drifted := by
    intro bench after drifted thread
    cases drifted
    cases thread <;> rfl

/-- Each thread starts as its monitor expects. -/
theorem holds_started : discipline.Holds started := by
  intro thread
  cases thread with
  | core0 => exact .inl rfl
  | _ => exact rfl

/-- The invariant rule for the bench: changes that meet a condition preserve it, and so do a launch
of core 0 at rest and taking an entry from the queue. -/
theorem reaches_invariant {condition : Bench → Deed → Prop} {Inv : Bench → Prop}
    (change : ∀ {bench what after}, Inv bench → condition bench what → Change bench what after →
      Inv after)
    (launch : ∀ {bench : Bench} {stage : Stage}, Inv bench → rest .core0 bench.stage →
      (stage = .idle ∨ ∃ tested, stage = .begun tested) → Inv { bench with stage := stage })
    (dequeue : ∀ {bench : Bench} {entry rest}, Inv bench → bench.responding = none →
      bench.callQueue = entry :: rest → Inv (bench.dequeue entry rest))
    (otherwise : ∀ bench, condition bench .other) (initially : Inv Bench.start)
    {config : (system : System Ans).Config}
    (reached : System.Reaches (Bench.During condition) started config) :
    discipline.Holds config ∧ Inv config.shared := by
  refine discipline.preemptive_invariant
    (fun {thread bench op answer after} inv rests allowed met executed => ?_)
    (fun {thread bench program after} inv _ resting _ launched => ?_)
    (fun {bench after} inv _ drifted => ?_) holds_started initially reached
  · refine change inv met ?_
    cases thread with
    | core0 =>
      exact Bench.change_of_tests (allowed.1 answer) (rests Thread.interrupt ⟨rfl, rfl⟩) executed
    | interrupt => exact Bench.change_of_answers (allowed answer) executed
    | core1 => exact Bench.change_of_completes (allowed answer) executed
  · cases thread with
    | core0 =>
      obtain ⟨tested, rfl, _⟩ | ⟨rfl, _⟩ := launched
      · exact launch inv resting (.inr ⟨tested, rfl⟩)
      · exact launch inv resting (.inl rfl)
    | interrupt =>
      obtain ⟨gpio, _, rfl, _⟩ := launched
      exact change inv (otherwise bench)
        (Bench.latched_unchanged bench .other _ fun _ => List.Subset.refl _)
    | core1 =>
      obtain ⟨entry, rest, queued, rfl, _⟩ := launched
      exact dequeue inv resting queued
  · obtain ⟨gpio, events⟩ := drifted
    exact change inv (otherwise bench)
      (Bench.latched_unchanged bench .other _ fun _ => List.Subset.refl _)

end Runs

/-! ## Messages that a phase has passed -/

namespace Bench

/-- Entries that are no responses are not pending. -/
theorem pending_silent {bench : Bench} {entries : List QueueEntry}
    (silent : ∀ entry ∈ entries, response? entry.func = none) {tested : Tested} :
    Pending { bench with callQueue := bench.callQueue ++ entries } tested ↔
      bench.Pending tested := by
  have none : entries.any (fun entry => response? entry.func = some tested) = false := by
    refine List.any_eq_false.mpr fun entry member => ?_
    simp [silent entry member]
  simp only [Pending, List.any_append, none, Bool.or_false]

/-- After the callback has queued a response, it is pending besides. -/
theorem pending_respond {bench : Bench} {entry : QueueEntry} {tested : Tested}
    (pending : Pending { bench with
      callQueue := bench.callQueue ++ [entry]
      callback := .resting } tested) :
    bench.Pending tested ∨ response? entry.func = some tested := by
  simpa [Pending, or_assoc] using pending

/-- Taking an entry from the queue does not change what is pending. -/
theorem pending_dequeue {bench : Bench} {entry : QueueEntry} {rest : List QueueEntry}
    (resting : bench.responding = none) (queued : bench.callQueue = entry :: rest)
    {tested : Tested} :
    (bench.dequeue entry rest).Pending tested ↔ bench.Pending tested := by
  simp [Pending, dequeue, resting, queued]

/-- A response of the device has come, is pending, or may still be queued. -/
def Astir (bench : Bench) (tested : Tested) : Prop :=
  bench.marks (.completed tested) = true ∨ bench.Pending tested ∨
    bench.callback = .servicing tested ∨ bench.callback = .answering tested

/-- A phase that may see its completed flag, or has seen it, had its pin serviced. -/
structure Sound (bench : Bench) : Prop where
  /-- A waiting phase. -/
  waiting : ∀ phase : Phase, bench.stage = .waiting phase → bench.Astir phase.tested →
    phase.pin ∈ bench.serviced phase.tested
  /-- A phase that has seen its completed flag. -/
  past : ∀ phase, bench.stage.Past phase → phase.pin ∈ bench.serviced phase.tested

/-- Where core 0 is in no phase there is nothing to show. -/
theorem sound_of_outside {bench : Bench}
    (outside : bench.stage = .idle ∨ ∃ tested, bench.stage = .begun tested) : bench.Sound := by
  obtain idle | ⟨tested, begun⟩ := outside
  · exact ⟨by simp [idle], by simp [idle, Stage.Past]⟩
  · exact ⟨by simp [begun], by simp [begun, Stage.Past]⟩

/-- The phase that core 0 is past is the only one. -/
theorem sound_of_past {bench : Bench} {phase : Phase} (past : bench.stage.Past phase)
    (serviced : phase.pin ∈ bench.serviced phase.tested) : bench.Sound := by
  refine ⟨fun other waits => absurd waits fun waits => ?_, fun other also => ?_⟩
  · simp [Stage.Past, waits] at past
  · obtain stage | stage | stage := past
    all_goals
      obtain rfl : phase = other := by simpa [Stage.Past, stage] using also
      exact serviced

/-- A change keeps the bench sound when phases are not mistaken. -/
theorem Sound.change {bench after : Bench} {what : Deed} (sound : bench.Sound)
    (met : bench.Unmistaken what) (change : Change bench what after) : after.Sound := by
  cases change with
  | aside what latched entries serviced silent grows =>
    refine ⟨fun phase waits astir => grows _ (sound.waiting phase waits ?_),
      fun phase past => grows _ (sound.past phase past)⟩
    exact astir.imp_right (Or.imp_left (pending_silent silent).mp)
  | start phase begins rests =>
    obtain ⟨clear, idle⟩ := met
    refine ⟨fun other waits astir => ?_, fun other past => by simp [Stage.Past] at past⟩
    obtain rfl : phase = other := Stage.waiting.inj waits
    have calm : ¬ bench.Astir phase.tested := by simp [Astir, clear, idle, rests]
    exact absurd astir calm
  | see phase waits completed =>
    exact sound_of_past (.inl rfl) (sound.waiting phase waits (.inl completed))
  | stop phase seen rests => exact sound_of_past (.inr (.inl rfl)) (sound.past phase (.inl seen))
  | clear phase stopped =>
    exact sound_of_past (.inr (.inr rfl)) (sound.past phase (.inr (.inl stopped)))
  | acknowledge gpio events tested latched belongs =>
    refine ⟨fun phase waits astir => ?_, fun phase past => .tail _ (sound.past phase past)⟩
    obtain completed | pending | services | answers := astir
    · exact .tail _ (sound.waiting phase waits (.inl completed))
    · exact .tail _ (sound.waiting phase waits (.inr (.inl pending)))
    · obtain rfl : tested = phase.tested := Callback.servicing.inj services
      obtain rfl | first := met phase phase.mem_all waits belongs
      · exact .head _
      · exact .tail _ first
    · cases answers
  | look tested services =>
    refine ⟨fun phase waits astir => sound.waiting phase waits ?_, sound.past⟩
    refine astir.imp_right (Or.imp_right fun moved => ?_)
    cases set : bench.marks (.started tested) with
    | true =>
      simp only [set, if_true, reduceCtorEq, false_or] at moved
      exact .inl (services.trans (congrArg _ (Callback.answering.inj moved)))
    | false => simp [set] at moved
  | respond entry tested answers responds =>
    refine ⟨fun phase waits astir => sound.waiting phase waits ?_, sound.past⟩
    obtain completed | pending | services | answered := astir
    · exact .inl completed
    · obtain before | new := pending_respond pending
      · exact .inr (.inl before)
      · rw [responds] at new
        exact .inr (.inr (.inr (answers.trans (congrArg _ (Option.some.inj new)))))
    · cases services
    · cases answered
  | complete tested executes =>
    refine ⟨fun phase waits astir => sound.waiting phase waits ?_, sound.past⟩
    by_cases same : phase.tested = tested
    · exact .inr (.inl (.inl (executes.trans (congrArg some same.symm))))
    · refine astir.imp (fun completed => ?_) (Or.imp_left fun pending => ?_)
      · change Function.update bench.marks (.completed tested) true (.completed phase.tested) = true
          at completed
        rwa [Function.update_of_ne fun clash => same (Mark.completed.inj clash)] at completed
      · exact .inr (pending.resolve_left (by simp))

end Bench

/-! ## Flags that are left behind -/

namespace Bench

/-- The flags that a phase has seen set and has not cleared are set. -/
structure Marked (bench : Bench) : Prop where
  /-- A waiting phase has set its started flag. -/
  waiting : ∀ phase : Phase, bench.stage = .waiting phase →
    bench.marks (.started phase.tested) = true
  /-- A phase that has seen its completed flag has cleared none. -/
  seen : ∀ phase : Phase, bench.stage = .seen phase →
    bench.marks (.started phase.tested) = true ∧ bench.marks (.completed phase.tested) = true
  /-- Then it clears the started flag only. -/
  stopped : ∀ phase : Phase, bench.stage = .stopped phase →
    bench.marks (.completed phase.tested) = true

/-- Where core 0 is in no phase there is nothing to show. -/
theorem marked_of_outside {bench : Bench}
    (outside : bench.stage = .idle ∨ ∃ tested, bench.stage = .begun tested) : bench.Marked := by
  obtain idle | ⟨tested, begun⟩ := outside
  · exact ⟨by simp [idle], by simp [idle], by simp [idle]⟩
  · exact ⟨by simp [begun], by simp [begun], by simp [begun]⟩

/-- Every change keeps the flags marked. -/
theorem Marked.change {bench after : Bench} {what : Deed} (marked : bench.Marked)
    (change : Change bench what after) : after.Marked := by
  cases change with
  | aside => exact ⟨marked.waiting, marked.seen, marked.stopped⟩
  | start phase begins rests =>
    refine ⟨fun other waits => ?_, by simp, by simp⟩
    obtain rfl : phase = other := Stage.waiting.inj waits
    exact Function.update_self ..
  | see phase waits completed =>
    refine ⟨by simp, fun other seen => ?_, by simp⟩
    obtain rfl : phase = other := Stage.seen.inj seen
    exact ⟨marked.waiting phase waits, completed⟩
  | stop phase seen rests =>
    refine ⟨by simp, by simp, fun other stopped => ?_⟩
    obtain rfl : phase = other := Stage.stopped.inj stopped
    simpa using (marked.seen phase seen).2
  | clear phase stopped => exact ⟨by simp, by simp, by simp⟩
  | acknowledge => exact ⟨marked.waiting, marked.seen, marked.stopped⟩
  | look => exact ⟨marked.waiting, marked.seen, marked.stopped⟩
  | respond => exact ⟨marked.waiting, marked.seen, marked.stopped⟩
  | complete tested executes =>
    have grows {mark : Mark} (set : bench.marks mark = true) :
        Function.update bench.marks (.completed tested) true mark = true := by
      by_cases same : mark = .completed tested
      · rw [same, Function.update_self]
      · rwa [Function.update_of_ne same]
    exact ⟨fun phase waits => grows (marked.waiting phase waits),
      fun phase seen => (marked.seen phase seen).imp grows grows,
      fun phase stopped => grows (marked.stopped phase stopped)⟩

end Bench

/-! ## Flags that are cleared -/

/-- The device whose flags core 0 has set and not cleared. -/
def Stage.held? : Stage → Option Tested
  | .waiting phase => some phase.tested
  | .seen phase => some phase.tested
  | .stopped phase => some phase.tested
  | .cleared phase => if phase = .charger then none else some phase.tested
  | _ => none

/-- What is held is what is tested. -/
theorem Stage.tested?_of_held? {stage : Stage} {tested : Tested}
    (held : stage.held? = some tested) : stage.tested? = some tested := by
  cases stage with
  | cleared phase => exact (Option.ite_none_left_eq_some.mp held).2
  | waiting phase => exact held
  | seen phase => exact held
  | stopped phase => exact held
  | _ => cases held

namespace Bench

/-- The flags of the device are clear, and no response of it is pending. -/
structure Clean (bench : Bench) (tested : Tested) : Prop where
  /-- The started flag. -/
  started : bench.marks (.started tested) = false
  /-- The completed flag. -/
  completed : bench.marks (.completed tested) = false
  /-- The responses. -/
  calm : ¬ bench.Pending tested

/-- Being clean depends on the marks and the queue of responses. -/
theorem Clean.congr {bench after : Bench} {tested : Tested} (clean : bench.Clean tested)
    (marks : after.marks = bench.marks) (callQueue : after.callQueue = bench.callQueue)
    (responding : after.responding = bench.responding) : after.Clean tested := by
  obtain ⟨started, completed, calm⟩ := clean
  rw [Pending, ← callQueue, ← responding] at calm
  exact ⟨marks ▸ started, marks ▸ completed, calm⟩

/-- Only the device that core 0 holds is not clean. -/
structure Tended (bench : Bench) : Prop where
  /-- The others are clean. -/
  clean : ∀ tested, bench.stage.held? ≠ some tested → bench.Clean tested
  /-- A phase that has stopped has cleared its started flag. -/
  stopped : ∀ phase : Phase, bench.stage = .stopped phase →
    bench.marks (.started phase.tested) = false
  /-- The callback queues a response only while the started flag is set. -/
  answering : ∀ tested, bench.callback = .answering tested → bench.marks (.started tested) = true
  /-- No second phase has seen its completed flag. -/
  early : ∀ tested : Tested, bench.stage = .seen tested.last ∨ bench.stage = .stopped tested.last →
    tested = .max77976

/-- A tidy change keeps the bench tended. -/
theorem Tended.change {bench after : Bench} {what : Deed} (tended : bench.Tended)
    (met : bench.Tidy what) (change : Change bench what after) : after.Tended := by
  obtain ⟨clean, stopped, answering, early⟩ := tended
  cases change with
  | aside what latched entries serviced silent grows =>
    refine ⟨fun tested free => ?_, stopped, answering, early⟩
    obtain ⟨first, second, calm⟩ := clean tested free
    exact ⟨first, second, fun pending => calm ((pending_silent silent).mp pending)⟩
  | start phase begins rests =>
    refine ⟨fun tested free => ?_, by simp, fun tested answers => ?_, by simp⟩
    · have apart : phase.tested ≠ tested := fun same => free (congrArg some same)
      have free : bench.stage.held? ≠ some tested := by
        obtain ⟨begun, _⟩ | ⟨before, cleared, rfl⟩ := begins
        · simp [begun, Stage.held?]
        · intro held
          rw [cleared] at held
          have same := (Option.ite_none_left_eq_some.mp held).2
          exact apart (by simpa using same)
      obtain ⟨first, second, calm⟩ := clean tested free
      exact ⟨by simpa [Ne.symm apart] using first, second, calm⟩
    · rw [rests] at answers
      cases answers
  | see phase waits completed =>
    refine ⟨fun tested free => (clean tested (by rwa [waits])).congr rfl rfl rfl, by simp,
      answering, ?_⟩
    rintro tested (seen | seen)
    · obtain rfl : phase = tested.last := Stage.seen.inj seen
      have only := met (by simpa using waits)
      simpa using only
    · cases seen
  | stop phase seen rests =>
    refine ⟨fun tested free => ?_, fun other stops => ?_, fun tested answers => ?_, ?_⟩
    · have apart : tested ≠ phase.tested := fun same => free (congrArg some same.symm)
      obtain ⟨first, second, calm⟩ := clean tested (by rwa [seen])
      exact ⟨by simpa [apart] using first, second, calm⟩
    · obtain rfl : phase = other := Stage.stopped.inj stops
      exact Function.update_self ..
    · rw [rests] at answers
      cases answers
    · rintro tested (stops | stops)
      · cases stops
      · obtain rfl : phase = tested.last := Stage.stopped.inj stops
        exact early tested (.inl seen)
  | clear phase stops =>
    refine ⟨fun tested free => ?_, by simp, ?_, by simp⟩
    · by_cases same : tested = phase.tested
      · subst same
        have charger : phase = .charger := by
          by_contra other
          exact free (if_neg other)
        subst charger
        exact ⟨stopped _ stops, by simp, met rfl⟩
      · obtain ⟨first, second, calm⟩ := clean tested (by
          rw [stops]
          exact fun held => same (Option.some.inj held).symm)
        exact ⟨first, by simpa [same] using second, calm⟩
    · intro tested answers
      simpa using answering tested answers
  | acknowledge gpio events tested latched belongs =>
    exact ⟨fun other free => (clean other free).congr rfl rfl rfl, stopped, by simp, early⟩
  | look tested services =>
    refine ⟨fun other free => (clean other free).congr rfl rfl rfl, stopped,
      fun other answers => ?_, early⟩
    cases set : bench.marks (.started tested) with
    | true =>
      simp only [set, if_true, Callback.answering.injEq] at answers
      exact answers ▸ set
    | false => simp [set] at answers
  | respond entry tested answers responds =>
    refine ⟨fun other free => ?_, stopped, by simp, early⟩
    obtain ⟨first, second, calm⟩ := clean other free
    refine ⟨first, second, fun pending => ?_⟩
    obtain before | new := pending_respond pending
    · exact calm before
    · rw [responds] at new
      obtain rfl := Option.some.inj new
      rw [answering tested answers] at first
      cases first
  | complete tested executes =>
    have held : bench.stage.held? = some tested := by
      by_contra free
      exact (clean tested free).calm (.inl executes)
    have apart {other : Tested} (free : bench.stage.held? ≠ some other) : other ≠ tested :=
      fun same => free (same ▸ held)
    refine ⟨fun other free => ?_, ?_, ?_, early⟩
    · obtain ⟨first, second, calm⟩ := clean other free
      exact ⟨by simpa using first, by simpa [apart free] using second, fun pending =>
        calm (.inr (pending.resolve_left (by simp)))⟩
    · intro phase stops
      simpa using stopped phase stops
    · intro other answers
      simpa using answering other answers

/-- When core 0 rests, every device is clean. -/
theorem Tended.clean_of_rest {bench : Bench} (tended : bench.Tended)
    (rests : rest .core0 bench.stage) (tested : Tested) : bench.Clean tested := by
  refine tended.clean tested ?_
  obtain idle | ⟨device, finished⟩ := rests
  · simp [idle, Stage.held?]
  · cases device with
    | max77976 => simp [finished, Tested.finished, Stage.held?]
    | ncp3901 => exact absurd (tended.early .ncp3901 (.inl finished)) (by simp)
    | drv8830 => exact absurd (tended.early .drv8830 (.inr finished)) (by simp)

end Bench

/-! ## Whole runs -/

section Runs

variable [Max77958.DriverHeader] {config : (system : System Ans).Config}

/-- In runs where no phase is mistaken, the bench stays sound. -/
theorem reaches_sound
    (reached : System.Reaches (Bench.During Bench.Unmistaken) started config) :
    discipline.Holds config ∧ Bench.Sound config.shared :=
  reaches_invariant (fun sound met change => sound.change met change)
    (fun _ _ outside => Bench.sound_of_outside outside)
    (fun sound resting queued => ⟨fun phase waits astir => sound.waiting phase waits
      (astir.imp_right (Or.imp_left (Bench.pending_dequeue resting queued).mp)), sound.past⟩)
    (fun _ => trivial) (Bench.sound_of_outside (.inl rfl)) reached

/-- In every run, the flags that a phase has set stay marked until it clears them. -/
theorem reaches_marked (reached : System.Reaches (fun _ _ => True) started config) :
    discipline.Holds config ∧ Bench.Marked config.shared := by
  have unconditional : System.Reaches (Bench.During fun _ _ => True) started config :=
    reached.mono fun _ action _ => by cases action <;> trivial
  exact reaches_invariant (fun marked _ change => marked.change change)
    (fun _ _ outside => Bench.marked_of_outside outside)
    (fun marked _ _ => ⟨marked.waiting, marked.seen, marked.stopped⟩) (fun _ => trivial)
    (Bench.marked_of_outside (.inl rfl)) unconditional

/-- In tidy runs, only the device that core 0 holds is not clean. -/
theorem reaches_tended (reached : System.Reaches (Bench.During Bench.Tidy) started config) :
    discipline.Holds config ∧ Bench.Tended config.shared := by
  refine reaches_invariant (fun tended met change => tended.change met change)
    (fun {bench stage} tended rests outside => ?_)
    (fun {bench entry rest} tended resting queued => ?_) (fun _ => trivial) ?_ reached
  · have clean (tested : Tested) : Bench.Clean { bench with stage := stage } tested :=
      (tended.clean_of_rest rests tested).congr rfl rfl rfl
    refine ⟨fun tested _ => clean tested, ?_, tended.answering, ?_⟩
    · obtain rfl | ⟨tested, rfl⟩ := outside <;> simp
    · obtain rfl | ⟨tested, rfl⟩ := outside <;> simp
  · refine ⟨fun tested free => ?_, tended.stopped, tended.answering, tended.early⟩
    obtain ⟨started, completed, calm⟩ := tended.clean tested free
    exact ⟨started, completed, fun pending =>
      calm ((Bench.pending_dequeue resting queued).mp pending)⟩
  · exact ⟨fun tested _ => ⟨rfl, rfl, by simp [Bench.Pending, Bench.start]⟩, by simp [Bench.start],
      by simp [Bench.start], by simp [Bench.start]⟩

/-- In runs where no phase is mistaken, a phase has passed only after its pin was serviced. In tidy
runs, a device whose test is not under way has clear flags and gets no response. A test with two
phases leaves flags set in every run in which it returns. -/
theorem interruptTests_hold (config : (system : System Ans).Config) :
    (System.Reaches (Bench.During Bench.Unmistaken) started config → PassesSoundly config) ∧
      (System.Reaches (Bench.During Bench.Tidy) started config → NoResidue config) ∧
        (System.Reaches (fun _ _ => True) started config → Leftover config) := by
  refine ⟨fun reached => ?_, fun reached => ?_, fun reached => ?_⟩
  · obtain ⟨holds, sound⟩ := reaches_sound reached
    intro phase args answer next taken
    cases taken with
    | perform free running answered =>
      have guarded := holds Thread.core0
      rw [running] at guarded
      exact sound.past phase (guarded.1.2 phase args rfl)
  · obtain ⟨holds, tended⟩ := reaches_tended reached
    have clean (tested : Tested) (untested : Untested config tested) :
        Bench.Clean config.shared tested := by
      obtain returned | other := untested
      · have resting := holds Thread.core0
        rw [Program.eq_done_valueD returned ()] at resting
        exact tended.clean_of_rest resting tested
      · exact tended.clean tested fun held => other (Stage.tested?_of_held? held)
    refine ⟨fun tested untested => ?_, fun entry added next tested taken responds untested => ?_⟩
    · exact ⟨(clean tested untested).started, (clean tested untested).completed⟩
    cases taken with
    | perform free running answered =>
      have guarded := holds Thread.interrupt
      rw [running] at guarded
      have set := tended.answering tested (guarded.1 added tested responds)
      rw [(clean tested untested).started] at set
      cases set
  · obtain ⟨_, marked⟩ := reaches_marked reached
    exact ⟨fun _ finished => marked.seen .disconnect finished,
      fun _ finished => marked.stopped .encoder2 finished⟩

end Runs

/-! ## Playing runs -/

/-- What a cue chooses. -/
inductive Choice where
  /-- The level of the pins that are read. -/
  | level (high : Bool)
  /-- A test of core 0. -/
  | test (tested : Tested)
  /-- Edges of a pin, and the callback that gets them. -/
  | edge (gpio : Nat) (events : UInt32)

namespace Bench

/-- Both conditions. -/
def Orderly (bench : Bench) (what : Deed) : Prop := bench.Unmistaken what ∧ bench.Tidy what

instance (bench : Bench) (tested : Tested) : Decidable (bench.Pending tested) :=
  inferInstanceAs (Decidable (_ ∨ _))

instance (bench : Bench) (gpio : Nat) : Decidable (bench.Attributed gpio) :=
  inferInstanceAs (Decidable (∀ phase ∈ Phase.all, bench.stage = .waiting phase →
    tested? gpio = some phase.tested → gpio = phase.pin ∨ phase.pin ∈ bench.serviced phase.tested))

instance (bench : Bench) : (what : Deed) → Decidable (bench.Unmistaken what)
  | .set (.started tested) true =>
    inferInstanceAs (Decidable (bench.marks (.completed tested) = false ∧ ¬ bench.Pending tested))
  | .set (.started _) false => .isTrue trivial
  | .set (.completed _) _ => .isTrue trivial
  | .acknowledge gpio _ => inferInstanceAs (Decidable (bench.Attributed gpio))
  | .queue .. => .isTrue trivial
  | .see .. => .isTrue trivial
  | .other => .isTrue trivial

instance (bench : Bench) : (what : Deed) → Decidable (bench.Tidy what)
  | .set (.completed tested) false =>
    inferInstanceAs (Decidable (tested = .max77976 → ¬ bench.Pending tested))
  | .set (.completed _) true => .isTrue trivial
  | .set (.started _) _ => .isTrue trivial
  | .see (.completed tested) true =>
    inferInstanceAs (Decidable (bench.stage = .waiting tested.last → tested = .max77976))
  | .see (.completed _) false => .isTrue trivial
  | .see (.started _) _ => .isTrue trivial
  | .queue .. => .isTrue trivial
  | .acknowledge .. => .isTrue trivial
  | .other => .isTrue trivial

instance (bench : Bench) (what : Deed) : Decidable (bench.Orderly what) :=
  inferInstanceAs (Decidable (_ ∧ _))

instance decidableDuring [Max77958.DriverHeader] (condition : Bench → Deed → Prop)
    [∀ bench what, Decidable (condition bench what)] (bench : Bench) :
    (action : (system : System Ans).Action) → Decidable (During condition bench action)
  | .perform _ op answer => inferInstanceAs (Decidable (condition bench (deed op answer)))
  | .launch .. => .isTrue trivial
  | .drift => .isTrue trivial

instance [Max77958.DriverHeader] (bench : (system : System Ans).Shared)
    (action : (system : System Ans).Action) : Decidable (During Orderly bench action) :=
  decidableDuring Orderly bench action

/-- The answer to an operation. Transfers succeed and read zeros. -/
def answer (bench : Bench) (high : Bool) : (op : Op) → Option (Ans op)
  | .callQueueTryAdd _ => some (decide (bench.callQueue.length < callQueueCapacity))
  | .load flag => some ((mark? flag).elim false bench.marks)
  | .gpioGet _ => some high
  | .i2cWriteTimeoutUs .. => some 0
  | .i2cReadTimeoutUs _ _ len _ => some (0, .replicate len 0)
  | .store .. => some ()
  | .gpioSetDir .. => some ()
  | .gpioPullUp _ => some ()
  | .gpioAcknowledgeIrq .. => some ()
  | .sleepMs _ => some ()
  | .rp2040Log .. => some ()
  | .cexceptionTry => some ()
  | .strayStore _ => some ()
  | _ => none

/-- The program of a thread that is launched, with the bench after it. -/
def launchNext [Max77958.DriverHeader] (bench : Bench) :
    Choice → Thread → Option (Firmware Unit × Bench)
  | .test tested, .core0 => some (tested.test, { bench with stage := .begun tested })
  | .edge gpio _, .interrupt =>
    if bench.latched gpio ≠ 0 then
      some (robotInterruptHandler gpio (bench.latched gpio), bench.service gpio)
    else none
  | _, .core1 =>
    bench.callQueue.head?.bind fun entry =>
      if ofTested entry.func = true then
        some (entry.call .zero >>= fun _ => .done (), bench.dequeue entry bench.callQueue.tail)
      else none
  | _, _ => none

end Bench

/-- Tests, callbacks, entries of the queue and edges. -/
def player [Max77958.DriverHeader] : System.Player (system : System Ans) where
  Choice := Choice
  above
    | .core0 => [Thread.interrupt]
    | _ => []
  covers := by
    rintro _ _ ⟨rfl, rfl⟩
    exact List.mem_singleton.mpr rfl
  answer choice _ bench op :=
    match choice with
    | .level high => Bench.answer bench high op
    | _ => none
  launch choice thread bench := Bench.launchNext bench choice thread
  launches := by
    intro choice thread bench program after launched
    cases thread with
    | core0 =>
      cases choice with
      | test tested =>
        cases launched
        exact .inl ⟨tested, rfl, rfl⟩
      | _ => cases launched
    | interrupt =>
      cases choice with
      | edge gpio events =>
        obtain ⟨some', same⟩ := Option.ite_none_right_eq_some.mp launched
        cases same
        exact ⟨gpio, some', rfl, rfl⟩
      | _ => cases launched
    | core1 =>
      obtain ⟨entry, first, launched⟩ : ∃ entry, bench.callQueue.head? = some entry ∧
          (if ofTested entry.func = true then
            some (entry.call .zero >>= fun _ => .done (),
              Bench.dequeue bench entry (Bench.callQueue bench).tail)
          else none) = some (program, after) := by
        cases choice <;> exact Option.bind_eq_some_iff.mp launched
      obtain ⟨own, same⟩ := Option.ite_none_right_eq_some.mp launched
      cases same
      refine ⟨entry, _, (List.cons_head?_tail first).symm, rfl, ?_⟩
      rw [if_pos own]
      exact ⟨.zero, rfl⟩
  drift choice bench :=
    match choice with
    | .edge gpio events => some { bench with
        latched := Function.update bench.latched gpio (Bench.latched bench gpio ||| events) }
    | _ => none
  drifts := by
    intro choice bench after drifted
    cases choice with
    | edge gpio events =>
      obtain rfl := Option.some.inj drifted
      exact .edge gpio events
    | _ => cases drifted

/-- The next message of core 0 is that the phase has passed. -/
def passing [Max77958.DriverHeader] (config : (system : System Ans).Config) (phase : Phase) :
    Bool :=
  match config.programs Thread.core0 with
  | .perform (.rp2040Log format _) _ => format == phase.passed
  | _ => false

/-- The cues of an edge, its callback, and the function and the response that it queues. -/
def answered [Max77958.DriverHeader] (gpio : Nat) (events : UInt32) :
    List (player : System.Player (system : System Ans)).Cue :=
  [.drift (.edge gpio events), .launch Thread.interrupt (.edge gpio events),
    .run Thread.interrupt (.level false) 4]

/-- Core 1 executes the first two entries of the queue. -/
def executed [Max77958.DriverHeader] : List (player : System.Player (system : System Ans)).Cue :=
  [.launch Thread.core1 (.level false), .run Thread.core1 (.level false) 10,
    .launch Thread.core1 (.level false), .run Thread.core1 (.level false) 10]

/-- The test of the charger, up to the message that it has passed. -/
def chargerTest [Max77958.DriverHeader] : List (player : System.Player (system : System Ans)).Cue :=
  [.launch Thread.core0 (.test .max77976), .run Thread.core0 (.level false) 12] ++
    answered Max77976.gpioInterrupt gpioIrqEdgeFall ++ executed ++
    [.run Thread.core0 (.level true) 7]

/-- Both phases of the test of the wireless charger. -/
def wirelessTest [Max77958.DriverHeader] :
    List (player : System.Player (system : System Ans)).Cue :=
  [.launch Thread.core0 (.test .ncp3901), .run Thread.core0 (.level false) 10] ++
    answered Ncp3901.gpioWirelessCharger gpioIrqEdgeFall ++ executed ++
    [.run Thread.core0 (.level true) 15] ++
    answered Ncp3901.gpioWirelessCharger gpioIrqEdgeRise ++ executed ++
    [.run Thread.core0 (.level true) 2]

/-- The test of the motor drivers, with two edges on the pin of its first phase. The second response
is executed in the second phase. -/
def motorTest [Max77958.DriverHeader] : List (player : System.Player (system : System Ans)).Cue :=
  [.launch Thread.core0 (.test .drv8830), .run Thread.core0 (.level false) 10] ++
    answered Drv8830.gpioFault1 gpioIrqEdgeFall ++ executed ++
    [.run Thread.core0 (.level true) 1] ++
    answered Drv8830.gpioFault1 gpioIrqEdgeFall ++ [.run Thread.core0 (.level true) 7] ++
    executed ++ [.run Thread.core0 (.level true) 4]

/-- A weaker condition is met where a stronger one is. -/
theorem Bench.During.imp [Max77958.DriverHeader] {condition weaker : Bench → Deed → Prop}
    (weaken : ∀ bench what, condition bench what → weaker bench what) {bench : Bench}
    {action : (system : System Ans).Action} (met : Bench.During condition bench action) :
    Bench.During weaker bench action := by
  cases action with
  | perform thread op answer => exact weaken _ _ met
  | _ => trivial

/-- The message can be logged when no callback is running. -/
theorem passing_step [Max77958.DriverHeader] {config : (system : System Ans).Config} {phase : Phase}
    (passes : passing config phase = true)
    (returned : (config.programs Thread.interrupt).isDone = true) :
    ∃ args next,
      System.Step config (.perform Thread.core0 (.rp2040Log phase.passed args) ()) next := by
  unfold passing at passes
  split at passes
  · rename_i format args resume running
    obtain rfl : format = phase.passed := beq_iff_eq.mp passes
    have free : config.Free Thread.core0 := by
      rintro _ ⟨rfl, _⟩
      exact returned
    exact ⟨args, _, .perform free running rfl⟩
  · cases passes

/-- An orderly test of the charger passes soundly and leaves nothing behind, and a test of the
wireless charger leaves its flags behind. -/
theorem interruptTests_hold_played :
    let _ := Max77958.sampleHeader
    (∃ config, System.Reaches (Bench.During Bench.Orderly) started config ∧
      passing config .charger = true ∧ PassesSoundly config) ∧
      (∃ config, System.Reaches (Bench.During Bench.Orderly) started config ∧
        (config.programs Thread.core0).isDone = true ∧ NoResidue config) ∧
      ∃ config, System.Reaches (fun _ _ => True) started config ∧
        (config.programs Thread.core0).isDone = true ∧ Leftover config := by
  intro header
  obtain ⟨passes, reachedPass, pass⟩ := player.reaches_of_any (Bench.During Bench.Orderly) started
    chargerTest (fun config => passing config .charger) (by decide +kernel)
  obtain ⟨returns, reachedReturn, returned⟩ := player.reaches_of_any (Bench.During Bench.Orderly)
    started (chargerTest ++ [.run Thread.core0 (.level true) 1])
    (fun config => (config.programs Thread.core0).isDone) (by decide +kernel)
  obtain ⟨leaves, reachedLeft, left⟩ := player.reaches_of_any (fun _ _ => True) started
    wirelessTest (fun config => (config.programs Thread.core0).isDone) (by decide +kernel)
  refine ⟨⟨passes, reachedPass, pass, (interruptTests_hold passes).1 ?_⟩,
    ⟨returns, reachedReturn, returned, (interruptTests_hold returns).2.1 ?_⟩,
    leaves, reachedLeft, left, (interruptTests_hold leaves).2.2 reachedLeft⟩
  · exact reachedPass.mono fun _ _ => Bench.During.imp fun _ _ => And.left
  · exact reachedReturn.mono fun _ _ => Bench.During.imp fun _ _ => And.right

/-- Encoder 2 passes on the second edge of encoder 1, and the test of the wireless charger returns
with both flags set. -/
theorem interruptTests_fail :
    (¬ ∀ [Max77958.DriverHeader] (config : (system : System Ans).Config),
      System.Reaches (fun _ _ => True) started config → PassesSoundly config) ∧
    ¬ ∀ [Max77958.DriverHeader] (config : (system : System Ans).Config),
      System.Reaches (fun _ _ => True) started config → NoResidue config := by
  refine ⟨fun sound => ?_, fun clean => ?_⟩
  · let _ := Max77958.sampleHeader
    obtain ⟨config, reached, seen⟩ := player.reaches_of_any (fun _ _ => True) started motorTest
      (fun config => passing config .encoder2 && (config.programs Thread.interrupt).isDone &&
        !(Bench.serviced config.shared .drv8830).contains Drv8830.gpioFault2) (by decide +kernel)
    simp only [Bool.and_eq_true, Bool.not_eq_true', List.contains_eq_mem, decide_eq_false_iff_not]
      at seen
    obtain ⟨⟨passes, returned⟩, unserviced⟩ := seen
    obtain ⟨args, next, taken⟩ := passing_step passes returned
    exact unserviced (sound config reached .encoder2 args () next taken)
  · let _ := Max77958.sampleHeader
    obtain ⟨config, reached, seen⟩ := player.reaches_of_any (fun _ _ => True) started wirelessTest
      (fun config => (config.programs Thread.core0).isDone &&
        Bench.marks config.shared (.started .ncp3901) &&
          Bench.marks config.shared (.completed .ncp3901)) (by decide +kernel)
    simp only [Bool.and_eq_true] at seen
    obtain ⟨⟨returned, set⟩, _⟩ := seen
    have cleared := ((clean config reached).flags .ncp3901 (.inl returned)).1
    rw [set] at cleared
    cases cleared

end SelfTests

end RobotFirmware
