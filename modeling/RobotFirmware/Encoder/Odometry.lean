import RobotFirmware.Device.Peripherals
import RobotFirmware.Encoder.Requests
import Mathlib.Data.List.Chain
import Mathlib.Data.Nat.Bitwise

/-!
# Reporting how far the wheels went

`quad_encoder_update` reads both encoders and logs each count with its difference to the one before.
The counts wrap around at 32 bits, and so do the differences; they are exact as long as a wheel
moves less than half of that range between two updates.
-/

namespace RobotFirmware.Encoder

open Interaction
open Pio (Word)

/-- The struct `encoder`, without the speeds, which nothing writes. -/
structure EncoderRecord where
  /-- `count_current`. -/
  countCurrent : Int32
  /-- `count_previous`. -/
  countPrevious : Int32
  /-- `count_delta`. -/
  countDelta : Int32

/-- The line that is logged for an encoder. -/
def updateLine : String := "Encoder %d: %ld, delta: %ld\n"

/-- One round of the loop in `quad_encoder_update`. -/
def updateEncoder (encoder : Nat) (record : EncoderRecord) : Firmware EncoderRecord := do
  let current ← quadEncoderGetCount encoder
  let delta := current - record.countPrevious
  rp2040Log updateLine [.int encoder, .int current.toInt, .int delta.toInt]
  return ⟨current, current, delta⟩

/-- `quad_encoder_update`. -/
def quadEncoderUpdate (encoders : EncoderRecord × EncoderRecord) :
    Firmware (EncoderRecord × EncoderRecord) := do
  let first ← updateEncoder 0 encoders.1
  let second ← updateEncoder 1 encoders.2
  return (first, second)

/-- The static `encoders` at the start. -/
def encoders : EncoderRecord × EncoderRecord := (⟨0, 0, 0⟩, ⟨0, 0, 0⟩)

/-! ## What a run reports -/

/-- What was read from an encoder, and what was logged for it. -/
structure Report where
  /-- The counts. -/
  counts : List Int32
  /-- The counts and the differences in the log. -/
  lines : List (Int × Int)

/-- The report on an encoder after an event. -/
def Report.next (encoder : Nat) (report : Report) : (op : Op) → Ans op → Report
  | .quadratureEncoderGetCount sm, (count : Int32) =>
    if sm = encoder then { report with counts := report.counts ++ [count] } else report
  | .rp2040Log format [.int sm, .int count, .int delta], _ =>
    if format = updateLine ∧ sm = encoder then
      { report with lines := report.lines ++ [(count, delta)] }
    else report
  | _, _ => report

/-- A monitor that allows everything and keeps the report on an encoder. -/
abbrev reporter (encoder : Nat) : Monitor Ans where
  State := Report
  allows _ _ := True
  next := Report.next encoder

/-- Each count is logged with its difference to the one before. -/
def differences : Int32 → List Int32 → List (Int × Int)
  | _, [] => []
  | previous, count :: counts => (count.toInt, (count - previous).toInt) :: differences count counts

/-- One more count. -/
theorem differences_append (previous count : Int32) (counts : List Int32) :
    differences previous (counts ++ [count]) =
      differences previous counts ++
        [(count.toInt, (count - counts.getLastD previous).toInt)] := by
  induction counts generalizing previous with
  | nil => rfl
  | cons first counts ih =>
    rw [List.cons_append, differences, ih, differences, List.cons_append]
    cases counts with
    | nil => rfl
    | cons second counts => rfl

/-- The report after a round of an encoder. -/
def Report.round (report : Report) (record : EncoderRecord) (count : Int32) : Report where
  counts := report.counts ++ [count]
  lines := report.lines ++ [(count.toInt, (count - record.countPrevious).toInt)]

/-- The report after both operations of a round. -/
theorem next_round (encoder other : Nat) (report : Report) (record : EncoderRecord)
    (count : Int32) :
    Report.next encoder (Report.next encoder report (.quadratureEncoderGetCount other) count)
      (.rp2040Log updateLine [.int other, .int count.toInt,
        .int (count - record.countPrevious).toInt]) () =
      if other = encoder then report.round record count else report := by
  by_cases same : other = encoder
  · simp [Report.next, Report.round, same]
  · have apart : ¬ (other : Int) = encoder := by omega
    simp [Report.next, same, apart]

/-- The round of an encoder adds its count and its line to the report on it. -/
theorem guards_updateEncoder_same {encoder : Nat} {report : Report} {record : EncoderRecord} :
    (reporter encoder).Guards report (updateEncoder encoder record) fun final after =>
      ∃ count, final = report.round record count ∧ after.countPrevious = count :=
  ⟨trivial, fun count => ⟨trivial, fun _ =>
    ⟨count, (next_round encoder encoder report record count).trans (if_pos rfl), rfl⟩⟩⟩

/-- It adds nothing to the report on the other one. -/
theorem guards_updateEncoder_other {encoder other : Nat} (differs : other ≠ encoder)
    {report : Report} {record : EncoderRecord} :
    (reporter encoder).Guards report (updateEncoder other record) fun final _ =>
      final = report :=
  ⟨trivial, fun count => ⟨trivial, fun _ =>
    (next_round encoder other report record count).trans (if_neg differs)⟩⟩

/-- The record of an encoder agrees with the report on it. -/
structure Agrees (report : Report) (record : EncoderRecord) : Prop where
  /-- The lines are the differences of the counts. -/
  lines : report.lines = differences 0 report.counts
  /-- The next difference will be to the last count. -/
  previous : record.countPrevious = report.counts.getLastD 0

/-- A round keeps the agreement. -/
theorem Agrees.round {report : Report} {record after : EncoderRecord}
    (agrees : Agrees report record) {count : Int32} (previous : after.countPrevious = count) :
    Agrees (report.round record count) after where
  lines := by
    rw [Report.round, differences_append, agrees.lines, agrees.previous]
  previous := by
    rw [previous, Report.round, List.getLastD_concat]

/-- The record of one of the encoders. -/
def record (encoders : EncoderRecord × EncoderRecord) (encoder : Nat) : EncoderRecord :=
  if encoder = 0 then encoders.1 else encoders.2

/-- An update adds one count and one line to the report on each encoder. -/
theorem guards_quadEncoderUpdate {encoder : Nat} (known : encoder < 2) {report : Report}
    {pair : EncoderRecord × EncoderRecord} (agrees : Agrees report (record pair encoder)) :
    (reporter encoder).Guards report (quadEncoderUpdate pair) fun final after =>
      Agrees final (record after encoder) ∧
        final.counts.length = report.counts.length + 1 := by
  have cases : encoder = 0 ∨ encoder = 1 := by omega
  obtain rfl | rfl := cases
  · refine Monitor.guards_bind.mpr
      (guards_updateEncoder_same.mono fun middle first ⟨count, ended, last⟩ => ?_)
    refine Monitor.guards_bind.mpr
      ((guards_updateEncoder_other (by decide)).mono fun final second same => ?_)
    rw [same, ended]
    exact ⟨agrees.round last, List.length_append⟩
  · refine Monitor.guards_bind.mpr
      ((guards_updateEncoder_other (by decide)).mono fun middle first same => ?_)
    rw [same]
    refine Monitor.guards_bind.mpr
      (guards_updateEncoder_same.mono fun final second ⟨count, ended, last⟩ => ?_)
    rw [ended]
    exact ⟨agrees.round last, List.length_append⟩

/-! ## Wheels -/

/-- What a counter shows of a position. -/
def reading (home : Word) (position : Int) : Int32 := .ofBitVec (home + BitVec.ofInt 32 position)

/-- The difference of two readings is how far the wheel went, even when the counter wrapped around
in between. -/
theorem reading_sub {home : Word} {before after : Int}
    (near : 2 * (after - before).natAbs < 4294967296) :
    (reading home after - reading home before).toInt = after - before := by
  have bits : (reading home after - reading home before).toBitVec =
      BitVec.ofInt 32 (after - before) := by
    show home + BitVec.ofInt 32 after - (home + BitVec.ofInt 32 before) = _
    have onwards : after = before + (after - before) := by omega
    rw [onwards, BitVec.ofInt_add, ← BitVec.add_assoc, BitVec.add_comm, BitVec.add_sub_cancel,
      ← onwards]
  rw [Int32.toInt, bits, BitVec.toInt_ofInt]
  exact Int.bmod_eq_of_le_mul_two (by omega) (by omega)

/-- The differences of readings are the distances between the positions. -/
theorem differences_readings {home : Word} {first : Int} {positions : List Int}
    (near : (first :: positions).IsChain fun before after =>
      2 * (after - before).natAbs < 4294967296) :
    (differences (reading home first) (positions.map (reading home))).map Prod.snd =
      List.zipWith (fun before after => after - before) (first :: positions) positions := by
  induction positions generalizing first with
  | nil => rfl
  | cons second positions ih =>
    obtain ⟨here, later⟩ := List.isChain_cons_cons.mp near
    rw [List.map_cons, differences, List.map_cons, ih later, reading_sub here]
    rfl

/-- Updates keep the agreement, and each adds one count. -/
theorem guards_updates {encoder : Nat} (known : encoder < 2) (updates : Nat) {report : Report}
    {pair : EncoderRecord × EncoderRecord} (agrees : Agrees report (record pair encoder)) :
    (reporter encoder).Guards report (Program.iterate quadEncoderUpdate updates pair)
      fun final after =>
        Agrees final (record after encoder) ∧
          final.counts.length = report.counts.length + updates := by
  induction updates generalizing report pair with
  | zero => exact ⟨agrees, rfl⟩
  | succ updates ih =>
    refine Monitor.guards_bind.mpr
      ((guards_quadEncoderUpdate known agrees).mono fun middle next ⟨later, one⟩ => ?_)
    refine (ih later).mono fun final after ⟨last, more⟩ => ⟨last, ?_⟩
    omega

/-- When the counts that an encoder returned are readings of a wheel, every line logged for it after
the first one tells how far the wheel went since the line before. -/
theorem updates_report {updates encoder : Nat} (known : encoder < 2) {trace : List (Event Ans)}
    {final : EncoderRecord × EncoderRecord}
    (run : (Program.iterate quadEncoderUpdate updates encoders).Runs trace (.done final))
    {home : Word} {positions : List Int}
    (read : ((reporter encoder).after ⟨[], []⟩ trace).counts = positions.map (reading home))
    (near : positions.IsChain fun before after => 2 * (after - before).natAbs < 4294967296) :
    positions.length = updates ∧
      ((reporter encoder).after ⟨[], []⟩ trace).lines.tail.map Prod.snd =
        List.zipWith (fun before after => after - before) positions positions.tail := by
  have fresh : Agrees ⟨[], []⟩ (record encoders encoder) := by
    refine ⟨rfl, ?_⟩
    unfold record
    split <;> rfl
  obtain ⟨agrees, counted⟩ := (guards_updates known updates fresh).ends run
  rw [agrees.lines, read]
  rw [read, List.length_map] at counted
  refine ⟨counted.trans (Nat.zero_add _), ?_⟩
  cases positions with
  | nil => rfl
  | cons first positions =>
    rw [List.map_cons, differences, List.tail_cons, differences_readings near]
    rfl

/-! ## Updates on a board -/

/-- In a while a wheel moves at most one quarter step for every fifteen cycles begun. -/
theorem Wheel.slow_while (wheel : Wheel) (time gap : Nat) :
    (wheel.position (time + gap) - wheel.position time).natAbs ≤ gap / 15 + 1 := by
  induction gap using Nat.strongRecOn with
  | ind gap ih =>
    by_cases short : gap ≤ 15
    · have step := wheel.slow time gap short
      omega
    · have before := ih (gap - 15) (by omega)
      have step := wheel.slow (time + (gap - 15)) 15 (Nat.le_refl 15)
      rw [show time + (gap - 15) + 15 = time + gap by omega] at step
      omega

/-- An answer of a run. -/
structure Answer where
  /-- When the call was made. -/
  asked : Nat
  /-- When it returned. -/
  fetched : Nat
  /-- What it returned. -/
  count : Word

/-- The answers of a run. -/
def answered (labels : List Label) : List Answer :=
  labels.filterMap fun
    | .answer asked fetched count => some ⟨asked, fetched, count⟩
    | _ => none

/-- The answers of a run are among its labels. -/
theorem mem_answered {labels : List Label} {answer : Answer} (member : answer ∈ answered labels) :
    .answer answer.asked answer.fetched answer.count ∈ labels := by
  obtain ⟨label, inside, same⟩ := List.mem_filterMap.mp member
  cases label with
  | answer asked fetched count =>
    obtain rfl := Option.some.inj same
    exact inside
  | _ => cases same

/-- Only an answer adds to the answers. -/
theorem answered_concat (labels : List Label) (label : Label) :
    answered (labels ++ [label]) = answered labels ++ answered [label] := List.filterMap_append

/-- A call is made after those before it returned. -/
structure InTurn (labels : List Label) (board : Board) : Prop where
  /-- No two calls overlap. -/
  ordered : (answered labels).Pairwise fun earlier later => earlier.fetched ≤ later.asked
  /-- A call that waits was made after all that returned. -/
  waiting : ∀ asked, board.caller = .waiting asked →
    ∀ answer ∈ answered labels, answer.fetched ≤ asked
  /-- Calls returned in the past. -/
  past : ∀ answer ∈ answered labels, answer.fetched ≤ board.now

/-- The calls of a run take turns. -/
theorem run_inTurn {wheel : Wheel} {x y osr : Word} {labels : List Label} {board : Board}
    (run : Run wheel (Board.start x y osr) labels board) : InTurn labels board := by
  induction run with
  | refl => exact ⟨.nil, nofun, nofun⟩
  | step before taken ih =>
    rename_i labels _ _ _
    obtain ⟨ordered, waiting, past⟩ := ih
    cases taken with
    | cycle pins shows =>
      have same := (answered_concat labels Label.cycle).trans (List.append_nil _)
      exact ⟨same ▸ ordered, same ▸ waiting,
        same ▸ fun answer member => Nat.le_succ_of_le (past answer member)⟩
    | request idle =>
      have same := (answered_concat labels Label.request).trans (List.append_nil _)
      refine ⟨same ▸ ordered, same ▸ fun asked waits => ?_, same ▸ past⟩
      obtain rfl := Caller.waiting.inj waits
      exact past
    | poll _ _ =>
      have same := (answered_concat labels Label.poll).trans (List.append_nil _)
      exact ⟨same ▸ ordered, same ▸ waiting, same ▸ past⟩
    | answer waits ready =>
      rename_i board asked count rest
      have more := answered_concat labels (Label.answer asked board.now count)
      refine ⟨more ▸ ?_, nofun, more ▸ ?_⟩
      · refine List.pairwise_append.mpr ⟨ordered, List.pairwise_singleton _ _, ?_⟩
        intro earlier member later last
        obtain rfl := List.mem_singleton.mp last
        exact waiting asked waits earlier member
      · intro answer member
        obtain earlier | last := List.mem_append.mp member
        · exact past answer earlier
        · obtain rfl := List.mem_singleton.mp last
          exact Nat.le_refl _

/-- Two positions are near when little time lies between them, in either order. -/
theorem Wheel.near (wheel : Wheel) {before after gap : Nat} (forth : after ≤ before + gap)
    (back : before ≤ after + gap) :
    (wheel.position after - wheel.position before).natAbs ≤ gap / 15 + 1 := by
  obtain ordered | reversed := Nat.le_total before after
  · have moved := wheel.slow_while before (after - before)
    rw [Nat.add_sub_cancel' ordered] at moved
    omega
  · have moved := wheel.slow_while after (before - after)
    rw [Nat.add_sub_cancel' reversed] at moved
    omega

/-- However often the encoders are updated while the wheel turns and its state machine counts: when
consecutive calls are less than four minutes apart at 125 MHz, every line logged for the encoder
after the first one tells how far the wheel went between two times, each at most seven cycles
before the call and before its return. -/
theorem updates_follow_wheel {wheel : Wheel} {x y osr : Word} {labels : List Label} {board : Board}
    (run : Run wheel (Board.start x y osr) labels board)
    (settled : ∀ answer ∈ answered labels, 16 ≤ answer.asked)
    (frequent : (answered labels).IsChain fun earlier later =>
      later.fetched ≤ earlier.asked + 30000000000)
    (updates encoder : Nat) (known : encoder < 2) (trace : List (Event Ans))
    (final : EncoderRecord × EncoderRecord)
    (updated : (Program.iterate quadEncoderUpdate updates encoders).Runs trace (.done final))
    (returned : ((reporter encoder).after ⟨[], []⟩ trace).counts =
      (answered labels).map fun answer => .ofBitVec answer.count) :
    ∃ sampled : Answer → Nat,
      (∀ answer ∈ answered labels,
        answer.asked ≤ sampled answer + 7 ∧ sampled answer < answer.fetched) ∧
      ((reporter encoder).after ⟨[], []⟩ trace).lines.tail.map Prod.snd =
        List.zipWith (fun before after =>
          wheel.position (sampled after) - wheel.position (sampled before))
          (answered labels) (answered labels).tail := by
  obtain ⟨home, _, _, _, _, known'⟩ := run_kept run
  have fits (answer : Answer) (member : answer ∈ answered labels) :
      Fits wheel home answer.asked answer.fetched answer.count :=
    (known' _ _ _ (mem_answered member)).2 (settled answer member)
  choose! sampled recent past same using fits
  refine ⟨sampled, fun answer member => ⟨recent answer member, past answer member⟩, ?_⟩
  have turns := (run_inTurn run).ordered.isChain
  have read : ((reporter encoder).after ⟨[], []⟩ trace).counts =
      ((answered labels).map fun answer => wheel.position (sampled answer)).map (reading home) := by
    rw [returned, List.map_map]
    exact List.map_congr_left fun answer member => congrArg Int32.ofBitVec (same answer member)
  have near : ((answered labels).map fun answer => wheel.position (sampled answer)).IsChain
      fun before after => 2 * (after - before).natAbs < 4294967296 := by
    rw [List.isChain_map, List.isChain_iff_forall_rel_of_append_cons_cons]
    intro earlier later first rest split
    have soon := List.isChain_iff_forall_rel_of_append_cons_cons.mp frequent split
    have turn := List.isChain_iff_forall_rel_of_append_cons_cons.mp turns split
    have here : earlier ∈ answered labels := by simp [split]
    have there : later ∈ answered labels := by simp [split]
    have earlierRecent := recent earlier here
    have earlierPast := past earlier here
    have laterRecent := recent later there
    have laterPast := past later there
    have moved := wheel.near
      (show sampled later ≤ sampled earlier + 30000000007 by omega)
      (show sampled earlier ≤ sampled later + 30000000007 by omega)
    omega
  rw [(updates_report known updated read near).2, ← List.map_tail, List.zipWith_map]

/-- A second call after the first one returned. -/
def Board.askedAgain : Board :=
  Board.ask ⟨(Board.asked.machine.serve .read).1, Board.asked.now, .idle⟩

/-- The labels of two calls. -/
def twoCalls : List Label :=
  List.replicate 16 .cycle ++ [.request] ++ List.replicate 18 .cycle ++ [.answer 16 34 0] ++
    [.request] ++ List.replicate 18 .cycle ++ [.answer 34 52 0]

/-- Both calls return. -/
theorem run_twoCalls : Run parked (Board.start 0 0 0) twoCalls
    ⟨(Board.askedAgain.machine.serve .read).1, 52, .idle⟩ := by
  have ready : Board.askedAgain.machine.rx = [0] := by
    decide +kernel
  exact (run_ask (run_asked.step (.answer rfl asked_ready)) rfl).step (.answer rfl ready)

/-- Encoders that always return the same counts, zero and five. -/
def standing (_ : Unit) : (op : Op) → Option (Ans op × Unit)
  | .quadratureEncoderGetCount sm => some (if sm = 0 then (0 : Int32) else 5, ())
  | .rp2040Log .. => some ((), ())
  | _ => none

/-- What two updates do with them. -/
def twoUpdates : List (Event Ans) :=
  ((Program.iterate quadEncoderUpdate 2 encoders).drive standing ()).1

/-- It is a run of two updates. -/
theorem runs_twoUpdates : (Program.iterate quadEncoderUpdate 2 encoders).Runs twoUpdates
    (.done (⟨0, 0, 0⟩, ⟨5, 5, 0⟩)) :=
  Program.drive_runs standing () (Program.iterate quadEncoderUpdate 2 encoders)

/-- A parked wheel did not go anywhere between two updates. -/
theorem updates_follow_wheel_parked :
    ∃ sampled : Answer → Nat,
      (∀ answer ∈ answered twoCalls,
        answer.asked ≤ sampled answer + 7 ∧ sampled answer < answer.fetched) ∧
      ((reporter 0).after ⟨[], []⟩ twoUpdates).lines.tail.map Prod.snd =
        List.zipWith (fun before after =>
          parked.position (sampled after) - parked.position (sampled before))
          (answered twoCalls) (answered twoCalls).tail := by
  have calls : answered twoCalls = [⟨16, 34, 0⟩, ⟨34, 52, 0⟩] := rfl
  refine updates_follow_wheel run_twoCalls ?_ ?_ 2 0 (by decide) _ _ runs_twoUpdates rfl
  · rw [calls]
    simp
  · rw [calls]
    exact .cons_cons (by decide) (.singleton _)

end RobotFirmware.Encoder
