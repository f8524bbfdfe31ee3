import RobotFirmware.Device.Max77958
import RobotFirmware.Structure.LittleEndian

/-!
# The data objects of a sink

The loops that decode the reply to a sink request run as often as the reply says. Seven data
objects fit behind the opcode and the count; the eighth ends one byte behind the buffer.
-/

namespace RobotFirmware

open Interaction LittleEndian

/-- Accesses are recorded piece by piece. -/
theorem strays_append (first later : List (Event Ans)) :
    strays (first ++ later) = strays first ++ strays later := List.filterMap_append

namespace Max77958

/-- The number and the value in the message about a data object. -/
def Op.pdo? : Op → Option (Int × Int)
  | .rp2040Log _ [.int j, .int pdo] => some (j, pdo)
  | _ => none

/-- The data objects in the messages of a trace. -/
def pdos (trace : List (Event Ans)) : List (Int × Int) :=
  trace.filterMap fun event => Op.pdo? event.op

/-- A data object of a reply, behind the opcode and the count. -/
def pdoAt (reply : Vector UInt8 33) (j : Nat) : UInt32 := word32At (reply.toList.drop 2) (4 * j)

/-- A data object of a reply with its number. -/
def numbered (reply : Vector UInt8 33) (j : Nat) : Int × Int := (j, (pdoAt reply j).toNat)

/-- A loop stays inside the reply and yields the data objects in it. -/
structure Decodes (copy : String) (reply : Vector UInt8 33) : Prop where
  /-- No byte is read behind the buffer. -/
  inside : ∀ trace rest, (logPdos copy reply).Runs trace rest → strays trace = []
  /-- Every data object that the loop visits is the word at its place. -/
  words : ∀ trace, (logPdos copy reply).Runs trace (.done ()) →
    pdos trace = (List.range (pdoCount reply).toNat).map (numbered reply)

variable {copy : String} {reply : Vector UInt8 33}

/-- A byte inside the buffer is read without an operation. -/
theorem replyByte_inside {index offset : Nat} (inside : index < 33) (same : index = 2 + offset) :
    replyByte reply index = .done (byteAt (reply.toList.drop 2) offset) := by
  subst same
  have value : byteAt (reply.toList.drop 2) offset = reply.get ⟨2 + offset, inside⟩ := by
    simp [byteAt, Vector.get, inside]
  rw [replyByte, dif_pos inside, value]
  rfl

/-- One of the first seven data objects is decoded as the word at its place. -/
theorem decodePdo_inside {j : Nat} (fits : j < 7) : decodePdo reply j = .done (pdoAt reply j) := by
  have byte0 : replyByte reply (2 + j * 4) = .done (byteAt (reply.toList.drop 2) (4 * j)) :=
    replyByte_inside (by omega) (by omega)
  have byte1 : replyByte reply (3 + j * 4) = .done (byteAt (reply.toList.drop 2) (4 * j + 1)) :=
    replyByte_inside (by omega) (by omega)
  have byte2 : replyByte reply (4 + j * 4) = .done (byteAt (reply.toList.drop 2) (4 * j + 2)) :=
    replyByte_inside (by omega) (by omega)
  have byte3 : replyByte reply (5 + j * 4) = .done (byteAt (reply.toList.drop 2) (4 * j + 3)) :=
    replyByte_inside (by omega) (by omega)
  rw [decodePdo, byte0, byte1, byte2, byte3]
  rfl

/-- A round for one of the first seven data objects is its message. -/
theorem logPdo_inside {j : Nat} (fits : j < 7) :
    logPdo copy reply j = rp2040Log ("test_max77958_snk_pdo_request " ++ copy ++
      " PDO[%d] = 0x%08lx\n") [.int j, .int (pdoAt reply j).toNat] := by
  rw [logPdo, decodePdo_inside fits]
  rfl

/-- The rounds for some of the first seven data objects. -/
theorem rounds_inside {js : List Nat} (fit : ∀ j ∈ js, j < 7) {trace : List (Event Ans)}
    {rest : Firmware Unit} (run : (js.forM (logPdo copy reply)).Runs trace rest) :
    strays trace = [] ∧ (rest.isDone = true → pdos trace = js.map (numbered reply)) := by
  induction js generalizing trace with
  | nil =>
    obtain ⟨rfl, rfl⟩ := run.of_done
    exact ⟨rfl, fun _ => rfl⟩
  | cons j js ih =>
    change (logPdo copy reply j >>= fun _ => js.forM (logPdo copy reply)).Runs trace rest at run
    rw [logPdo_inside (fit j List.mem_cons_self)] at run
    cases run with
    | refl => exact ⟨rfl, fun impossible => absurd impossible Bool.false_ne_true⟩
    | step _ later =>
      obtain ⟨inside, words⟩ := ih (fun j member => fit j (List.mem_cons_of_mem _ member)) later
      exact ⟨inside, fun returned => congrArg (numbered reply j :: ·) (words returned)⟩

/-- A byte can be read, and a byte behind the buffer is read there. -/
theorem exists_byte (reply : Vector UInt8 33) (index : Nat) :
    ∃ trace byte, (replyByte reply index).Runs trace (.done byte) ∧
      (33 ≤ index → index ∈ strays trace) := by
  by_cases inside : index < 33
  · refine ⟨[], reply.get ⟨index, inside⟩, ?_, fun behind => absurd inside (Nat.not_lt.mpr behind)⟩
    rw [replyByte, dif_pos inside]
    exact .refl _
  · refine ⟨[⟨.strayRead index, (0 : UInt8)⟩], 0, ?_, fun _ => List.mem_singleton.mpr rfl⟩
    rw [replyByte, dif_neg inside]
    have answered := Program.Runs.refl (Program.done (0 : UInt8) : Firmware UInt8)
    exact .step _ answered

/-- A round can be made, and one from the eighth on leaves the buffer. -/
theorem exists_round (copy : String) (reply : Vector UInt8 33) (j : Nat) :
    ∃ trace, (logPdo copy reply j).Runs trace (.done ()) ∧
      (7 ≤ j → 5 + j * 4 ∈ strays trace) := by
  obtain ⟨trace0, byte0, run0, -⟩ := exists_byte reply (2 + j * 4)
  obtain ⟨trace1, byte1, run1, -⟩ := exists_byte reply (3 + j * 4)
  obtain ⟨trace2, byte2, run2, -⟩ := exists_byte reply (4 + j * 4)
  obtain ⟨trace3, byte3, run3, behind⟩ := exists_byte reply (5 + j * 4)
  refine ⟨_, .bind (.bind run0 (.bind run1 (.bind run2 (.bind run3 (.refl _)))))
    (.step () (.refl _)), fun late => ?_⟩
  simp only [strays_append, List.mem_append]
  exact .inl (.inr (.inr (.inr (.inl (behind (by omega))))))

/-- The rounds can be made, and leave the buffer if one of them does. -/
theorem exists_rounds (copy : String) (reply : Vector UInt8 33) (js : List Nat) :
    ∃ trace, (js.forM (logPdo copy reply)).Runs trace (.done ()) ∧
      ∀ j ∈ js, 7 ≤ j → 5 + j * 4 ∈ strays trace := by
  induction js with
  | nil => exact ⟨[], .refl _, fun _ member => absurd member List.not_mem_nil⟩
  | cons j js ih =>
    obtain ⟨first, round, behind⟩ := exists_round copy reply j
    obtain ⟨later, rounds, others⟩ := ih
    refine ⟨first ++ later, round.bind rounds, fun other member late => ?_⟩
    rw [strays_append, List.mem_append]
    obtain rfl | member := List.mem_cons.mp member
    · exact .inl (behind late)
    · exact .inr (others other member late)

/-- A reply that announces more than seven data objects is read behind its end. -/
theorem not_decodes (many : 7 < (pdoCount reply).toNat) : ¬ Decodes copy reply := by
  intro decodes
  obtain ⟨trace, run, behind⟩ := exists_rounds copy reply (List.range (pdoCount reply).toNat)
  have stray := behind 7 (List.mem_range.mpr many) (Nat.le_refl 7)
  rw [decodes.inside trace _ run] at stray
  exact absurd stray List.not_mem_nil

/-- A loop stays inside the reply and yields its data objects exactly when the reply announces at
most seven. -/
theorem decodes_iff (copy : String) (reply : Vector UInt8 33) :
    Decodes copy reply ↔ (pdoCount reply).toNat ≤ 7 := by
  refine ⟨fun decodes => ?_, fun few => ?_⟩
  · by_contra many
    exact not_decodes (Nat.not_le.mp many) decodes
  · have fit : ∀ j ∈ List.range (pdoCount reply).toNat, j < 7 := fun j member =>
      (List.mem_range.mp member).trans_le few
    exact ⟨fun _ _ run => (rounds_inside fit run).1, fun _ run => (rounds_inside fit run).2 rfl⟩

/-- A reply to a sink request with eight data objects. -/
def eightPdos : Vector UInt8 33 := .ofFn fun i => if i.val = 1 then 8 else 0x3E

/-- It is read behind its end. -/
theorem eight_overread : ¬ ∀ reply : Vector UInt8 33, Decodes "MTP" reply := fun decodes => by
  have many : 7 < (pdoCount eightPdos).toNat := by decide
  exact not_decodes many (decodes eightPdos)

end Max77958

end RobotFirmware
