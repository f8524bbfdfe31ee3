import RobotFirmware.Structure.Text

/-!
# The detectors of the attached state

`capture_uart_log.py` decides in two ways whether the phone is attached. `saw_desired`, the
callback of `wait_for_reattach`, sees the lines one by one and remembers that VBUS was ever
turned on; `desired_baseline_from_text` looks at a whole text and compares the last lines that
turn VBUS on and off. They agree as long as nothing turns VBUS off between the line that turns it
on and the line at which the callback accepts.
-/

namespace RobotFirmware

open Text

namespace Capture

/-! ## Lines of the log -/

/-- A line of the log: it holds no line break. -/
structure LogLine where
  /-- Its characters. -/
  text : Str
  /-- It is a single line. -/
  single : ∀ c ∈ text, isLineBreak c = false

/-- A text without line breaks as a line. -/
def LogLine.of (text : Str) (single : (text.all fun c => !isLineBreak c) = true) : LogLine where
  text := text
  single c member := by simpa using List.all_eq_true.mp single c member

/-- What turning VBUS on logs. -/
def vbusOnText : Str := "MAX77958_DIAG: setting VBUS GPIO4/GPIO5 on".toList

/-- What turning VBUS off logs. -/
def vbusOffText : Str := "MAX77958_DIAG: setting VBUS GPIO4/GPIO5 off".toList

/-- The class `[A-Z_]`. -/
def isRoleLetter (c : Char) : Bool := ('A' ≤ c && c ≤ 'Z') || c = '_'

/-- What `parse_role_line` returns. -/
structure Role where
  /-- `state`. -/
  state : Option Nat
  /-- `pcb_power`. -/
  pcbPower : Option Str
  /-- `pcb_data`. -/
  pcbData : Option Str
  /-- `pd_ready`. -/
  pdReady : Option Nat

/-- `parse_role_line`. -/
def parseRoleLine (line : Str) : Role where
  state := (search "state=".toList isDecimal line).map int
  pcbPower := search "pcb_power=".toList isRoleLetter line
  pcbData := search "pcb_data=".toList isRoleLetter line
  pdReady := (search "pd_ready=".toList isDecimal line).map int

/-- The role that both detectors wait for. -/
def Role.desired (role : Role) : Bool :=
  role.state = some 2 && role.pcbPower = some "SOURCE".toList &&
    role.pcbData = some "UFP_DEVICE".toList && role.pdReady = some 1

/-! ## The detectors -/

/-- The `status` of both detectors. -/
structure AttachStatus where
  /-- `vbus_on`. -/
  vbusOn : Bool
  /-- `desired`. -/
  desired : Bool
  /-- `last_role`. -/
  lastRole : Option Str

/-- The `status` that both detectors start with. -/
def AttachStatus.initial : AttachStatus := ⟨false, false, none⟩

/-- Both detectors look at the role in a line with `pcb_power`. -/
def AttachStatus.noteRole (status : AttachStatus) (line : Str) : AttachStatus :=
  if occursIn " pcb_power=".toList line then
    { status with lastRole := some line, desired := (parseRoleLine line).desired }
  else status

/-- `saw_desired`. -/
def sawDesired (status : AttachStatus) (line : Str) : AttachStatus × Bool :=
  let status := if occursIn vbusOnText line then { status with vbusOn := true } else status
  let status := status.noteRole line
  (status, status.desired && status.vbusOn)

/-- The variables of the loop in `desired_baseline_from_text`. -/
structure Baseline where
  /-- `status`. -/
  status : AttachStatus
  /-- `last_on_index`. -/
  lastOnIndex : Int
  /-- `last_off_index`. -/
  lastOffIndex : Int

/-- One round of this loop. -/
def Baseline.note (scan : Baseline) (entry : Str × Nat) : Baseline where
  status := scan.status.noteRole entry.1
  lastOnIndex := if occursIn vbusOnText entry.1 then entry.2 else scan.lastOnIndex
  lastOffIndex := if occursIn vbusOffText entry.1 then entry.2 else scan.lastOffIndex

/-- The loop. -/
def scanBaseline (lines : List Str) : Baseline :=
  lines.zipIdx.foldl Baseline.note ⟨.initial, -1, -1⟩

/-- `desired_baseline_from_text`. -/
def desiredBaselineFromText (text : Str) : Bool × AttachStatus :=
  let scan := scanBaseline (splitlines false text)
  let status := { scan.status with vbusOn := decide (scan.lastOffIndex < scan.lastOnIndex) }
  (status.desired && status.vbusOn, status)

/-! ## What they report -/

/-- Feed lines one by one to `saw_desired`, and keep its last answer. -/
def feed (lines : List Str) : AttachStatus × Bool :=
  lines.foldl (fun reached line => sawDesired reached.1 line) (.initial, false)

/-- The last answer of `saw_desired`, fed with the lines one by one. -/
def streamed (lines : List LogLine) : Bool := (feed (lines.map LogLine.text)).2

/-- The answer of `desired_baseline_from_text` to the text of the lines. -/
def rescanned (lines : List LogLine) : Bool :=
  (desiredBaselineFromText (joinLines (lines.map LogLine.text))).1

/-- A verdict on lines is first reached with the first `k` of them. -/
def FirstAt (verdict : List LogLine → Bool) (lines : List LogLine) (k : Nat) : Prop :=
  k ≤ lines.length ∧ verdict (lines.take k) = true ∧ ∀ j < k, verdict (lines.take j) = false

/-- A line turns VBUS on. -/
def LogLine.turnsOn (line : LogLine) : Bool := occursIn vbusOnText line.text

/-- A line turns VBUS off. -/
def LogLine.turnsOff (line : LogLine) : Bool := occursIn vbusOffText line.text

/-- A line shows a role. -/
def LogLine.showsRole (line : LogLine) : Bool := occursIn " pcb_power=".toList line.text

/-- A line shows the role that both detectors wait for. -/
def LogLine.desired (line : LogLine) : Bool := (parseRoleLine line.text).desired

/-- Some line turns VBUS off, and no line from it on turns it on. -/
def OffAfterOn (lines : List LogLine) : Prop :=
  ∃ before line after, lines = before ++ line :: after ∧ line.turnsOff = true ∧
    ∀ later ∈ line :: after, later.turnsOn = false

/-- The two detectors agree on lines: they accept at the same line, if at all, and neither accepts
while a line that turns VBUS off follows every line that turns it on. -/
structure Agrees (lines : List LogLine) : Prop where
  /-- They accept at the same line. -/
  first : ∀ k, FirstAt streamed lines k ↔ FirstAt rescanned lines k
  /-- They do not accept while VBUS is off. -/
  detached : ∀ k, OffAfterOn (lines.take k) →
    ¬ FirstAt streamed lines k ∧ ¬ FirstAt rescanned lines k

/-- Whether the last line of a kind is as wanted. -/
def lastOf (kind wanted : LogLine → Bool) (lines : List LogLine) : Bool :=
  (lines.filter kind).getLast?.any wanted

/-- The last line with a role shows the one that is waited for. -/
def roleReached : List LogLine → Bool := lastOf LogLine.showsRole LogLine.desired

/-- The last line that switches VBUS turns it on. -/
def poweredLast : List LogLine → Bool :=
  lastOf (fun line => line.turnsOn || line.turnsOff) fun line => line.turnsOn && !line.turnsOff

/-! ## What the detectors compute -/

section Verdicts

variable {kind wanted : LogLine → Bool} {lines : List LogLine} {line : LogLine}

/-- One more line decides, if it is of the kind. -/
theorem lastOf_append : lastOf kind wanted (lines ++ [line]) =
    if kind line then wanted line else lastOf kind wanted lines := by
  unfold lastOf
  rw [List.filter_append, List.filter_cons]
  split
  · rw [List.filter_nil, List.getLast?_concat]
    rfl
  · rw [List.filter_nil, List.append_nil]

/-- Both detectors keep the last role. -/
theorem noteRole_desired {status : AttachStatus} (reached : status.desired = roleReached lines) :
    (status.noteRole line.text).desired = roleReached (lines ++ [line]) := by
  rw [roleReached, lastOf_append]
  unfold AttachStatus.noteRole
  change _ = if occursIn _ _ = true then _ else _
  split_ifs with shows
  · rfl
  · exact reached

/-- Noting a role leaves VBUS as it was. -/
theorem noteRole_vbusOn (status : AttachStatus) (text : Str) :
    (status.noteRole text).vbusOn = status.vbusOn := by
  unfold AttachStatus.noteRole
  split_ifs <;> rfl

/-- What `saw_desired` knows after some lines. -/
theorem feed_status (lines : List LogLine) :
    (feed (lines.map LogLine.text)).1.vbusOn = lines.any LogLine.turnsOn ∧
      (feed (lines.map LogLine.text)).1.desired = roleReached lines := by
  induction lines using List.reverseRecOn with
  | nil => exact ⟨rfl, rfl⟩
  | append_singleton lines line ih =>
    obtain ⟨on, desired⟩ := ih
    rw [List.map_append, List.map_singleton, feed, List.foldl_append]
    change (sawDesired (feed (lines.map LogLine.text)).1 line.text).1.vbusOn = _ ∧
      (sawDesired (feed (lines.map LogLine.text)).1 line.text).1.desired = _
    constructor
    · rw [List.any_append, ← on]
      change (AttachStatus.noteRole _ _).vbusOn = _
      rw [noteRole_vbusOn, List.any_cons, List.any_nil, Bool.or_false]
      change _ = (_ || occursIn vbusOnText line.text)
      split_ifs with turns
      · rw [turns, Bool.or_true]
      · rw [Bool.eq_false_iff.mpr turns, Bool.or_false]
    · refine noteRole_desired ?_
      split_ifs <;> exact desired

/-- `saw_desired` accepts when it has seen VBUS turned on and the last role is the one wanted. -/
theorem streamed_eq (lines : List LogLine) :
    streamed lines = (lines.any LogLine.turnsOn && roleReached lines) := by
  obtain ⟨on, desired⟩ := feed_status lines
  rw [← on, ← desired]
  induction lines using List.reverseRecOn with
  | nil => rfl
  | append_singleton lines line _ =>
    unfold streamed
    rw [List.map_append, List.map_singleton, feed, List.foldl_append]
    exact Bool.and_comm _ _

/-- What the loop of `desired_baseline_from_text` knows after some lines. -/
theorem scanBaseline_status (lines : List LogLine) :
    (scanBaseline (lines.map LogLine.text)).status.desired = roleReached lines ∧
      (scanBaseline (lines.map LogLine.text)).lastOnIndex < lines.length ∧
      (scanBaseline (lines.map LogLine.text)).lastOffIndex < lines.length ∧
      decide ((scanBaseline (lines.map LogLine.text)).lastOffIndex <
        (scanBaseline (lines.map LogLine.text)).lastOnIndex) = poweredLast lines := by
  induction lines using List.reverseRecOn with
  | nil => exact ⟨rfl, by decide, by decide, rfl⟩
  | append_singleton lines line ih =>
    obtain ⟨desired, on, off, powered⟩ := ih
    have step : scanBaseline ((lines ++ [line]).map LogLine.text) =
        (scanBaseline (lines.map LogLine.text)).note (line.text, lines.length) := by
      rw [List.map_append, List.map_singleton, scanBaseline, List.zipIdx_append, List.foldl_append,
        List.length_map, Nat.zero_add]
      rfl
    rw [step]
    have longer : ((lines ++ [line]).length : Int) = lines.length + 1 := by simp
    rw [longer, poweredLast, lastOf_append]
    refine ⟨noteRole_desired desired, ?_, ?_, ?_⟩
    · change (if _ then (lines.length : Int) else _) < _
      split_ifs <;> omega
    · change (if _ then (lines.length : Int) else _) < _
      split_ifs <;> omega
    · change decide ((if line.turnsOff = true then (_ : Int) else _) <
        if line.turnsOn = true then (_ : Int) else _) = _
      cases line.turnsOn <;> cases line.turnsOff <;> simp <;> first | exact powered | omega

/-- `desired_baseline_from_text` accepts when the last line that switches VBUS turns it on and the
last role is the one wanted. -/
theorem rescanned_eq (lines : List LogLine) :
    rescanned lines = (roleReached lines && poweredLast lines) := by
  have single : ∀ text ∈ lines.map LogLine.text, ∀ c ∈ text, isLineBreak c = false := by
    intro text member
    obtain ⟨line, _, rfl⟩ := List.mem_map.mp member
    exact line.single
  obtain ⟨desired, _, _, powered⟩ := scanBaseline_status lines
  unfold rescanned desiredBaselineFromText
  rw [splitlines_joinLines single, ← desired, ← powered]

end Verdicts

/-! ## Where they agree -/

/-- A line that turns VBUS off, followed by none that turns it on, leaves it off. -/
theorem poweredLast_off {before after : List LogLine} {line : LogLine}
    (off : line.turnsOff = true) (notOn : line.turnsOn = false)
    (never : ∀ later ∈ after, later.turnsOn = false) :
    poweredLast (before ++ line :: after) = false := by
  induction after using List.reverseRecOn with
  | nil =>
    rw [poweredLast, lastOf_append, notOn, off]
    rfl
  | append_singleton after last ih =>
    obtain ⟨inside, end_⟩ := List.forall_mem_append.mp never
    have stays : last.turnsOn = false := end_ last (List.mem_singleton_self last)
    rw [← List.cons_append, ← List.append_assoc, poweredLast, lastOf_append, stays]
    split_ifs
    · rfl
    · exact ih inside

/-- Where one verdict implies another one, both are first reached with the same lines exactly when
the weaker one is not reached before the stronger one. -/
theorem firstAt_agree {weak strong : List LogLine → Bool} {lines : List LogLine}
    (implies : ∀ seen, strong seen = true → weak seen = true) :
    (∀ k, FirstAt weak lines k ↔ FirstAt strong lines k) ↔
      ∀ k, FirstAt weak lines k → strong (lines.take k) = true := by
  constructor
  · exact fun agree k first => ((agree k).mp first).2.1
  · intro reached k
    constructor
    · intro first
      exact ⟨first.1, reached k first, fun j before => Bool.eq_false_iff.mpr fun strong =>
        Bool.noConfusion ((first.2.2 j before).symm.trans (implies _ strong))⟩
    · rintro ⟨inside, strongly, earlier⟩
      refine ⟨inside, implies _ strongly, fun j before => ?_⟩
      induction j using Nat.strong_induction_on with
      | _ j ih =>
        refine Bool.eq_false_iff.mpr fun weakly => ?_
        have first : FirstAt weak lines j :=
          ⟨by omega, weakly, fun i sooner => ih i sooner (by omega)⟩
        exact Bool.noConfusion ((earlier j before).symm.trans (reached j first))

/-- The last line that switches VBUS turns it on only if some line does. -/
theorem turnsOn_of_poweredLast {lines : List LogLine} (powered : poweredLast lines = true) :
    lines.any LogLine.turnsOn = true := by
  obtain ⟨line, last, wanted⟩ := (Option.any_eq_true _ _).mp powered
  have member : line ∈ lines := List.mem_of_mem_filter (List.mem_of_getLast? last)
  exact List.any_eq_true.mpr ⟨line, member, (Bool.and_eq_true_iff.mp wanted).1⟩

/-- The detectors agree exactly when, with the first lines that turn VBUS on and end with the role
waited for, the last line that switches VBUS turns it on. -/
theorem detectors_agree_iff (lines : List LogLine) :
    Agrees lines ↔ ∀ k, FirstAt (fun seen => seen.any LogLine.turnsOn && roleReached seen) lines k →
      poweredLast (lines.take k) = true := by
  have same : streamed = fun seen => seen.any LogLine.turnsOn && roleReached seen :=
    funext streamed_eq
  have implies (seen : List LogLine) (strong : rescanned seen = true) : streamed seen = true := by
    rw [rescanned_eq, Bool.and_eq_true] at strong
    rw [streamed_eq, Bool.and_eq_true]
    exact ⟨turnsOn_of_poweredLast strong.2, strong.1⟩
  rw [← same]
  constructor
  · intro agrees k first
    have strong := ((agrees.first k).mp first).2.1
    rw [rescanned_eq, Bool.and_eq_true] at strong
    exact strong.2
  · intro powered
    have first : ∀ k, FirstAt streamed lines k ↔ FirstAt rescanned lines k := by
      refine (firstAt_agree implies).mpr fun k first => ?_
      have weak := first.2.1
      rw [streamed_eq, Bool.and_eq_true] at weak
      rw [rescanned_eq, Bool.and_eq_true]
      exact ⟨weak.2, powered k first⟩
    have never (k : Nat) (off : OffAfterOn (lines.take k)) : ¬ FirstAt rescanned lines k := by
      intro strong
      obtain ⟨before, line, after, split, turns, notOn⟩ := off
      obtain ⟨here, later⟩ := List.forall_mem_cons.mp notOn
      have reached := strong.2.1
      rw [rescanned_eq, split, poweredLast_off turns here later, Bool.and_false] at reached
      cases reached
    exact ⟨first, fun k off => ⟨fun weak => never k off ((first k).mp weak), never k off⟩⟩

/-- A log in which VBUS is turned on and off again before the role arrives. -/
def offBeforeRole : List LogLine :=
  [.of vbusOnText (by decide +kernel), .of vbusOffText (by decide +kernel),
    .of "state=2 pcb_power=SOURCE pcb_data=UFP_DEVICE pd_ready=1".toList (by decide +kernel)]

/-- There `saw_desired` accepts at the role, and `desired_baseline_from_text` does not. -/
theorem detectors_disagree : ¬ ∀ lines : List LogLine, Agrees lines := by
  intro agrees
  have streams : FirstAt streamed offBeforeRole 3 := by
    refine ⟨Nat.le_refl _, ?_⟩
    decide +kernel
  have rescans : rescanned (offBeforeRole.take 3) = false := by decide +kernel
  have accepts := (((agrees offBeforeRole).first 3).mp streams).2.1
  exact Bool.noConfusion (rescans.symm.trans accepts)

end Capture

end RobotFirmware
