import ClimateNode.Shared.Protocol
import Mathlib.Data.List.Induction

/-!
`shared/commands.cpp`: what a node does when a Command arrives, and the one
slot that tells a redelivery from a new command.  Both nodes run this file.

* `handleCommand`: the dispatch, over a `CommandState` (the slot and the channel
  to the sensor thread) and whatever the bus answers.
* `run_lastSequence`: over a whole run the slot holds the sequence of the last
  command, so a command is suppressed exactly when it repeats its immediate
  predecessor (`duplicate_run_iff`).
* `stored_run_eq_expectedStores`: what a run stores on `chan_sensor_cmd`.
* `okMeansCarriedOut_iff`: when an answer of OK means that the command was
  carried out.
-/

namespace ClimateNode

open Wire

/-- The bytes of a C string literal. -/
def cstr (s : String) : Bytes := s.toList.map fun c => UInt8.ofNat c.toNat

/-- `snprintf(dst, n, ..)`: what fits beside the NUL. -/
def snprintf (n : ℕ) (s : String) : Bytes := (cstr s).take (n - 1)

/-- `kFirmwareVersion`. -/
def kFirmwareVersion : Bytes := cstr "0.5.0"

/-- Who this node is: `kBoardName` from the build, `kNodeClientId` from whoever
links the file. -/
structure NodeIdentity where
  kBoardName : Bytes
  kNodeClientId : Bytes

/-- `struct command_result`. -/
structure CommandResult where
  status : AckStatus
  detail : Bytes
  hasInfo : Bool
  info : DeviceInfo
  deriving DecidableEq, Repr, Inhabited

@[simp] lemma CommandResult.hasInfo_default : (default : CommandResult).hasInfo = false := rfl

/-- `sizeof(command_result::detail)`. -/
def detailSize : ℕ := 48

/-- The state of `commands.cpp`, and the one channel it publishes on. -/
structure CommandState where
  haveLastCommand : Bool
  lastCommandSequence : UInt32
  chanSensorCmd : SensorCmdChan

/-- Static storage at boot. -/
def CommandState.initial : CommandState := ⟨false, 0, .initial⟩

/-- What the host reads when the validator refuses an interval. -/
def outsideText (sc : SensorCmd) : String :=
  s!"interval {sc.intervalMs} outside [{samplePeriodMinMs},{samplePeriodMaxMs}]"

/-- `forward_to_sensor`: publish, and turn the bus's answer into a status and a
detail. -/
def forwardToSensor (sc : SensorCmd) (bus : Int) (out : CommandResult) (chan : SensorCmdChan) :
    AckStatus × CommandResult × SensorCmdChan :=
  let pub := chan.pub sc bus
  if pub.1 = 0 then (.ok, out, pub.2)
  else if pub.1 = -eNoMsg then
    (.invalidArgument, { out with detail := snprintf detailSize (outsideText sc) }, pub.2)
  else
    (.failed, { out with detail := snprintf detailSize s!"bus publish failed: {pub.1}" }, pub.2)

/-- `apply_command`: one branch for each arm of the `oneof`. -/
def applyCommand (node : NodeIdentity) (cmd : Command) (bus : Int) (out : CommandResult)
    (chan : SensorCmdChan) : AckStatus × CommandResult × SensorCmdChan :=
  if cmd.whichPayload = setIntervalTag then
    forwardToSensor ⟨.setInterval, cmd.intervalMs⟩ bus out chan
  else if cmd.whichPayload = triggerMeasurementTag then
    forwardToSensor ⟨.trigger, 0⟩ bus out chan
  else if cmd.whichPayload = getDeviceInfoTag then
    (.ok,
      { out with
        info := ⟨strncpy kFirmwareVersion 15, strncpy node.kBoardName 31,
          strncpy node.kNodeClientId 23⟩
        hasInfo := true },
      chan)
  else
    (.unsupported,
      { out with detail := snprintf detailSize s!"unknown command tag {cmd.whichPayload}" }, chan)

/-- `handle_command`: a repeat of the last sequence is answered OK with the side
effect skipped; anything else is applied, and remembered whatever came of it. -/
def handleCommand (node : NodeIdentity) (st : CommandState) (cmd : Command) (bus : Int) :
    CommandResult × CommandState :=
  if st.haveLastCommand && cmd.sequence == st.lastCommandSequence then
    ({ (default : CommandResult) with
        status := .ok, detail := strncpy (cstr "duplicate ignored") (detailSize - 1) }, st)
  else
    let applied := applyCommand node cmd bus default st.chanSensorCmd
    ({ applied.2.1 with status := applied.1 }, ⟨true, cmd.sequence, applied.2.2⟩)

/-! ### What one command asks for -/

/-- The message a Command asks the sensor thread to act on, if any. -/
def sensorCmdOf (cmd : Command) : Option SensorCmd :=
  if cmd.whichPayload = setIntervalTag then some ⟨.setInterval, cmd.intervalMs⟩
  else if cmd.whichPayload = triggerMeasurementTag then some ⟨.trigger, 0⟩
  else none

/-- Asking for the device info asks nothing of the sensor thread. -/
lemma tag_ne_of_sensorCmd {cmd : Command} {sc : SensorCmd} (h : sensorCmdOf cmd = some sc) :
    cmd.whichPayload ≠ getDeviceInfoTag := by
  intro htag
  simp [sensorCmdOf, htag, getDeviceInfoTag, setIntervalTag, triggerMeasurementTag] at h

/-- One call of `handle_command`: the Command, and what the bus will answer
should it come to a publish. -/
structure Delivery where
  cmd : Command
  bus : Int
  deriving DecidableEq, Repr

/-- The sequence number of a delivery. -/
abbrev Delivery.sequence (x : Delivery) : UInt32 := x.cmd.sequence

/-- Applying this Command does what it asks for: it wants the device info, or a
message that the validator and the bus both take. -/
def Delivery.executes (x : Delivery) : Prop :=
  x.cmd.whichPayload = getDeviceInfoTag ∨
    ∃ sc, sensorCmdOf x.cmd = some sc ∧ sensorCmdInRange sc = true ∧ x.bus = 0

section Apply

variable (node : NodeIdentity) {sc : SensorCmd} {bus : Int} {out : CommandResult}
  {chan : SensorCmdChan}

lemma forwardToSensor_accepted (h : sensorCmdInRange sc = true) :
    forwardToSensor sc 0 out chan = (.ok, out, chan.store sc h) := by
  simp [forwardToSensor, SensorCmdChan.pub_accepted h]

lemma forwardToSensor_refused (h : sensorCmdInRange sc = false ∨ bus ≠ 0) :
    (forwardToSensor sc bus out chan).1 ≠ .ok ∧ (forwardToSensor sc bus out chan).2.2 = chan := by
  obtain ⟨hrc, hchan⟩ : (chan.pub sc bus).1 ≠ 0 ∧ (chan.pub sc bus).2 = chan :=
    SensorCmdChan.pub_refused h
  rw [forwardToSensor, if_neg hrc]
  split_ifs <;> exact ⟨by simp, hchan⟩

lemma forwardToSensor_hasInfo :
    (forwardToSensor sc bus out chan).2.1.hasInfo = out.hasInfo := by
  rw [forwardToSensor]
  split_ifs <;> rfl

/-- An arm for the sensor thread goes through the bus and nowhere else. -/
lemma applyCommand_sensor {cmd : Command} (h : sensorCmdOf cmd = some sc) :
    applyCommand node cmd bus out chan = forwardToSensor sc bus out chan := by
  rw [sensorCmdOf] at h
  rw [applyCommand]
  split_ifs at h ⊢ <;> simp_all

/-- Any other arm leaves the channel alone. -/
lemma applyCommand_other {cmd : Command} (h : sensorCmdOf cmd = none) :
    (applyCommand node cmd bus out chan).2.2 = chan ∧
      ((applyCommand node cmd bus out chan).1 = .ok ↔ cmd.whichPayload = getDeviceInfoTag) ∧
      (applyCommand node cmd bus out chan).2.1.hasInfo =
        (out.hasInfo || cmd.whichPayload == getDeviceInfoTag) := by
  rw [sensorCmdOf] at h
  rw [applyCommand]
  split_ifs at h ⊢ <;> simp_all

/-- Applying a Command answers OK exactly when it does what it asks for. -/
lemma applyCommand_ok_iff {cmd : Command} :
    (applyCommand node cmd bus out chan).1 = .ok ↔ Delivery.executes ⟨cmd, bus⟩ := by
  rw [Delivery.executes]
  cases hsc : sensorCmdOf cmd with
  | none => simp [(applyCommand_other node hsc).2.1]
  | some sc =>
      have htag : cmd.whichPayload ≠ getDeviceInfoTag := tag_ne_of_sensorCmd hsc
      rw [applyCommand_sensor node hsc]
      by_cases hok : sensorCmdInRange sc = true ∧ bus = 0
      · simp [hok.2, forwardToSensor_accepted hok.1, hok.1]
      · have href : sensorCmdInRange sc = false ∨ bus ≠ 0 := (not_and_or.mp hok).imp (by simp) id
        simp only [(forwardToSensor_refused href).1, false_iff, not_or, htag, not_false_eq_true,
          true_and]
        rintro ⟨sc', heq, hin, hbus⟩
        exact hok (by cases heq; exact ⟨hin, hbus⟩)

/-- A Command that is not answered OK leaves the channel alone. -/
lemma applyCommand_chan_of_not_ok {cmd : Command}
    (h : (applyCommand node cmd bus out chan).1 ≠ .ok) :
    (applyCommand node cmd bus out chan).2.2 = chan := by
  rw [Ne, applyCommand_ok_iff, Delivery.executes, not_or] at h
  cases hsc : sensorCmdOf cmd with
  | none => exact (applyCommand_other node hsc).1
  | some sc =>
      rw [applyCommand_sensor node hsc]
      refine (forwardToSensor_refused ?_).2
      by_cases hr : sensorCmdInRange sc = true
      · exact .inr fun hbus => h.2 ⟨sc, hsc, hr, hbus⟩
      · exact .inl (by simpa using hr)

end Apply

/-! ### Runs -/

variable (node : NodeIdentity)

/-- `handle_command` over a list of deliveries, from boot. -/
def runCommands (inputs : List Delivery) : CommandState :=
  inputs.foldl (fun st x => (handleCommand node st x.cmd x.bus).2) .initial

/-- What the delivery `x` is answered after those in `pre`. -/
def answer (pre : List Delivery) (x : Delivery) : CommandResult :=
  (handleCommand node (runCommands node pre) x.cmd x.bus).1

/-- `x` carries the sequence of the delivery right before it. -/
def isRepeat (pre : List Delivery) (x : Delivery) : Prop :=
  pre.getLast?.map Delivery.sequence = some x.sequence

instance (pre : List Delivery) (x : Delivery) : Decidable (isRepeat pre x) :=
  inferInstanceAs (Decidable (_ = _))

/-- The slot, as the sequence it remembers. -/
def CommandState.lastSequence (st : CommandState) : Option UInt32 :=
  if st.haveLastCommand then some st.lastCommandSequence else none

lemma runCommands_concat (pre : List Delivery) (x : Delivery) :
    runCommands node (pre ++ [x]) = (handleCommand node (runCommands node pre) x.cmd x.bus).2 := by
  simp [runCommands]

/-- The test `handle_command` makes is one about the slot. -/
lemma duplicate_iff (st : CommandState) (seq : UInt32) :
    (st.haveLastCommand && seq == st.lastCommandSequence) = true ↔
      st.lastSequence = some seq := by
  rw [CommandState.lastSequence]
  cases st.haveLastCommand
  · simp
  · simp only [Bool.true_and, beq_iff_eq, if_true, Option.some.injEq]
    exact eq_comm

/-- **The slot**: after any run it holds the sequence of the last delivery,
suppressed or not. -/
theorem run_lastSequence (inputs : List Delivery) :
    (runCommands node inputs).lastSequence = inputs.getLast?.map Delivery.sequence := by
  induction inputs using List.reverseRecOn with
  | nil => rfl
  | append_singleton pre x ih =>
      rw [runCommands_concat, handleCommand]
      split_ifs with h
      · rw [duplicate_iff] at h
        simpa using h
      · simp [CommandState.lastSequence]

lemma duplicate_run_iff (pre : List Delivery) (x : Delivery) :
    ((runCommands node pre).haveLastCommand &&
      x.cmd.sequence == (runCommands node pre).lastCommandSequence) = true ↔ isRepeat pre x := by
  rw [duplicate_iff, run_lastSequence, isRepeat]

/-- A Command is answered OK when it repeats the last sequence, and otherwise when
it does what it asks for. -/
lemma handleCommand_ok_iff (st : CommandState) (cmd : Command) (bus : Int) :
    (handleCommand node st cmd bus).1.status = .ok ↔
      st.lastSequence = some cmd.sequence ∨ Delivery.executes ⟨cmd, bus⟩ := by
  rw [handleCommand]
  split_ifs with hdup
  · simp [(duplicate_iff st cmd.sequence).mp hdup]
  · rw [duplicate_iff] at hdup
    simp only [applyCommand_ok_iff, hdup, false_or]

/-- A Command that is not answered OK leaves the channel alone. -/
lemma handleCommand_chan_of_not_ok {st : CommandState} {cmd : Command} {bus : Int}
    (h : (handleCommand node st cmd bus).1.status ≠ .ok) :
    (handleCommand node st cmd bus).2.chanSensorCmd = st.chanSensorCmd := by
  rw [handleCommand] at h ⊢
  split_ifs at h ⊢ with hdup
  · rfl
  · exact applyCommand_chan_of_not_ok node h

variable {node} {pre : List Delivery} {x : Delivery}

/-- A repeat is answered OK and changes nothing. -/
lemma handleCommand_repeat (h : isRepeat pre x) :
    (answer node pre x).status = .ok ∧ (answer node pre x).hasInfo = false ∧
      runCommands node (pre ++ [x]) = runCommands node pre := by
  rw [runCommands_concat, answer, handleCommand, if_pos ((duplicate_run_iff node pre x).mpr h)]
  exact ⟨rfl, rfl, rfl⟩

/-- Anything else is applied to the channel as the run before left it. -/
lemma handleCommand_fresh (h : ¬ isRepeat pre x) :
    (answer node pre x).status =
        (applyCommand node x.cmd x.bus default (runCommands node pre).chanSensorCmd).1 ∧
      (answer node pre x).hasInfo =
        (applyCommand node x.cmd x.bus default (runCommands node pre).chanSensorCmd).2.1.hasInfo ∧
      (runCommands node (pre ++ [x])).chanSensorCmd =
        (applyCommand node x.cmd x.bus default (runCommands node pre).chanSensorCmd).2.2 := by
  rw [runCommands_concat, answer, handleCommand,
    if_neg (mt (duplicate_run_iff node pre x).mp h)]
  exact ⟨rfl, rfl, rfl⟩

/-- What one delivery stores on `chan_sensor_cmd`, if anything. -/
def storedBy (pre : List Delivery) (x : Delivery) : Option SensorCmd :=
  if isRepeat pre x then none
  else (sensorCmdOf x.cmd).filter fun sc => sensorCmdInRange sc && x.bus == 0

/-- A delivery that stores a message appends it, and it becomes the content. -/
lemma chan_of_storedBy_some {sc : SensorCmd} (h : storedBy pre x = some sc) :
    (runCommands node (pre ++ [x])).chanSensorCmd.stored =
        (runCommands node pre).chanSensorCmd.stored ++ [sc] ∧
      (runCommands node (pre ++ [x])).chanSensorCmd.content = sc := by
  rw [storedBy] at h
  split_ifs at h with hrep
  obtain ⟨hsc, hok⟩ := Option.filter_eq_some_iff.mp h
  simp only [Bool.and_eq_true, beq_iff_eq] at hok
  rw [(handleCommand_fresh hrep).2.2, applyCommand_sensor node hsc, hok.2,
    forwardToSensor_accepted hok.1]
  exact ⟨rfl, rfl⟩

/-- A delivery that stores nothing leaves the channel as it was. -/
lemma chan_of_storedBy_none (h : storedBy pre x = none) :
    (runCommands node (pre ++ [x])).chanSensorCmd = (runCommands node pre).chanSensorCmd := by
  rw [storedBy] at h
  split_ifs at h with hrep
  · rw [(handleCommand_repeat hrep).2.2]
  · rw [(handleCommand_fresh hrep).2.2]
    cases hsc : sensorCmdOf x.cmd with
    | none => exact (applyCommand_other node hsc).1
    | some sc =>
        rw [applyCommand_sensor node hsc]
        refine (forwardToSensor_refused ?_).2
        have hrefused : sensorCmdInRange sc = true → x.bus ≠ 0 := by simpa [hsc] using h
        cases hr : sensorCmdInRange sc with
        | false => exact .inl rfl
        | true => exact .inr (hrefused hr)

/-! ### What a run stores -/

/-- The list without the deliveries that repeat the sequence of their immediate
predecessor; `last` is the sequence before the list. -/
def dropRepeatsAfter (last : Option UInt32) : List Delivery → List Delivery
  | [] => []
  | x :: xs =>
      if last = some x.sequence then dropRepeatsAfter (some x.sequence) xs
      else x :: dropRepeatsAfter (some x.sequence) xs

/-- The list without its repeats. -/
def dropRepeats (inputs : List Delivery) : List Delivery := dropRepeatsAfter none inputs

/-- What the deliveries should store, from the deliveries alone: no repeats, the
two arms meant for the sensor, in range and taken by the bus. -/
def expectedStores (inputs : List Delivery) : List SensorCmd :=
  (((dropRepeats inputs).filterMap fun x => (sensorCmdOf x.cmd).map fun sc => (sc, x.bus)).filter
    fun p => sensorCmdInRange p.1 && p.2 == 0).map (·.1)

private lemma dropRepeatsAfter_concat (last : Option UInt32) (pre : List Delivery) (x : Delivery) :
    dropRepeatsAfter last (pre ++ [x]) =
      dropRepeatsAfter last pre ++
        if (pre.getLast?.map Delivery.sequence).or last = some x.sequence then [] else [x] := by
  induction pre generalizing last with
  | nil => by_cases h : last = some x.sequence <;> simp [dropRepeatsAfter, h]
  | cons y ys ih =>
      have hlast : (((y :: ys).getLast?.map Delivery.sequence).or last) =
          (ys.getLast?.map Delivery.sequence).or (some y.sequence) := by
        rw [List.getLast?_cons]
        cases ys.getLast? <;> simp
      rw [List.cons_append, dropRepeatsAfter, dropRepeatsAfter, hlast, ih]
      split_ifs <;> simp

lemma dropRepeats_concat (pre : List Delivery) (x : Delivery) :
    dropRepeats (pre ++ [x]) = dropRepeats pre ++ if isRepeat pre x then [] else [x] := by
  rw [dropRepeats, dropRepeatsAfter_concat, Option.or_none]
  rfl

/-- The deliveries left are those that were not repeats where they stood. -/
lemma mem_dropRepeats {inputs : List Delivery} {y : Delivery} :
    y ∈ dropRepeats inputs ↔ ∃ pre, (pre ++ [y]) <+: inputs ∧ ¬ isRepeat pre y := by
  induction inputs using List.reverseRecOn with
  | nil => simp [dropRepeats, dropRepeatsAfter]
  | append_singleton l x ih =>
      simp only [dropRepeats_concat, List.mem_append, ih, List.prefix_concat_iff]
      constructor
      · rintro (⟨pre, hpre, hrep⟩ | hmem)
        · exact ⟨pre, .inr hpre, hrep⟩
        · split_ifs at hmem with hrep
          · simp at hmem
          · rw [List.mem_singleton.mp hmem]
            exact ⟨l, .inl rfl, hrep⟩
      · rintro ⟨pre, heq | hpre, hrep⟩
        · obtain ⟨rfl, heq⟩ := List.append_inj' heq rfl
          obtain rfl : y = x := by simpa using heq
          exact .inr (by simp [hrep])
        · exact .inl ⟨pre, hpre, hrep⟩

lemma expectedStores_concat (pre : List Delivery) (x : Delivery) :
    expectedStores (pre ++ [x]) = expectedStores pre ++ (storedBy pre x).toList := by
  rw [expectedStores, dropRepeats_concat, storedBy]
  split_ifs with hrep
  · simp [expectedStores]
  · rw [List.filterMap_append, List.filter_append, List.map_append]
    congr 1
    cases hsc : sensorCmdOf x.cmd with
    | none => simp [hsc]
    | some sc =>
        by_cases h : sensorCmdInRange sc = true ∧ x.bus = 0 <;> simp_all [Option.filter_some]

/-- A run stores what its deliveries say it should. -/
lemma stored_run (node : NodeIdentity) (inputs : List Delivery) :
    (runCommands node inputs).chanSensorCmd.stored = expectedStores inputs := by
  induction inputs using List.reverseRecOn with
  | nil => rfl
  | append_singleton pre x ih =>
      cases hx : storedBy pre x with
      | none =>
          calc (runCommands node (pre ++ [x])).chanSensorCmd.stored
              = (runCommands node pre).chanSensorCmd.stored := by rw [chan_of_storedBy_none hx]
            _ = expectedStores pre := ih
            _ = expectedStores (pre ++ [x]) := by simp [expectedStores_concat, hx]
      | some sc =>
          calc (runCommands node (pre ++ [x])).chanSensorCmd.stored
              = (runCommands node pre).chanSensorCmd.stored ++ [sc] := (chan_of_storedBy_some hx).1
            _ = expectedStores pre ++ [sc] := by rw [ih]
            _ = expectedStores (pre ++ [x]) := by simp [expectedStores_concat, hx]

/-- The content is the last message stored, or the one the channel was defined
with. -/
lemma content_run (node : NodeIdentity) (inputs : List Delivery) :
    (runCommands node inputs).chanSensorCmd.content =
      (expectedStores inputs).getLastD SensorCmdChan.initial.content := by
  induction inputs using List.reverseRecOn with
  | nil => rfl
  | append_singleton pre x ih =>
      rw [expectedStores_concat]
      cases hx : storedBy pre x with
      | none => rw [chan_of_storedBy_none hx, ih]; simp
      | some sc => rw [(chan_of_storedBy_some hx).2]; simp

/-- Redeliveries right behind a delivery leave everything as it was. -/
lemma runCommands_redelivered (node : NodeIdentity) (pre : List Delivery) (x : Delivery)
    (block : List Delivery) (h : ∀ y ∈ block, y.sequence = x.sequence) :
    runCommands node (pre ++ [x] ++ block) = runCommands node (pre ++ [x]) := by
  induction block using List.reverseRecOn with
  | nil => simp
  | append_singleton ys y ih =>
      have hys : ∀ z ∈ ys, z.sequence = x.sequence := fun z hz => h z (by simp [hz])
      have hy : y.sequence = x.sequence := h y (by simp)
      have hrep : isRepeat (pre ++ [x] ++ ys) y := by
        cases ys using List.reverseRecOn with
        | nil => simp [isRepeat, hy]
        | append_singleton zs z =>
            rw [← List.append_assoc, isRepeat, List.getLast?_concat, Option.map_some, hy,
              hys z (by simp)]
      calc runCommands node (pre ++ [x] ++ (ys ++ [y]))
          = runCommands node (pre ++ [x] ++ ys ++ [y]) := by rw [List.append_assoc _ ys]
        _ = runCommands node (pre ++ [x] ++ ys) := (handleCommand_repeat hrep).2.2
        _ = runCommands node (pre ++ [x]) := ih hys

/-! ### What an answer of OK means -/

/-- The delivery `x` was carried out: its device info was reported, or its
message was taken by `chan_sensor_cmd`. -/
def carriedOut (node : NodeIdentity) (pre : List Delivery) (x : Delivery) : Prop :=
  (answer node pre x).hasInfo = true ∨
    ∃ sc, sensorCmdOf x.cmd = some sc ∧
      (runCommands node (pre ++ [x])).chanSensorCmd.stored =
        (runCommands node pre).chanSensorCmd.stored ++ [sc]

/-- A fresh delivery is answered OK exactly when it does what it asks for. -/
lemma answer_ok_iff_of_fresh (h : ¬ isRepeat pre x) :
    (answer node pre x).status = .ok ↔ x.executes := by
  rw [(handleCommand_fresh h).1, applyCommand_ok_iff]

/-- A delivery is carried out exactly when it is fresh and does what it asks
for. -/
lemma carriedOut_iff : carriedOut node pre x ↔ ¬ isRepeat pre x ∧ x.executes := by
  by_cases hrep : isRepeat pre x
  · simp [carriedOut, (handleCommand_repeat hrep).2, hrep]
  · rw [carriedOut, (handleCommand_fresh hrep).2.1, Delivery.executes, stored_run, stored_run,
      expectedStores_concat, storedBy, if_neg hrep]
    cases hsc : sensorCmdOf x.cmd with
    | none => simp [(applyCommand_other node hsc).2.2, hrep]
    | some sc =>
        have htag : x.cmd.whichPayload ≠ getDeviceInfoTag := tag_ne_of_sensorCmd hsc
        rw [applyCommand_sensor node hsc, forwardToSensor_hasInfo]
        by_cases hok : sensorCmdInRange sc = true ∧ x.bus = 0 <;>
          simp_all [Option.filter_some]

/-- **What a run stores**: the list of messages stored on `chan_sensor_cmd` is a
function of the deliveries alone.  So redeliveries right behind a command act at
most once, a fresh sequence always acts, the first command is fresh whatever its
sequence, and a command not answered OK leaves the channel alone. -/
theorem stored_run_eq_expectedStores (node : NodeIdentity) :
    (∀ inputs, (runCommands node inputs).chanSensorCmd.stored = expectedStores inputs ∧
      (runCommands node inputs).chanSensorCmd.content =
        (expectedStores inputs).getLastD SensorCmdChan.initial.content) ∧
    (∀ pre x block, (∀ y ∈ block, y.sequence = x.sequence) →
      runCommands node (pre ++ [x] ++ block) = runCommands node (pre ++ [x])) ∧
    (∀ pre x, ¬ isRepeat pre x → x.executes → carriedOut node pre x) ∧
    (∀ x, x.sequence = 0 → x.executes → carriedOut node [] x) ∧
    (∀ pre x, (answer node pre x).status ≠ .ok →
      (runCommands node (pre ++ [x])).chanSensorCmd =
        (runCommands node pre).chanSensorCmd) := by
  refine ⟨fun inputs => ⟨stored_run node inputs, content_run node inputs⟩,
    runCommands_redelivered node, ?_, ?_, ?_⟩
  · intro pre x hfresh hexec
    exact carriedOut_iff.mpr ⟨hfresh, hexec⟩
  · intro x _ hexec
    exact carriedOut_iff.mpr ⟨by simp [isRepeat], hexec⟩
  · intro pre x hans
    refine chan_of_storedBy_none ?_
    have hfresh : ¬ isRepeat pre x := fun hrep => hans (handleCommand_repeat hrep).1
    rw [storedBy, if_neg hfresh]
    rw [Ne, answer_ok_iff_of_fresh hfresh] at hans
    cases hsc : sensorCmdOf x.cmd with
    | none => rfl
    | some sc =>
        have hno : ¬ (sensorCmdInRange sc = true ∧ x.bus = 0) := fun h => hans (.inr ⟨sc, hsc, h⟩)
        simpa [Option.filter_some] using hno

/-- Whenever a delivery is answered OK, that delivery or an earlier one with its
sequence was carried out. -/
def okMeansCarriedOut (node : NodeIdentity) (inputs : List Delivery) : Prop :=
  ∀ pre x post, inputs = pre ++ x :: post → (answer node pre x).status = .ok →
    ∃ pre' y, (pre' ++ [y]) <+: (pre ++ [x]) ∧ y.sequence = x.sequence ∧ carriedOut node pre' y

/-- Every repeat comes after a delivery with its sequence that was not a repeat
and did what it asked for. -/
def repeatsFollowExecution (inputs : List Delivery) : Prop :=
  ∀ pre x post, inputs = pre ++ x :: post → isRepeat pre x →
    ∃ y ∈ dropRepeats pre, y.sequence = x.sequence ∧ y.executes

/-- **What OK means**: the slot remembers a command that failed as well as one
that succeeded, so an answer of OK means that the command was carried out
exactly when no repeat follows failures only. -/
theorem okMeansCarriedOut_iff (node : NodeIdentity) (inputs : List Delivery) :
    okMeansCarriedOut node inputs ↔ repeatsFollowExecution inputs := by
  constructor
  · intro h pre x post heq hrep
    obtain ⟨pre', y, hpre, hseq, hout⟩ := h pre x post heq (handleCommand_repeat hrep).1
    obtain ⟨hfresh, hexec⟩ := carriedOut_iff.mp hout
    refine ⟨y, mem_dropRepeats.mpr ⟨pre', ?_, hfresh⟩, hseq, hexec⟩
    rcases List.prefix_concat_iff.mp hpre with hall | hpre
    · -- the repeat itself is not fresh
      obtain ⟨rfl, hyx⟩ := List.append_inj' hall rfl
      obtain rfl : y = x := by simpa using hyx
      exact absurd hrep hfresh
    · exact hpre
  · intro h pre x post heq hans
    by_cases hrep : isRepeat pre x
    · obtain ⟨y, hmem, hseq, hexec⟩ := h pre x post heq hrep
      obtain ⟨pre', hpre, hfresh⟩ := mem_dropRepeats.mp hmem
      exact ⟨pre', y, hpre.trans (List.prefix_append _ _), hseq,
        carriedOut_iff.mpr ⟨hfresh, hexec⟩⟩
    · exact ⟨pre, x, List.prefix_rfl, rfl,
        carriedOut_iff.mpr ⟨hrep, (answer_ok_iff_of_fresh hrep).mp hans⟩⟩

/-- An interval the validator refuses, and the same command again: the second
answer is OK, and nothing was ever carried out. -/
theorem refused_then_redelivered_ok :
    ¬ okMeansCarriedOut ⟨cstr "nucleo_h753zi", cstr "nucleo-1"⟩
      [⟨⟨kSchemaVersion, 7, setIntervalTag, 500⟩, 0⟩,
        ⟨⟨kSchemaVersion, 7, setIntervalTag, 500⟩, 0⟩] := by
  intro h
  have hrep : isRepeat [⟨⟨kSchemaVersion, 7, setIntervalTag, 500⟩, 0⟩]
      ⟨⟨kSchemaVersion, 7, setIntervalTag, 500⟩, 0⟩ := by decide
  obtain ⟨pre, y, hpre, -, hout⟩ := h [_] _ [] rfl (handleCommand_repeat hrep).1
  obtain ⟨-, hexec⟩ := carriedOut_iff.mp hout
  have hy : y ∈ [(⟨⟨kSchemaVersion, 7, setIntervalTag, 500⟩, 0⟩ : Delivery),
      ⟨⟨kSchemaVersion, 7, setIntervalTag, 500⟩, 0⟩] := hpre.subset (by simp)
  obtain rfl : y = ⟨⟨kSchemaVersion, 7, setIntervalTag, 500⟩, 0⟩ := by simpa using hy
  rcases hexec with htag | ⟨sc, hsc, hin, -⟩
  · exact absurd htag (by decide)
  · obtain rfl : sc = ⟨.setInterval, 500⟩ := by
      simpa [sensorCmdOf, eq_comm] using hsc
    exact absurd hin (by decide)

end ClimateNode
