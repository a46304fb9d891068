import ClimateNode.Link.Downlink
import ClimateNode.Link.Uplink
import ClimateNode.Shared.CommandWire

/-!
`host/command.py`: the Command a user asks for, the Ack it waits for and the status it
exits with, against either node.

* `buildCommand`, `awaitAck`, `exitCode`: the tool, up to its deadline.
* `respond`: the Acks of a node to the messages of any number of such tools, those of them
  that come to one tool.
* `answers_own`, `answers_peer`: **the way there and back**, to the gateway itself and
  through it to the peer.
* `host_told_truth`: **what the tool tells its user**.
-/

namespace ClimateNode.Host

open Wire Nanopb

/-! ### The tool -/

/-- `args.action`, with its argument. -/
inductive Action where
  | interval (intervalMs : ℤ)
  | trigger
  | info
  deriving DecidableEq, Repr

/-- The `Command` of `node_pb2`. -/
structure HostCommand where
  schemaVersion : UInt32
  sequence : UInt32
  payload : Option CommandArm
  deriving DecidableEq, Repr

/-- `SCHEMA_VERSION`. -/
def schemaVersion : UInt32 := 1

/-- What is assigned to a `uint32` field; a number that does not fit raises. -/
def uint32 (n : ℤ) : Option UInt32 :=
  if 0 ≤ n ∧ n < 2 ^ 32 then some (UInt32.ofNat n.toNat) else none

/-- The arm `build_command` sets. -/
def Action.arm : Action → Option CommandArm
  | .interval intervalMs => (uint32 intervalMs).map .setInterval
  | .trigger => some .triggerMeasurement
  | .info => some .getDeviceInfo

/-- `build_command`; `none` where it raises. -/
def buildCommand (action : Action) (sequence : ℤ) : Option HostCommand :=
  (uint32 sequence).bind fun sequence =>
    action.arm.map fun arm => ⟨schemaVersion, sequence, some arm⟩

/-- `SerializeToString`. -/
def HostCommand.serialize (c : HostCommand) : Bytes :=
  encodeFields (commandFields c.schemaVersion c.sequence c.payload)

/-- What the network thread keeps: `ack_seen`, and whether the thread still listens. -/
structure Listener where
  ackSeen : Option DecodedAck
  listening : Bool
  deriving DecidableEq, Repr

/-- `on_message`: an Ack with our sequence takes the place of one seen before.  What does
not parse raises, which ends the thread. -/
def Listener.onMessage (sequence : UInt32) (l : Listener) (message : Bytes) : Listener :=
  if l.listening then
    match decodeAck message with
    | none => { l with listening := false }
    | some ack => if ack.sequence = sequence then { l with ackSeen := some ack } else l
  else l

/-- What happens until `main` has stopped the network thread: a message on the topic of the
Acks, or a look at `ack_seen` and the clock, `late` from the deadline on. -/
inductive Event where
  | message (payload : Bytes)
  | look (late : Bool)
  deriving DecidableEq, Repr

/-- The tool: its network thread, and whether `main` goes on waiting. -/
structure Tool extends Listener where
  waiting : Bool
  deriving DecidableEq, Repr

/-- What an event does; the loop of `main` looks for an Ack first. -/
def Tool.next (sequence : UInt32) (t : Tool) : Event → Tool
  | .message payload => { t with toListener := t.toListener.onMessage sequence payload }
  | .look late => { t with waiting := t.waiting && t.ackSeen.isNone && !late }

/-- The wait of `main` for its Ack. -/
def awaitAck (sequence : UInt32) (events : List Event) : Tool :=
  events.foldl (Tool.next sequence) ⟨⟨none, true⟩, true⟩

/-- The messages that came. -/
def messages (events : List Event) : List Bytes :=
  events.filterMap fun
    | .message payload => some payload
    | .look _ => none

/-- What `main` exits with, by what is in `ack_seen` at the end. -/
def exitCode : Option DecodedAck → ℕ
  | none => 1
  | some ack => if ack.status = UInt32.ofNat AckStatus.ok.wire then 0 else 2

/-! ### What a node makes of it -/

/-- The command a node decodes. -/
def HostCommand.command (c : HostCommand) : Command :=
  commandOf c.schemaVersion c.sequence c.payload

/-- Some user asked for it. -/
def HostCommand.Built (c : HostCommand) : Prop :=
  ∃ action sequence, buildCommand action sequence = some c

variable {c : HostCommand}

/-- A command that is built has an arm, and the version. -/
lemma HostCommand.Built.eq (h : c.Built) :
    ∃ arm, c.payload = some arm ∧ c.schemaVersion = Host.schemaVersion := by
  obtain ⟨action, sequence, h⟩ := h
  obtain ⟨sequence, -, h⟩ := Option.bind_eq_some_iff.mp h
  obtain ⟨arm, -, rfl⟩ := Option.map_eq_some_iff.mp h
  exact ⟨arm, rfl, rfl⟩

lemma commandFields_known (v seq : UInt32) (arm : Option CommandArm) :
    ∀ f ∈ commandFields v seq arm, inCommand f = true := by
  intro f hf
  simp only [commandFields, implicit, List.mem_append] at hf
  rcases hf with (hf | hf) | hf
  · split_ifs at hf
    · simp at hf
    · rw [List.mem_singleton.mp hf]
      rfl
  · split_ifs at hf
    · simp at hf
    · rw [List.mem_singleton.mp hf]
      rfl
  · obtain ⟨arm, -, rfl⟩ := List.mem_map.mp hf
    cases arm <;> rfl

/-- A command decodes as it was built. -/
lemma HostCommand.decode (c : HostCommand) :
    decodeCommand proto3 c.serialize false = (true, c.command) := by
  have hknown := commandFields_known c.schemaVersion c.sequence c.payload
  have hcarries : CarriesCommand c.schemaVersion c.sequence c.payload.toList
      (commandFields c.schemaVersion c.sequence c.payload) :=
    .of_interleaved (List.filter_eq_self.mpr hknown) fun f hf hno => by simp [hknown f hf] at hno
  rw [serialize, hcarries.decode, command]
  cases c.payload <;> rfl

lemma HostCommand.serialize_length_le (c : HostCommand) : c.serialize.length ≤ nodeCommandSize :=
  commandFields_length_le _ _ _

lemma HostCommand.decodePublish (c : HostCommand) :
    ClimateNode.decodePublish proto3 c.serialize = (true, c.command) := by
  have hle := c.serialize_length_le
  have hsize : c.serialize.length ≤ incomingPayloadSize := hle.trans (by decide)
  rw [ClimateNode.decodePublish, List.take_of_length_le hsize, decide_eq_false (not_lt.mpr hsize)]
  exact c.decode

/-- What a node does with a message: the Acks it publishes, and the commands state
after. -/
abbrev Handler := CommandState → Bytes → ℤ → List Bytes × CommandState

/-- The gateway, with a command of its own. -/
def ownHandler (node : NodeIdentity) : Handler := fun st message bus =>
  match handleIncomingPublish proto3 node st false message bus with
  | (.ack payload, st) => (payload.toList, st)
  | (.relayed _, st) => ([], st)

/-- The peer, with what one transfer brings. -/
def peerHandles (peer : NodeIdentity) (bus : ℤ) : CommandState → List Bytes →
    List Bytes × CommandState
  | st, [] => ([], st)
  | st, buf :: later =>
      let handled := Peer.handleIncoming proto3 peer st buf bus
      let rest := peerHandles peer bus handled.2 later
      (handled.1.toList ++ rest.1, rest.2)

/-- The gateway, the link and the peer, with a command for the peer, while the relay is
free and nothing is lost: the Acks are those the gateway publishes for the peer. -/
def peerHandler (gateway peer : NodeIdentity) (gst : CommandState) : Handler :=
  fun st message bus =>
    match handleIncomingPublish proto3 gateway gst true message 0 with
    | (.ack payload, _) => (payload.toList, st)
    | (.relayed down, _) =>
        let handled := peerHandles peer bus st (peerReceives down)
        (handled.1.flatMap fun ack =>
          (Uplink.received .ack ack true).flatMap (Uplink.routed .ack), handled.2)

/-- A command that is delivered: what the bus of the node will answer, and whether the Ack
comes to some tool, which it does not if `mqtt_publish` fails, or the tool is not subscribed
yet or has stopped listening. -/
structure Asked where
  command : HostCommand
  bus : ℤ
  came : Bool
  deriving DecidableEq, Repr

/-- The Acks to the commands of a run that come to the tool, oldest first. -/
def respond (handler : Handler) : CommandState → List Asked → List Bytes
  | _, [] => []
  | st, x :: later =>
      (if x.came then (handler st x.command.serialize x.bus).1 else []) ++
        respond handler (handler st x.command.serialize x.bus).2 later

/-- What a tool reads of the answer to its command. -/
structure Reads (c : HostCommand) (result : CommandResult) (ack : DecodedAck) : Prop where
  sequence : ack.sequence = c.sequence
  status : ack.status = UInt32.ofNat result.status.wire
  info : ack.deviceInfo = if result.hasInfo then some result.info else none

/-- A node that answers each command with what came of it, in one Ack. -/
def Answers (handler : Handler) (node : NodeIdentity) : Prop :=
  ∀ st (c : HostCommand) bus, ∃ message ack,
    handler st c.serialize bus = ([message], (handleCommand node st c.command bus).2) ∧
      decodeAck message = some ack ∧ Reads c (handleCommand node st c.command bus).1 ack

/-! ### There and back -/

/-- The Ack of a result, read back. -/
lemma reads_encodeAck (node : NodeIdentity) (st : CommandState) (c : HostCommand) (bus : ℤ)
    (detail : Option Bytes) : ∃ ack,
    decodeAck (encodeAck proto3 c.sequence (handleCommand node st c.command bus).1.status detail
      (if (handleCommand node st c.command bus).1.hasInfo then
        some (handleCommand node st c.command bus).1.info else none) nodeAckSize) = some ack ∧
      Reads c (handleCommand node st c.command bus).1 ack :=
  ⟨_, decodeAck_encodeAck _ _ _ (resultInfo_terminated c.command), rfl, rfl, rfl⟩

/-- The Ack of a result is not empty, and fits its buffer. -/
lemma encodeAck_pos (node : NodeIdentity) (st : CommandState) (c : HostCommand) (bus : ℤ)
    (detail : Option Bytes) :
    1 ≤ (encodeAck proto3 c.sequence (handleCommand node st c.command bus).1.status detail
      (if (handleCommand node st c.command bus).1.hasInfo then
        some (handleCommand node st c.command bus).1.info else none) nodeAckSize).length ∧
    (encodeAck proto3 c.sequence (handleCommand node st c.command bus).1.status detail
      (if (handleCommand node st c.command bus).1.hasInfo then
        some (handleCommand node st c.command bus).1.info else none) nodeAckSize).length ≤
      nodeAckSize :=
  encodeAck_length _ _ _ (resultInfo_terminated c.command)

@[simp] lemma HostCommand.command_sequence (c : HostCommand) : c.command.sequence = c.sequence := by
  rw [command]
  rcases c.payload with _ | (_ | _ | _) <;> rfl

/-- **The gateway answers**, whatever its state. -/
lemma answers_own (node : NodeIdentity) : Answers (ownHandler node) node := by
  intro st c bus
  obtain ⟨ack, hdec, hreads⟩ := reads_encodeAck node st c bus
    (if (handleCommand node st c.command bus).1.detail = [] then none
      else some (handleCommand node st c.command bus).1.detail)
  obtain ⟨hpos, -⟩ := encodeAck_pos node st c bus
    (if (handleCommand node st c.command bus).1.detail = [] then none
      else some (handleCommand node st c.command bus).1.detail)
  have hdecode := c.decodePublish
  refine ⟨_, ack, ?_, hdec, hreads⟩
  rw [ownHandler, handleIncomingPublish_own (by rw [hdecode])]
  simp only [hdecode, c.command_sequence, publishAck]
  rw [if_neg (by omega)]
  rfl

/-- An Ack that fits its frame is published as it is. -/
lemma routed_ack {payload : Bytes} (h : payload.length ≤ nodeAckSize) :
    (Uplink.received .ack payload true).flatMap (Uplink.routed .ack) = [payload] := by
  have hsend : Peer.sendMessage .ack payload = some (RelayMsgType.ack.byte :: payload) :=
    if_neg (by omega)
  have hfits : payload.length ≤ kRelayUpMax := h.trans (by decide)
  have hcalls : IsoTp.recvCalls Uplink.relayRecvSize (RelayMsgType.ack.byte :: payload) =
      [RelayMsgType.ack.byte :: payload] := by
    refine IsoTp.recvCalls_of_le (List.cons_ne_nil _ _) ?_
    rw [List.length_cons, Uplink.relayRecvSize]
    omega
  simp only [Uplink.received, if_true, hsend, Option.elim_some, hcalls, List.flatMap_singleton,
    Uplink.routed]
  rw [handleRelayed_ack hfits]
  rfl

/-- **The peer answers** through the gateway, whatever the states of the two. -/
lemma answers_peer (gateway peer : NodeIdentity) (gst : CommandState) :
    Answers (peerHandler gateway peer gst) peer := by
  intro st c bus
  obtain ⟨ack, hdec, hreads⟩ := reads_encodeAck peer st c bus
    (some (handleCommand peer st c.command bus).1.detail)
  obtain ⟨hpos, hmax⟩ := encodeAck_pos peer st c bus
    (some (handleCommand peer st c.command bus).1.detail)
  have hle := c.serialize_length_le
  have hfits : c.serialize.length ≤ kRelayDownMax := hle.trans (by decide)
  have htake : c.serialize.take incomingPayloadSize = c.serialize :=
    List.take_of_length_le (hle.trans (by decide))
  -- the gateway relays the message as it is
  have hrelayed : handleIncomingPublish proto3 gateway gst true c.serialize 0 =
      (.relayed ⟨kFirstPeerNodeId, c.sequence, c.serialize, hfits⟩, gst) := by
    rw [handleIncomingPublish_forPeer (by rw [c.decodePublish]), c.decodePublish, htake,
      forwardToPeer, dif_pos hfits, if_pos rfl]
    simp only [c.command_sequence]
  -- and the peer receives it in one piece
  have hreceives : peerReceives ⟨kFirstPeerNodeId, c.sequence, c.serialize, hfits⟩ =
      [RelayMsgType.command.byte :: c.serialize] := by
    refine IsoTp.recvCalls_of_le (List.cons_ne_nil _ _) ?_
    exact (Nat.succ_le_succ hle).trans (by decide)
  have hdecode : Peer.decodeIncoming proto3 (RelayMsgType.command.byte :: c.serialize) =
      some (true, c.command) := by
    rw [Peer.decodeIncoming, if_neg (not_not.mpr rfl), c.decode]
  refine ⟨_, ack, ?_, hdec, hreads⟩
  simp only [peerHandler, hrelayed, hreceives, peerHandles, Peer.handleIncoming, hdecode,
    c.command_sequence]
  rw [if_pos (by omega), Option.toList_some, List.append_nil, List.flatMap_singleton,
    routed_ack hmax]

/-! ### What the tool has seen -/

/-- What the network thread keeps is up to the messages alone. -/
lemma toListener_foldl (sequence : UInt32) (events : List Event) (t : Tool) :
    (events.foldl (Tool.next sequence) t).toListener =
      (messages events).foldl (Listener.onMessage sequence) t.toListener := by
  induction events generalizing t with
  | nil => rfl
  | cons e later ih =>
      cases e with
      | message payload => exact ih _
      | look late => exact ih _

lemma awaitAck_concat (sequence : UInt32) (events : List Event) (e : Event) :
    awaitAck sequence (events ++ [e]) = (awaitAck sequence events).next sequence e :=
  List.foldl_concat _ _ _ _

lemma awaitAck_toListener (sequence : UInt32) (events : List Event) :
    (awaitAck sequence events).toListener =
      (messages events).foldl (Listener.onMessage sequence) ⟨none, true⟩ :=
  toListener_foldl sequence events _

/-- An Ack is never forgotten. -/
lemma Tool.ackSeen_next {sequence : UInt32} {t : Tool} {e : Event}
    (h : (t.next sequence e).ackSeen = none) : t.ackSeen = none := by
  cases e with
  | look late => exact h
  | message payload =>
      simp only [next, Listener.onMessage] at h
      split_ifs at h
      · split at h
        · exact h
        · split_ifs at h
          exact h
      · exact h

/-- Without an Ack the tool waits until its deadline. -/
lemma awaitAck_patient {sequence : UInt32} {events : List Event}
    (hover : (awaitAck sequence events).waiting = false)
    (hnone : (awaitAck sequence events).ackSeen = none) : .look true ∈ events := by
  induction events using List.reverseRecOn with
  | nil => exact absurd hover (by simp [awaitAck])
  | append_singleton events e ih =>
      rw [awaitAck_concat] at hover hnone
      have hbefore := Tool.ackSeen_next hnone
      cases e with
      | message payload => exact List.mem_append_left _ (ih hover hbefore)
      | look late =>
          simp only [Tool.next, hbefore, Option.isNone_none, Bool.and_true] at hover
          cases late with
          | true => exact List.mem_append_right _ (List.mem_singleton_self _)
          | false => exact List.mem_append_left _ (ih (by simpa using hover) hbefore)

/-- The delivery of a command, with what the bus of the node will answer. -/
def delivery (x : Asked) : Delivery := ⟨x.command.command, x.bus⟩

@[simp] lemma delivery_sequence (x : Asked) : (delivery x).sequence = x.command.sequence :=
  x.command.command_sequence

section Responses

variable {handler : Handler} {node : NodeIdentity}

/-- One command more, in front. -/
lemma respond_cons (h : Answers handler node) (pre : List Delivery) (x : Asked)
    (later : List Asked) : ∃ message ack, decodeAck message = some ack ∧
      Reads x.command (answer node pre (delivery x)) ack ∧
      respond handler (runCommands node pre) (x :: later) =
        (if x.came then [message] else []) ++
          respond handler (runCommands node (pre ++ [delivery x])) later := by
  obtain ⟨message, ack, hhandler, hdec, hreads⟩ := h (runCommands node pre) x.command x.bus
  have hrun : (handleCommand node (runCommands node pre) x.command.command x.bus).2 =
      runCommands node (pre ++ [delivery x]) := (runCommands_concat node pre (delivery x)).symm
  exact ⟨message, ack, hdec, hreads, by rw [respond, hhandler, hrun]⟩

/-- The responses to a run are those to its parts. -/
lemma respond_append (h : Answers handler node) (later : List Asked) :
    ∀ (xs : List Asked) (pre : List Delivery),
      respond handler (runCommands node pre) (xs ++ later) =
        respond handler (runCommands node pre) xs ++
          respond handler (runCommands node (pre ++ xs.map delivery)) later := by
  intro xs
  induction xs with
  | nil => simp [respond]
  | cons x xs ih =>
      intro pre
      obtain ⟨message, ack, hhandler, -, -⟩ := h (runCommands node pre) x.command x.bus
      have hrun : (handleCommand node (runCommands node pre) x.command.command x.bus).2 =
          runCommands node (pre ++ [delivery x]) := (runCommands_concat node pre (delivery x)).symm
      rw [List.cons_append, respond, respond, hhandler, hrun, ih, List.append_assoc,
        List.map_cons, List.append_assoc, List.singleton_append]

/-- Acks to other commands leave a tool as it is. -/
lemma foldl_respond_other (h : Answers handler node) {sequence : UInt32} {l : Listener}
    (hlisten : l.listening = true) : ∀ (xs : List Asked) (pre : List Delivery),
      (∀ x ∈ xs, x.command.sequence = sequence → x.came = false) →
      (respond handler (runCommands node pre) xs).foldl (Listener.onMessage sequence) l = l := by
  intro xs
  induction xs with
  | nil => exact fun _ _ => rfl
  | cons x xs ih =>
      intro pre hother
      obtain ⟨message, ack, hdec, hreads, hrespond⟩ := respond_cons h pre x xs
      rw [hrespond, List.foldl_append]
      have hx : (if x.came then [message] else []).foldl (Listener.onMessage sequence) l = l := by
        by_cases hcame : x.came
        · have hne : ack.sequence ≠ sequence := fun heq => by
            simp [hother x List.mem_cons_self (hreads.sequence.symm.trans heq)] at hcame
          rw [if_pos hcame, List.foldl_cons, List.foldl_nil, Listener.onMessage, if_pos hlisten,
            hdec]
          exact if_neg hne
        · rw [if_neg hcame, List.foldl_nil]
      rw [hx]
      exact ih _ fun y hy => hother y (List.mem_cons_of_mem x hy)

/-- A tool that gets the Ack to the first delivery of its command, and none to another,
has that. -/
lemma awaitAck_respond (h : Answers handler node) {x : Asked} {before after : List Asked}
    (hfresh : ∀ y ∈ before, y.command.sequence ≠ x.command.sequence) (hcame : x.came = true)
    (hafter : ∀ y ∈ after, y.command.sequence = x.command.sequence → y.came = false)
    {events : List Event}
    (hevents : messages events = respond handler .initial (before ++ x :: after)) :
    ∃ ack, (awaitAck x.command.sequence events).ackSeen = some ack ∧
      Reads x.command (answer node (before.map delivery) (delivery x)) ack := by
  obtain ⟨message, ack, hdec, hreads, hrespond⟩ :=
    respond_cons h (before.map delivery) x after
  refine ⟨ack, ?_, hreads⟩
  have hall := respond_append h (x :: after) before []
  rw [List.nil_append, hrespond, if_pos hcame] at hall
  -- before it nothing is seen, and after it nothing else
  have hseen : (awaitAck x.command.sequence events).toListener = ⟨some ack, true⟩ := by
    rw [awaitAck_toListener, hevents]
    change (respond handler (runCommands node []) (before ++ x :: after)).foldl _ _ = _
    rw [hall, List.foldl_append, foldl_respond_other h rfl before [] fun y hy hseq =>
      absurd hseq (hfresh y hy), List.foldl_append, List.foldl_cons, List.foldl_nil,
      Listener.onMessage, if_pos rfl, hdec]
    simp only [if_pos hreads.sequence]
    exact foldl_respond_other h rfl after _ hafter
  rw [hseen]

/-- A tool that gets no Ack has seen none. -/
lemma awaitAck_unanswered (h : Answers handler node) {sequence : UInt32} {xs : List Asked}
    (hnone : ∀ x ∈ xs, x.command.sequence = sequence → x.came = false) {events : List Event}
    (hevents : messages events = respond handler .initial xs) :
    (awaitAck sequence events).ackSeen = none := by
  have hseen : (awaitAck sequence events).toListener = ⟨none, true⟩ := by
    rw [awaitAck_toListener, hevents]
    exact foldl_respond_other h rfl xs [] hnone
  rw [hseen]

end Responses

/-! ### What the tool tells its user -/

/-- The statuses a node answers a built command with. -/
lemma HostCommand.Built.status (h : c.Built) (node : NodeIdentity) (st : CommandState) (bus : ℤ) :
    (handleCommand node st c.command bus).1.status = .ok ∨
      (handleCommand node st c.command bus).1.status = .invalidArgument ∨
      (handleCommand node st c.command bus).1.status = .failed := by
  obtain ⟨arm, hpayload, -⟩ := h.eq
  rw [handleCommand]
  split_ifs with hdup
  · exact .inl rfl
  · rw [HostCommand.command, hpayload]
    have hforward : ∀ {cmd} sc, sensorCmdOf cmd = some sc →
        (applyCommand node cmd bus default st.chanSensorCmd).1 = .ok ∨
          (applyCommand node cmd bus default st.chanSensorCmd).1 = .invalidArgument ∨
          (applyCommand node cmd bus default st.chanSensorCmd).1 = .failed := by
      intro cmd sc hsc
      rw [applyCommand_sensor node hsc, forwardToSensor]
      split_ifs <;> simp
    cases arm with
    | getDeviceInfo => exact .inl rfl
    | triggerMeasurement => exact hforward ⟨.trigger, 0⟩ rfl
    | setInterval intervalMs => exact hforward ⟨.setInterval, intervalMs⟩ rfl

/-- Only the device info is answered with one. -/
lemma HostCommand.Built.info_iff (h : c.Built) (node : NodeIdentity) (chan : SensorCmdChan)
    (bus : ℤ) {info : DeviceInfo} :
    (if (applyCommand node c.command bus default chan).2.1.hasInfo then some info
      else none).isSome = true ↔ c.payload = some .getDeviceInfo := by
  obtain ⟨arm, hpayload, -⟩ := h.eq
  have hforward : ∀ sc, sensorCmdOf c.command = some sc →
      (applyCommand node c.command bus default chan).2.1.hasInfo = false := fun sc hsc => by
    rw [applyCommand_sensor node hsc, forwardToSensor_hasInfo, CommandResult.hasInfo_default]
  cases arm with
  | getDeviceInfo =>
      rw [HostCommand.command, hpayload]
      exact iff_of_true rfl rfl
  | triggerMeasurement =>
      rw [hforward ⟨.trigger, 0⟩ (by rw [HostCommand.command, hpayload]; rfl), hpayload]
      simp
  | setInterval intervalMs =>
      rw [hforward ⟨.setInterval, intervalMs⟩ (by rw [HostCommand.command, hpayload]; rfl),
        hpayload]
      simp

/-- What an Ack tells the user of a command: with exit code 0 that it was carried out when it
was first delivered, and with 2 that it was not. -/
structure Tells (node : NodeIdentity) (before : List Asked) (x : Asked) (ack : DecodedAck) :
    Prop where
  exit_zero : exitCode (some ack) = 0 ↔ carriedOut node (before.map delivery) (delivery x)
  exit_two : exitCode (some ack) = 2 ↔ ¬ carriedOut node (before.map delivery) (delivery x)
  declared : ack.status = UInt32.ofNat AckStatus.ok.wire ∨
    ack.status = UInt32.ofNat AckStatus.invalidArgument.wire ∨
    ack.status = UInt32.ofNat AckStatus.failed.wire
  info : ack.deviceInfo.isSome = true ↔ x.command.payload = some .getDeviceInfo

/-- What a tool with a sequence of its own tells its user: what the Ack to the first delivery
says, if it is that which comes; with exit code 1 that none came, for which it waits until its
deadline.  And redeliveries right behind the first do nothing more. -/
structure ToldTruth (node : NodeIdentity) (before after : List Asked) (x : Asked)
    (events : List Event) : Prop where
  answered : x.came = true →
    (∀ y ∈ after, y.command.sequence = x.command.sequence → y.came = false) →
    (∃ ack, (awaitAck x.command.sequence events).ackSeen = some ack ∧ Tells node before x ack) ∧
      ∀ late, (awaitAck x.command.sequence (events ++ [.look late])).waiting = false
  unanswered : (∀ y ∈ x :: after, y.command.sequence = x.command.sequence → y.came = false) →
    exitCode (awaitAck x.command.sequence events).ackSeen = 1
  patient : (awaitAck x.command.sequence events).waiting = false →
    (awaitAck x.command.sequence events).ackSeen = none → .look true ∈ events
  once : ∀ again : List Asked, (∀ y ∈ again, y.command.sequence = x.command.sequence) →
    runCommands node ((before ++ x :: again).map delivery) =
      runCommands node (before.map delivery ++ [delivery x])

/-- What the answer to the first delivery of a command tells. -/
lemma tells_of_reads {node : NodeIdentity} {before : List Asked} {x : Asked} {ack : DecodedAck}
    (hbuilt : x.command.Built) (hrep : ¬ isRepeat (before.map delivery) (delivery x))
    (hreads : Reads x.command (answer node (before.map delivery) (delivery x)) ack) :
    Tells node before x ack := by
  have hstatus : ∀ st : AckStatus, ack.status = UInt32.ofNat st.wire ↔
      (answer node (before.map delivery) (delivery x)).status = st := by
    intro st
    rw [hreads.status]
    refine ⟨fun heq => AckStatus.wire_injective ?_, fun heq => by rw [heq]⟩
    rw [← AckStatus.toNat_wire, ← AckStatus.toNat_wire st, heq]
  have hdone : ack.status = UInt32.ofNat AckStatus.ok.wire ↔
      carriedOut node (before.map delivery) (delivery x) := by
    have hexec : (answer node (before.map delivery) (delivery x)).status = .ok ↔
        (delivery x).executes := answer_ok_iff_of_fresh hrep
    rw [carriedOut_iff, and_iff_right hrep, ← hexec, ← hstatus]
  refine ⟨?_, ?_, ?_, ?_⟩
  · rw [← hdone, exitCode]
    split_ifs with hok <;> simp [hok]
  · rw [← hdone, exitCode]
    split_ifs with hok <;> simp [hok]
  · simp only [hstatus]
    exact hbuilt.status node _ x.bus
  · rw [hreads.info, (handleCommand_fresh hrep).2.1]
    exact hbuilt.info_iff node _ x.bus

lemma toldTruth {handler : Handler} {node : NodeIdentity} (h : Answers handler node)
    {before after : List Asked} {x : Asked} (hbuilt : x.command.Built)
    (hfresh : ∀ y ∈ before, y.command.sequence ≠ x.command.sequence) {events : List Event}
    (hevents : messages events = respond handler .initial (before ++ x :: after)) :
    ToldTruth node before after x events := by
  have hrep : ¬ isRepeat (before.map delivery) (delivery x) := by
    intro hrep
    obtain ⟨d, hd, hseq⟩ := Option.map_eq_some_iff.mp hrep
    obtain ⟨y, hy, rfl⟩ := List.mem_map.mp (List.mem_of_getLast? hd)
    rw [delivery_sequence, delivery_sequence] at hseq
    exact hfresh y hy hseq
  refine ⟨fun hcame hafter => ?_, fun hnone => ?_, awaitAck_patient, fun again hagain => ?_⟩
  · obtain ⟨ack, hseen, hreads⟩ := awaitAck_respond h hfresh hcame hafter hevents
    refine ⟨⟨ack, hseen, tells_of_reads hbuilt hrep hreads⟩, fun late => ?_⟩
    simp [awaitAck_concat, Tool.next, hseen]
  · have hnothing : (awaitAck x.command.sequence events).ackSeen = none := by
      refine awaitAck_unanswered h (fun y hy hseq => ?_) hevents
      rcases List.mem_append.mp hy with hy | hy
      · exact absurd hseq (hfresh y hy)
      · exact hnone y hy hseq
    rw [hnothing]
    rfl
  · have hblock : ∀ d ∈ again.map delivery, d.sequence = (delivery x).sequence := by
      intro d hd
      obtain ⟨y, hy, rfl⟩ := List.mem_map.mp hd
      rw [delivery_sequence, delivery_sequence]
      exact hagain y hy
    rw [← runCommands_redelivered node _ _ _ hblock, List.map_append, List.map_cons,
      List.append_assoc]
    rfl

/-- **What the tool tells its user**, at either node, whatever other tools have asked for
before and ask for after, whichever Acks come, and however often a command is redelivered. -/
theorem host_told_truth (gateway peer : NodeIdentity) (gst : CommandState)
    (before after : List Asked) (x : Asked) (hbuilt : x.command.Built)
    (hfresh : ∀ y ∈ before, y.command.sequence ≠ x.command.sequence) (events : List Event) :
    (messages events = respond (ownHandler gateway) .initial (before ++ x :: after) →
      ToldTruth gateway before after x events) ∧
    (messages events = respond (peerHandler gateway peer gst) .initial (before ++ x :: after) →
      ToldTruth peer before after x events) :=
  ⟨toldTruth (answers_own gateway) hbuilt hfresh,
    toldTruth (answers_peer gateway peer gst) hbuilt hfresh⟩

/-- The gateway's names. -/
def gatewayIdentity : NodeIdentity := ⟨cstr "nucleo_h753zi", cstr "nucleo-1"⟩

/-- The names of the peer. -/
def peerIdentity : NodeIdentity := ⟨cstr "nucleo_f072rb", cstr "nucleo-2"⟩

/-- `command.py interval 500`, after somebody else's `trigger`: the two Acks come one after
the other, between two looks. -/
theorem host_told_truth_tooShort :
    buildCommand (.interval 500) 7 = some ⟨1, 7, some (.setInterval 500)⟩ ∧
    ∃ ack, (awaitAck 7 (.look false :: (respond (ownHandler gatewayIdentity) .initial
        [⟨⟨1, 6, some .triggerMeasurement⟩, 0, true⟩,
          ⟨⟨1, 7, some (.setInterval 500)⟩, 0, true⟩]).map .message)).ackSeen = some ack ∧
      Tells gatewayIdentity [⟨⟨1, 6, some .triggerMeasurement⟩, 0, true⟩]
        ⟨⟨1, 7, some (.setInterval 500)⟩, 0, true⟩ ack := by
  have hbuild : buildCommand (.interval 500) 7 = some ⟨1, 7, some (.setInterval 500)⟩ := by decide
  have htold := (host_told_truth gatewayIdentity peerIdentity .initial
    [⟨⟨1, 6, some .triggerMeasurement⟩, 0, true⟩] [] ⟨⟨1, 7, some (.setInterval 500)⟩, 0, true⟩
    ⟨_, _, hbuild⟩ (by simp) (.look false :: (respond (ownHandler gatewayIdentity) .initial
        [⟨⟨1, 6, some .triggerMeasurement⟩, 0, true⟩,
          ⟨⟨1, 7, some (.setInterval 500)⟩, 0, true⟩]).map .message)).1 (by
      simp [messages, List.filterMap_map])
  exact ⟨hbuild, (htold.answered rfl (by simp)).1⟩

end ClimateNode.Host
