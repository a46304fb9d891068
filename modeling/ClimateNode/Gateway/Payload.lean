import ClimateNode.Gateway.Passes
import ClimateNode.Link.IsoTp

/-!
`handle_incoming_publish` of `gateway/src/main.cpp` call by call: the reads that
take the payload off the connection, the PUBACK, and the one thing that becomes of
the message.

* `Payload.drain`: the loop that reads on into a buffer of its own.
* `readPayload_eq`: the payload leaves the connection in the cuts of a receiver,
  and its beginning is kept.
* `sessions_handleIncomingPublish`: the calls are what a pass of `main` makes of
  the message.
* `handleIncomingPublish_outcome`: **every message is read in full and answered
  once**.
-/

namespace ClimateNode.Gateway.Payload

open Wire

/-! ### Reading -/

/-- The buffers of `handle_incoming_publish`. -/
inductive Buffer where
  | payload | discard
  deriving DecidableEq, Repr

/-- `sizeof`. -/
def Buffer.size : Buffer → UInt32
  | .payload => 128
  | .discard => 64

/-- `MIN`. -/
def MIN (a b : UInt32) : UInt32 := if a < b then a else b

/-- A connection with a payload to be read: the bytes that are still on it, what
the buffers hold, and what each read stored, oldest first. -/
structure Reader where
  stream : Bytes
  contents : Buffer → Bytes
  reads : List (Buffer × Bytes)

section Read

variable (rc : ℕ → ℤ) (r : Reader)

/-- `mqtt_readall_publish_payload`, and whether it returned no error; `rc` are the
results of the successive calls.  It blocks until the bytes are there. -/
def Reader.readall (b : Buffer) (n : UInt32) : Bool × Reader :=
  if rc r.reads.length < 0 ∨ r.stream.length < n.toNat then (false, r)
  else
    (true,
      { stream := r.stream.drop n.toNat
        contents := Function.update r.contents b (r.stream.take n.toNat)
        reads := r.reads ++ [(b, r.stream.take n.toNat)] })

lemma MIN_toNat (a b : UInt32) : (MIN a b).toNat = min a.toNat b.toNat := by
  rw [MIN]
  split_ifs with h
  · rw [UInt32.lt_iff_toNat_lt] at h
    omega
  · rw [UInt32.lt_iff_toNat_lt] at h
    omega

/-- A chunk leaves the rest. -/
lemma sub_MIN_toNat (a b : UInt32) : (a - MIN a b).toNat = a.toNat - min a.toNat b.toNat := by
  have hmin := MIN_toNat a b
  rw [UInt32.toNat_sub_of_le, hmin]
  rw [UInt32.le_iff_toNat_le]
  omega

/-- The loop that drains what did not fit. -/
def drain (rc : ℕ → ℤ) (r : Reader) (remaining : UInt32) : Bool × Reader :=
  if remaining = 0 then (true, r)
  else
    let chunk := MIN remaining Buffer.discard.size
    match r.readall rc .discard chunk with
    | (false, r) => (false, r)
    | (true, r) => drain rc r (remaining - chunk)
termination_by remaining.toNat
decreasing_by
  -- a chunk is not empty
  have hpos : remaining.toNat ≠ 0 := fun h0 => by
    simp_all [← UInt32.toNat_inj]
  have hsub := sub_MIN_toNat remaining Buffer.discard.size
  have hsize : Buffer.discard.size.toNat = 64 := rfl
  omega

/-- The reads of `handle_incoming_publish`: how many bytes were kept and whether
there were more, unless a read failed. -/
def readPayload (len : UInt32) : Option (UInt32 × Bool) × Reader :=
  let kept := MIN len Buffer.payload.size
  match r.readall rc .payload kept with
  | (false, r) => (none, r)
  | (true, r) =>
      let remaining := len - kept
      let oversized := decide (0 < remaining)
      match drain rc r remaining with
      | (false, r) => (none, r)
      | (true, r) => (some (kept, oversized), r)

end Read

section Spec

variable {rc : ℕ → ℤ} {r : Reader} {message dropped rest : Bytes}

/-- A read takes what it asks for off the front of the connection. -/
lemma readall_ok (hrc : ∀ k, 0 ≤ rc k) (b : Buffer) {n : UInt32} (hn : n.toNat = dropped.length)
    (hstream : r.stream = dropped ++ rest) :
    r.readall rc b n =
      (true, ⟨rest, Function.update r.contents b dropped, r.reads ++ [(b, dropped)]⟩) := by
  rw [Reader.readall, if_neg, hstream, hn, List.take_left', List.drop_left'] <;> try rfl
  rw [hstream, List.length_append]
  have := hrc r.reads.length
  omega

/-- **The drain** takes what it is to take, in the cuts of a receiver with its
buffer, and does not touch what was kept. -/
theorem drain_eq (hrc : ∀ k, 0 ≤ rc k) (remaining : UInt32)
    (hlen : remaining.toNat = dropped.length) (hstream : r.stream = dropped ++ rest) :
    ∃ r', drain rc r remaining = (true, r') ∧ r'.stream = rest ∧
      r'.contents .payload = r.contents .payload ∧
      r'.reads = r.reads ++ (IsoTp.recvCalls 64 dropped).map (Buffer.discard, ·) := by
  induction hn : remaining.toNat using Nat.strong_induction_on generalizing r remaining dropped with
  | _ n ih =>
      rw [drain]
      split_ifs with h0
      · obtain rfl : dropped = [] := by
          subst h0
          exact List.eq_nil_of_length_eq_zero hlen.symm
        exact ⟨r, rfl, hstream, rfl, by simp⟩
      · have hne : dropped ≠ [] := by
          rintro rfl
          exact h0 (UInt32.toNat_inj.mp hlen)
        have hpos := List.length_pos_of_ne_nil hne
        have hsize : Buffer.discard.size.toNat = 64 := rfl
        have hchunk : (MIN remaining Buffer.discard.size).toNat = (dropped.take 64).length := by
          rw [MIN_toNat, hsize, hlen, List.length_take, Nat.min_comm]
        have hsub : (remaining - MIN remaining Buffer.discard.size).toNat =
            (dropped.drop 64).length := by
          rw [sub_MIN_toNat, hsize, hlen, List.length_drop]
          omega
        have hcut : r.stream = dropped.take 64 ++ (dropped.drop 64 ++ rest) := by
          rw [hstream, ← List.append_assoc, List.take_append_drop]
        have hless : (dropped.drop 64).length < n := by
          rw [List.length_drop]
          omega
        simp only [readall_ok hrc .discard hchunk hcut]
        obtain ⟨r', hdrain, hrest, hkept, hreads⟩ := ih _ hless
          (r := ⟨dropped.drop 64 ++ rest, Function.update r.contents .discard (dropped.take 64),
            r.reads ++ [(.discard, dropped.take 64)]⟩) _ hsub rfl hsub
        refine ⟨r', hdrain, hrest, ?_, ?_⟩
        · simpa using hkept
        · rw [hreads, IsoTp.recvCalls_cons (by omega) hne]
          simp

/-- **The reads**: the whole payload leaves the connection, its first 128 bytes
into the buffer they are kept in. -/
theorem readPayload_eq (hrc : ∀ k, 0 ≤ rc k) {len : UInt32} (hlen : len.toNat = message.length)
    (hstream : r.stream = message ++ rest) :
    ∃ r', readPayload rc r len = (some (MIN len 128, decide (128 < message.length)), r') ∧
      r'.stream = rest ∧ r'.contents .payload = message.take 128 ∧
      r'.reads = r.reads ++ (Buffer.payload, message.take 128) ::
        (IsoTp.recvCalls 64 (message.drop 128)).map (Buffer.discard, ·) := by
  have hsize : Buffer.payload.size.toNat = 128 := rfl
  have hkept : (MIN len Buffer.payload.size).toNat = (message.take 128).length := by
    rw [MIN_toNat, hsize, hlen, List.length_take, Nat.min_comm]
  have hsub : (len - MIN len Buffer.payload.size).toNat = (message.drop 128).length := by
    rw [sub_MIN_toNat, hsize, hlen, List.length_drop]
    omega
  have hcut : r.stream = message.take 128 ++ (message.drop 128 ++ rest) := by
    rw [hstream, ← List.append_assoc, List.take_append_drop]
  have hover : decide (0 < len - MIN len Buffer.payload.size) = decide (128 < message.length) := by
    rw [decide_eq_decide, UInt32.lt_iff_toNat_lt, hsub, List.length_drop]
    exact Nat.sub_pos_iff_lt
  obtain ⟨r', hdrain, hrest, hpayload, hreads⟩ :=
    drain_eq (r := ⟨message.drop 128 ++ rest, Function.update r.contents .payload (message.take 128),
      r.reads ++ [(.payload, message.take 128)]⟩) hrc _ hsub rfl
  refine ⟨r', ?_, hrest, by simpa using hpayload, by simpa using hreads⟩
  simp only [readPayload, readall_ok hrc .payload hkept hcut, hdrain, hover]
  rfl

end Spec

/-! ### Calls -/

/-- `struct mqtt_publish_param` as the library fills it for a PUBLISH that came
in: the length of the payload, not its bytes. -/
structure Header where
  topic : String
  qos : Qos
  messageId : UInt16
  len : UInt32
  deriving DecidableEq, Repr

/-- What `handle_incoming_publish` calls: `mqtt_publish_qos1_ack`, `zbus_chan_pub`
on `chan_relay_command` when it succeeds, `handle_command`, and `publish` for an
Ack. -/
inductive Call where
  | puback (messageId : UInt16)
  | relayed (down : RelayDown)
  | handleCommand (cmd : Command)
  | ack (s : SessionId) (topic : Topic) (seq : UInt32) (status : AckStatus) (payload : Bytes)
  deriving DecidableEq, Repr

/-- The node a topic is for. -/
def addressee (topic : String) : SessionId := if topic = kPeerTopicCommand then .peer else .own

section Calls

variable (pb : Nanopb) (node : NodeIdentity) (st : CommandState) (s : SessionId)

/-- `publish_ack`. -/
def publishAck (topic : Topic) (seq : UInt32) (status : AckStatus) (detail : Option Bytes)
    (info : Option DeviceInfo) : List Call :=
  match ClimateNode.publishAck pb seq status detail info with
  | none => []
  | some payload => [.ack s topic seq status payload]

/-- `forward_to_peer`. -/
def forwardToPeer (payload : Bytes) (sequence : UInt32) (bus : ℤ) : List Call :=
  match ClimateNode.forwardToPeer payload sequence bus with
  | .ok down => [.relayed down]
  | .error detail =>
      publishAck pb .peer (.ack .peer) sequence .failed (some (cstr detail)) none

/-- What becomes of the bytes once they are read. -/
def dispatch (topic : String) (payload : Bytes) (oversized : Bool) (bus : ℤ) :
    List Call × CommandState :=
  let forPeer := decide (topic = kPeerTopicCommand)
  let decoded := decodeCommand pb payload oversized
  if decoded.1 = false then
    (publishAck pb s (.ack (if forPeer then .peer else s)) 0 .malformed
      (some (cstr (if oversized then "payload too large" else "decode failed"))) none, st)
  else if forPeer then (forwardToPeer pb payload decoded.2.sequence bus, st)
  else
    let handled := handleCommand node st decoded.2 bus
    (.handleCommand decoded.2 ::
      publishAck pb s (.ack s) decoded.2.sequence handled.1.status
        (if handled.1.detail = [] then none else some handled.1.detail)
        (if handled.1.hasInfo then some handled.1.info else none), handled.2)

/-- `handle_incoming_publish` on session `s`: its calls, the state it leaves the
commands in, and the connection. -/
def handleIncomingPublish (pub : Header) (rc : ℕ → ℤ) (bus : ℤ) (r : Reader) :
    List Call × CommandState × Reader :=
  match readPayload rc r pub.len with
  | (none, r) => ([], st, r)
  | (some (kept, oversized), r) =>
      let puback := if pub.qos = .atLeastOnce then [.puback pub.messageId] else []
      let dispatched := dispatch pb node st s pub.topic ((r.contents .payload).take kept.toNat)
        oversized bus
      (puback ++ dispatched.1, dispatched.2, r)

end Calls

/-! ### What becomes of a message -/

section Outcome

variable {pb : Nanopb} {node : NodeIdentity} {st : CommandState} {s : SessionId} {pub : Header}
  {rc : ℕ → ℤ} {bus : ℤ} {r : Reader} {message rest : Bytes}

/-- The PUBACK of a message. -/
def pubacks (pub : Header) : List Call :=
  if pub.qos = .atLeastOnce then [.puback pub.messageId] else []

/-- With its payload read a message is acknowledged, then dispatched. -/
lemma handleIncomingPublish_read (hrc : ∀ k, 0 ≤ rc k) (hlen : pub.len.toNat = message.length)
    (hstream : r.stream = message ++ rest) :
    ∃ r', handleIncomingPublish pb node st s pub rc bus r =
        (pubacks pub ++ (dispatch pb node st s pub.topic (message.take 128)
          (decide (128 < message.length)) bus).1,
        (dispatch pb node st s pub.topic (message.take 128) (decide (128 < message.length)) bus).2,
        r') ∧
      r'.stream = rest ∧ r'.contents .payload = message.take 128 ∧
      r'.reads = r.reads ++ (Buffer.payload, message.take 128) ::
        (IsoTp.recvCalls 64 (message.drop 128)).map (Buffer.discard, ·) := by
  obtain ⟨r', hread, hrest, hpayload, hreads⟩ := readPayload_eq hrc hlen hstream
  have hkept : (r'.contents .payload).take (MIN pub.len 128).toNat = message.take 128 := by
    rw [hpayload, MIN_toNat, hlen]
    exact List.take_of_length_le (by rw [List.length_take]; exact (Nat.min_comm _ _).le)
  refine ⟨r', ?_, hrest, hpayload, hreads⟩
  simp only [handleIncomingPublish, hread, hkept]
  rfl

/-- What is too large, or does not decode, is answered as such. -/
lemma dispatch_malformed (hpb : AcksEncode pb) {oversized : Bool} {payload : Bytes}
    (h : (decodeCommand pb payload oversized).1 = false)
    (htopic : pub.topic = kPeerTopicCommand ∨ s = .own) :
    dispatch pb node st s pub.topic payload oversized bus =
      ([.ack s (.ack (addressee pub.topic)) 0 .malformed
        (encodeAck pb 0 .malformed
          (some (cstr (if oversized then "payload too large" else "decode failed"))) none
          nodeAckSize)], st) := by
  have hack : ClimateNode.publishAck pb 0 .malformed
      (some (cstr (if oversized then "payload too large" else "decode failed"))) none = some _ :=
    hpb.publishAck_eq _ _ _ (by simp)
  have haddr : (if decide (pub.topic = kPeerTopicCommand) = true then SessionId.peer else s) =
      addressee pub.topic := by
    rw [addressee]
    rcases htopic with htopic | rfl
    · simp [htopic]
    · simp
  rw [dispatch, if_pos h, haddr]
  simp only [publishAck, hack]

/-- A command for the peer is queued for the relay, or answered. -/
lemma dispatch_peer (hpb : AcksEncode pb) {payload : Bytes}
    (h : (decodeCommand pb payload false).1 = true) (htopic : pub.topic = kPeerTopicCommand) :
    (dispatch pb node st s pub.topic payload false bus).2 = st ∧
      if payload.length ≤ kRelayDownMax ∧ bus = 0 then
        ∃ down : RelayDown, (dispatch pb node st s pub.topic payload false bus).1 =
            [.relayed down] ∧
          down.nodeId = kPeerNodeId ∧ down.payload = payload ∧
          down.sequence = (decodeCommand pb payload false).2.sequence
      else
        (dispatch pb node st s pub.topic payload false bus).1 =
          [.ack .peer (.ack .peer) (decodeCommand pb payload false).2.sequence .failed
            (encodeAck pb (decodeCommand pb payload false).2.sequence .failed
              (some (cstr (if payload.length ≤ kRelayDownMax then "relay busy"
                else "command too large to relay"))) none nodeAckSize)] := by
  have hack (detail : String) :
      ClimateNode.publishAck pb (decodeCommand pb payload false).2.sequence .failed
        (some (cstr detail)) none = some _ :=
    hpb.publishAck_eq _ _ _ (by simp)
  have hdispatch : dispatch pb node st s pub.topic payload false bus =
      (forwardToPeer pb payload (decodeCommand pb payload false).2.sequence bus, st) := by
    simp [dispatch, h, htopic]
  simp only [hdispatch, forwardToPeer, ClimateNode.forwardToPeer]
  refine ⟨trivial, ?_⟩
  by_cases hfits : payload.length ≤ kRelayDownMax
  · by_cases hbus : bus = 0
    · rw [dif_pos hfits, if_pos hbus, if_pos ⟨hfits, hbus⟩]
      exact ⟨_, rfl, rfl, rfl, rfl⟩
    · rw [dif_pos hfits, if_neg hbus, if_neg fun hboth => hbus hboth.2, if_pos hfits]
      simp only [publishAck, hack]
  · rw [dif_neg hfits, if_neg fun hboth => hfits hboth.1, if_neg hfits]
    simp only [publishAck, hack]

/-- A command for this node is handled, and answered with its result. -/
lemma dispatch_own (hpb : AcksEncode pb) {payload : Bytes}
    (h : (decodeCommand pb payload false).1 = true) (htopic : pub.topic ≠ kPeerTopicCommand) :
    dispatch pb node st s pub.topic payload false bus =
      let cmd := (decodeCommand pb payload false).2
      let handled := handleCommand node st cmd bus
      ([.handleCommand cmd,
        .ack s (.ack s) cmd.sequence handled.1.status
          (encodeAck pb cmd.sequence handled.1.status
            (if handled.1.detail = [] then none else some handled.1.detail)
            (if handled.1.hasInfo then some handled.1.info else none) nodeAckSize)],
        handled.2) := by
  let result := (handleCommand node st (decodeCommand pb payload false).2 bus).1
  have hack : ClimateNode.publishAck pb (decodeCommand pb payload false).2.sequence result.status
      (if result.detail = [] then none else some result.detail)
      (if result.hasInfo then some result.info else none) = some _ :=
    hpb.publishAck_eq _ _ _ (resultInfo_terminated _)
  simp only [dispatch, h, htopic, decide_false, Bool.false_eq_true, Bool.true_eq_false, if_false,
    publishAck, result, hack]

end Outcome

/-! ### The calls in a pass -/

/-- What a call does to the sessions; `s` is the one the message came in on, `rc`
what `mqtt_publish` answers. -/
def perform (s : SessionId) (rc : ℤ) (ss : Sessions) : Call → Sessions
  | .puback messageId => ss.on s fun t => t.emit (.puback messageId)
  | .ack i topic _ _ payload => ss.on i fun t => t.publish topic payload .atLeastOnce false rc
  | .relayed _ | .handleCommand _ => ss

section Passes

variable {pb : Nanopb} {node : NodeIdentity} {st : CommandState} {ss : Sessions} {s : SessionId}
  {a : Arrival} {rc : ℕ → ℤ} {r : Reader} {rest : Bytes}

/-- An Ack, on the sessions. -/
lemma publishAck_perform (i : SessionId) (topic : Topic) (seq : UInt32) (status : AckStatus)
    (detail : Option Bytes) (info : Option DeviceInfo) (rcPublish : ℤ) :
    (publishAck pb i topic seq status detail info).foldl (perform s rcPublish) ss =
      match ClimateNode.publishAck pb seq status detail info with
      | none => ss
      | some payload => ss.on i fun t => t.publish topic payload .atLeastOnce false rcPublish := by
  rw [publishAck]
  cases ClimateNode.publishAck pb seq status detail info <;> rfl

/-- The dispatch, on the sessions. -/
lemma dispatch_perform (bus rcPublish : ℤ) :
    ((dispatch pb node st s a.topic (a.payload.take 128) (decide (128 < a.payload.length))
        bus).1.foldl (perform s rcPublish) ss,
      (dispatch pb node st s a.topic (a.payload.take 128) (decide (128 < a.payload.length))
        bus).2) =
    let forPeer := decide (a.topic = kPeerTopicCommand)
    let handled := ClimateNode.handleIncomingPublish pb node st forPeer a.payload bus
    match handled.1 with
    | .ack (some payload) =>
        (ss.on (if (decodePublish pb a.payload).1 && forPeer then .peer else s) fun t =>
          t.publish (.ack (if forPeer then .peer else s)) payload .atLeastOnce false rcPublish,
          handled.2)
    | _ => (ss, handled.2) := by
  have hdecode : decodePublish pb a.payload =
    decodeCommand pb (a.payload.take 128) (decide (128 < a.payload.length)) := rfl
  cases hdec : (decodePublish pb a.payload).1 with
  | false =>
      simp only [dispatch, ← hdecode, hdec, if_true, handleIncomingPublish_malformed _ hdec,
        publishAck_perform, incomingPayloadSize]
      by_cases hbig : 128 < a.payload.length <;>
        simp only [hbig, decide_true, decide_false, Bool.false_eq_true, if_true, if_false] <;>
        split <;> simp_all
  | true =>
      by_cases hpeer : a.topic = kPeerTopicCommand
      · simp only [dispatch, ← hdecode, hdec, hpeer, decide_true, handleIncomingPublish_forPeer hdec,
          Bool.true_eq_false, if_false, if_true, Bool.and_self, forwardToPeer, incomingPayloadSize]
        cases ClimateNode.forwardToPeer (a.payload.take 128) (decodePublish pb a.payload).2.sequence
          bus with
        | ok down => rfl
        | error detail =>
            simp only [publishAck_perform]
            cases ClimateNode.publishAck pb (decodePublish pb a.payload).2.sequence .failed
              (some (cstr detail)) none <;> rfl
      · simp only [dispatch, ← hdecode, hdec, hpeer, decide_false, handleIncomingPublish_own hdec,
          Bool.true_eq_false, Bool.false_eq_true, if_false, Bool.and_false, List.foldl_cons,
          publishAck_perform, perform]
        split <;> simp_all

/-- **The calls are the pass**: with its reads answered, a message does to the
sessions and to the commands what its calls do one after the other. -/
theorem sessions_handleIncomingPublish (answers : ArrivalAnswers) (hread : answers.read = true)
    (hrc : ∀ k, 0 ≤ rc k) (hlen : a.payload.length < 2 ^ 32)
    (hstream : r.stream = a.payload ++ rest) :
    let handled := handleIncomingPublish pb node st s
      ⟨a.topic, a.qos, a.messageId, UInt32.ofNat a.payload.length⟩ rc answers.bus r
    Sessions.handleIncomingPublish pb node ss st s a answers =
      (handled.1.foldl (perform s answers.publish) ss, handled.2.1) := by
  have hlen' : (UInt32.ofNat a.payload.length).toNat = a.payload.length :=
    UInt32.toNat_ofNat_of_lt' hlen
  obtain ⟨r', heq, -⟩ : ∃ r', handleIncomingPublish pb node st s
      ⟨a.topic, a.qos, a.messageId, UInt32.ofNat a.payload.length⟩ rc answers.bus r = (_, _, r') ∧ _ :=
    handleIncomingPublish_read hrc hlen' hstream
  have hpuback : (pubacks ⟨a.topic, a.qos, a.messageId, UInt32.ofNat a.payload.length⟩).foldl
      (perform s answers.publish) ss = ss.puback s a := by
    simp only [pubacks, Sessions.puback]
    split_ifs <;> rfl
  simp only [heq, List.foldl_append, hpuback]
  rw [Sessions.handleIncomingPublish, if_pos hread]
  exact (dispatch_perform answers.bus answers.publish).symm

end Passes

/-! ### One message -/

section Message

variable {pb : Nanopb} {node : NodeIdentity} {st : CommandState} {s : SessionId} {pub : Header}
  {rc : ℕ → ℤ} {bus : ℤ} {r : Reader} {message rest : Bytes}

/-- **One message**: whatever its length, its contents, its topic and its QoS, a
message whose payload reads succeed leaves the connection at the byte after it,
by reads no larger than their buffers that keep its first 128 bytes; it gets a
PUBACK exactly if its QoS is 1; and it is answered with one MALFORMED Ack, or
becomes one message for the relay or one FAILED Ack, or is handled once and
answered once with its result.  Each Ack is what `encode_ack` makes of it, only a command
for the own node reaches the state of the commands, and the calls are what a pass of
`main` makes of the message. -/
theorem handleIncomingPublish_outcome (hpb : AcksEncode pb) (hrc : ∀ k, 0 ≤ rc k)
    (hlen : pub.len.toNat = message.length) (hstream : r.stream = message ++ rest)
    (hnew : r.reads = []) (htopic : pub.topic = kPeerTopicCommand ∨
      pub.topic = kTopicCommand ∧ s = .own) :
    ∃ calls st' r', handleIncomingPublish pb node st s pub rc bus r =
        (pubacks pub ++ calls, st', r') ∧
      r'.stream = rest ∧ r'.reads.flatMap Prod.snd = message ∧
      (∀ read ∈ r'.reads, read.2.length ≤ read.1.size.toNat) ∧
      r'.contents .payload = message.take 128 ∧
      (∀ (ss : Sessions) (rcPublish : ℤ), Sessions.handleIncomingPublish pb node ss st s
          ⟨pub.topic, pub.qos, pub.messageId, message⟩ ⟨true, bus, rcPublish⟩ =
        ((pubacks pub ++ calls).foldl (perform s rcPublish) ss, st')) ∧
      let cmd := (decodeCommand pb message false).2
      if 128 < message.length ∨ (decodeCommand pb message false).1 = false then
        st' = st ∧ calls = [.ack s (.ack (addressee pub.topic)) 0 .malformed
          (encodeAck pb 0 .malformed (some (cstr (if 128 < message.length then
            "payload too large" else "decode failed"))) none nodeAckSize)]
      else if pub.topic = kPeerTopicCommand then
        st' = st ∧
          if message.length ≤ kRelayDownMax ∧ bus = 0 then
            ∃ down : RelayDown, calls = [.relayed down] ∧ down.nodeId = kPeerNodeId ∧
              down.payload = message ∧ down.sequence = cmd.sequence
          else
            calls = [.ack .peer (.ack .peer) cmd.sequence .failed
              (encodeAck pb cmd.sequence .failed (some (cstr (if message.length ≤ kRelayDownMax
                then "relay busy" else "command too large to relay"))) none nodeAckSize)]
      else
        let handled := handleCommand node st cmd bus
        st' = handled.2 ∧ calls = [.handleCommand cmd,
          .ack .own (.ack .own) cmd.sequence handled.1.status
            (encodeAck pb cmd.sequence handled.1.status
              (if handled.1.detail = [] then none else some handled.1.detail)
              (if handled.1.hasInfo then some handled.1.info else none) nodeAckSize)] := by
  obtain ⟨r', heq, hrest, hpayload, hreads⟩ : ∃ r', _ ∧ _ :=
    handleIncomingPublish_read hrc hlen hstream
  rw [hnew, List.nil_append] at hreads
  refine ⟨_, _, r', heq, hrest, ?_, ?_, hpayload, ?_, ?_⟩
  · -- the bytes read: the first 128 in one read, the rest in reads of 64
    have hcuts : (IsoTp.recvCalls 64 (message.drop 128)).flatten = message.drop 128 :=
      IsoTp.recvCalls_flatten (by omega) _
    rw [hreads, List.flatMap_cons, List.flatMap_map]
    simp [hcuts]
  · intro read hmem
    rw [hreads] at hmem
    rcases List.mem_cons.mp hmem with rfl | hmem
    · exact List.length_take_le _ _
    · obtain ⟨cut, hcut, rfl⟩ := List.mem_map.mp hmem
      exact IsoTp.length_le_of_mem_recvCalls hcut
  · -- the pass of `main`
    intro ss rcPublish
    have hsame : UInt32.ofNat message.length = pub.len := by
      rw [← hlen, UInt32.ofNat_toNat]
    have hpass : Sessions.handleIncomingPublish pb node ss st s
        ⟨pub.topic, pub.qos, pub.messageId, message⟩ ⟨true, bus, rcPublish⟩ = _ :=
      sessions_handleIncomingPublish _ rfl hrc (hlen ▸ pub.len.toNat_lt) hstream
    simpa only [hsame, heq] using hpass
  · -- the dispatch, in the order of the source: too long, undecodable, for the peer, own
    by_cases hlong : 128 < message.length
    · dsimp only
      rw [if_pos (.inl hlong), decide_eq_true hlong, if_pos hlong,
        dispatch_malformed hpb rfl (htopic.imp_right And.right)]
      exact ⟨rfl, rfl⟩
    · have hwhole : message.take 128 = message := List.take_of_length_le (not_lt.mp hlong)
      dsimp only
      rw [decide_eq_false hlong, hwhole]
      cases hdec : (decodeCommand pb message false).1 with
      | false =>
          rw [if_pos (.inr rfl), if_neg hlong,
            dispatch_malformed hpb hdec (htopic.imp_right And.right)]
          exact ⟨rfl, rfl⟩
      | true =>
          rw [if_neg (by simp [hlong])]
          by_cases hpeer : pub.topic = kPeerTopicCommand
          · rw [if_pos hpeer]
            exact dispatch_peer hpb hdec hpeer
          · obtain ⟨-, rfl⟩ := htopic.resolve_left hpeer
            rw [if_neg hpeer, dispatch_own hpb hdec hpeer]
            exact ⟨rfl, rfl⟩

/-- A command for the peer that is too long. -/
def longMessage : Bytes := List.replicate 130 7

/-- A connection with `longMessage`, and another packet right behind. -/
def longReader : Reader := ⟨longMessage ++ [0x30], fun _ => [], []⟩

theorem longMessage_outcome : ∃ st' r',
    handleIncomingPublish Nanopb.proto3 ⟨cstr "nucleo_h753zi", cstr "nucleo-1"⟩
        CommandState.initial .peer ⟨kPeerTopicCommand, .atLeastOnce, 9, 130⟩ (fun _ => 0) 0
        longReader =
      ([.puback 9, .ack .peer (.ack .peer) 0 .malformed
        (encodeAck Nanopb.proto3 0 .malformed (some (cstr "payload too large")) none nodeAckSize)],
        st', r') ∧
    r'.stream = [0x30] ∧ r'.contents .payload = longMessage.take 128 := by
  have hlen : longMessage.length = 130 := List.length_replicate
  have hlong : 128 < longMessage.length := by omega
  obtain ⟨calls, st', r', heq, houtcome⟩ : ∃ calls st' r',
      handleIncomingPublish Nanopb.proto3 ⟨cstr "nucleo_h753zi", cstr "nucleo-1"⟩
        CommandState.initial .peer ⟨kPeerTopicCommand, .atLeastOnce, 9, 130⟩ (fun _ => 0) 0
        longReader = (_ ++ calls, st', r') ∧ _ :=
    handleIncomingPublish_outcome acksEncode_proto3 (fun _ => le_rfl) hlen.symm rfl rfl (.inl rfl)
  dsimp only at houtcome
  rw [if_pos (.inl hlong), if_pos hlong] at houtcome
  obtain ⟨hrest, -, -, hkept, -, -, rfl⟩ := houtcome
  exact ⟨st', r', heq, hrest, hkept⟩

end Message

end ClimateNode.Gateway.Payload
