import ClimateNode.Automata.Product
import ClimateNode.Automata.Replay
import ClimateNode.Host.Command
import ClimateNode.Link.Acks

/-!
A command for the peer and its Ack, whatever is lost on the way: the messages on
`node/2/command`, `handle_incoming_publish` and `forward_to_peer` of the gateway, the queue
of `relay_cmd_sub`, `tx_thread`, the link, `handle_incoming` of the peer, and the way up of
`Link.Uplink`.  A transfer may be lost or may be reported lost and arrive, and the TX thread
may give up on an Ack that still comes.

* `trip`: the way down, and what the peer makes of it.
* `machine`: the way down and the way up.
* `ordered_inductive`: what the peer handles is what was delivered, in order.
* `commands_in_order`: **the trip**: each Ack on `node/2/ack` is an answer of the peer to a
  command it handled, or says that there is none.
* `exit_zero_applied`: **what exit code 0 is worth** to the user of the command tool.
-/

namespace ClimateNode.CommandTrip

open Automata Wire Nanopb

/-! ### The way down -/

/-- Where `tx_thread` stands: waiting for a command, with one that `isotp_send` failed to
send, or with one whose Ack it waits for. -/
inductive TxPc where
  | idle
  | unsent (cmd : RelayDown)
  | waiting (cmd : RelayDown)
  deriving DecidableEq, Repr

/-- The messages handled from `node/2/command`, the queue of `relay_cmd_sub`, the calls of
`isotp_recv` that transfers lead to at the peer, all oldest first, and the peer's commands
state with the commands it has handled. -/
structure State where
  delivered : List Bytes
  queue : List RelayDown
  tx : TxPc
  calls : List Bytes
  commands : CommandState
  handled : List Delivery

/-- The atomic actions: a message is relayed, or answered by the gateway itself, whatever
the state `st` of its own commands, and `ok` says whether that answer gets out; a command is
sent, and may arrive and may be reported sent; the Ack is there in time, or not; the peer
handles what it receives, and its Ack may get through; and those of the way up. -/
inductive Label where
  | relay (st : CommandState) (message : Bytes) (bus : ℤ) (down : RelayDown)
  | refuse (st : CommandState) (message : Bytes) (bus : ℤ) (payload : Option Bytes) (ok : Bool)
  | send (cmd : RelayDown) (arrives sent : Bool)
  | answered (cmd : RelayDown)
  | giveUp (cmd : RelayDown) (sent : Bool)
  | handle (buf : Bytes) (bus : ℤ) (payload : Option Bytes) (through : Bool)
  | uplink (l : Uplink.Label)

/-- The Command the peer makes of a buffer. -/
def asked (buf : Bytes) : Option Command :=
  match Peer.decodeIncoming proto3 buf with
  | some (true, cmd) => some cmd
  | _ => none

/-- The Command in a message on `node/2/command`. -/
def commandIn (message : Bytes) : Option Command :=
  if (decodePublish proto3 message).1 then some (decodePublish proto3 message).2 else none

variable (gateway peer : NodeIdentity)

/-- Which labels may fire. -/
def enabled (s : State) : Label → Prop
  | .relay st message bus down =>
      (handleIncomingPublish proto3 gateway st true message bus).1 = .relayed down
  | .refuse st message bus payload _ =>
      (handleIncomingPublish proto3 gateway st true message bus).1 = .ack payload
  | .send cmd _ _ => s.tx = .idle ∧ s.queue.head? = some cmd
  | .answered cmd => s.tx = .waiting cmd
  | .giveUp cmd sent => s.tx = if sent then .waiting cmd else .unsent cmd
  | .handle buf bus payload _ => s.calls.head? = some buf ∧
      (Peer.handleIncoming proto3 peer s.commands buf bus).1 = payload
  | .uplink _ => True

instance (s : State) (l : Label) : Decidable (enabled gateway peer s l) := by
  cases l <;> dsimp only [enabled] <;> infer_instance

/-- What each label does. -/
def next (s : State) : Label → State
  | .relay _ message _ down =>
      { s with delivered := s.delivered ++ [message], queue := s.queue ++ [down] }
  | .refuse _ message _ _ _ => { s with delivered := s.delivered ++ [message] }
  | .send cmd arrives sent =>
      { s with queue := s.queue.tail
               tx := if sent then .waiting cmd else .unsent cmd
               calls := s.calls ++ if arrives then peerReceives cmd else [] }
  | .answered _ | .giveUp _ _ => { s with tx := .idle }
  | .handle buf bus _ _ =>
      { s with calls := s.calls.tail
               commands := (Peer.handleIncoming proto3 peer s.commands buf bus).2
               handled := s.handled ++ ((asked buf).map fun cmd => ⟨cmd, bus⟩).toList }
  | .uplink _ => s

/-- The way down. -/
def trip : Machine State Label :=
  ⟨⟨[], [], .idle, [], .initial, []⟩, enabled gateway peer, next peer⟩

instance (s : State) (l : Label) : Decidable ((trip gateway peer).enabled s l) :=
  inferInstanceAs (Decidable (enabled gateway peer s l))

/-! ### There and back -/

/-- What a label is to the way up. -/
def Label.toUplink : Label → Option Uplink.Label
  | .refuse _ _ _ payload ok =>
      if ok then payload.map fun p => .gateway (.incoming .peer p) else none
  | .giveUp cmd sent => some (.giveUp cmd.sequence sent)
  | .handle _ _ payload through => payload.map fun p => .send .ack p through
  | .uplink l => some l
  | .relay .. | .send .. | .answered _ => none

/-- What the two ask of each other: `main` handles a message while it reads its sockets, the
TX thread does one thing at a time, and the peer sends its Acks and `main` its answers in
the labels above only. -/
def agreed (s : State × Uplink.State) : Label → Prop
  | .relay .. | .refuse .. => s.2.gateway.pc = .input ∧ s.2.gateway.session .peer ≠ .idle
  | .send .. | .answered _ => (s.2.thread .tx).step = none
  | .uplink (.send type _ _) => type = .telemetry
  | .uplink (.giveUp ..) | .uplink (.gateway (.incoming .peer _)) => False
  | _ => True

instance (s : State × Uplink.State) (l : Label) : Decidable (agreed s l) := by
  unfold agreed
  split <;> infer_instance

/-- The way down and the way up. -/
def machine : Machine (State × Uplink.State) Label :=
  .pair (trip gateway peer) (Uplink.machine proto3) some Label.toUplink agreed

instance (s : State × Uplink.State) (l : Label) :
    Decidable ((machine gateway peer).enabled s l) :=
  inferInstanceAs (Decidable ((Machine.pair (trip gateway peer) (Uplink.machine proto3) some
    Label.toUplink agreed).enabled s l))

/-- The messages fit what the peer receives into, as those of every tool of this schema
do. -/
def Label.fits : Label → Prop
  | .relay _ message _ _ | .refuse _ message _ _ _ => message.length ≤ nodeCommandSize
  | _ => True

instance (l : Label) : Decidable l.fits := by
  cases l <;> dsimp only [Label.fits] <;> infer_instance

/-! ### What the peer handles -/

/-- The Command a relayed message carries. -/
def carried (down : RelayDown) : Command := (decodeCommand proto3 down.payload false).2

/-- A relayed message arrives as it is, and decodes. -/
structure Whole (down : RelayDown) : Prop where
  received : peerReceives down = [RelayMsgType.command.byte :: down.payload]
  decodes : (decodeCommand proto3 down.payload false).1 = true

variable {gateway peer} {s : State}

lemma Whole.asked {down : RelayDown} (h : Whole down) :
    asked (RelayMsgType.command.byte :: down.payload) = some (carried down) := by
  rw [CommandTrip.asked, Peer.decodeIncoming, if_neg (not_not.mpr rfl)]
  have hpair : decodeCommand proto3 down.payload false = (true, carried down) :=
    Prod.ext h.decodes rfl
  rw [hpair]

/-- What is relayed of a message that fits. -/
lemma relayed_whole {st : CommandState} {message : Bytes} {bus : ℤ} {down : RelayDown}
    (h : (handleIncomingPublish proto3 gateway st true message bus).1 = .relayed down)
    (hfits : message.length ≤ nodeCommandSize) :
    Whole down ∧ commandIn message = some (carried down) := by
  obtain ⟨hdec, hfwd⟩ := handleIncomingPublish_relayed proto3 h
  obtain ⟨hpayload, -, -⟩ := forwardToPeer_ok hfwd
  have hsize : message.length ≤ incomingPayloadSize := hfits.trans (by decide)
  have hdecode : decodePublish proto3 message = decodeCommand proto3 message false := by
    rw [decodePublish, List.take_of_length_le hsize, decide_eq_false (not_lt.mpr hsize)]
  refine ⟨⟨?_, by rw [hpayload]; exact hdec⟩, ?_⟩
  · rw [peerReceives, commandFrame, hpayload]
    refine IsoTp.recvCalls_of_le (List.cons_ne_nil _ _) ?_
    rw [List.length_cons, Peer.recvSize]
    omega
  · rw [commandIn, hdecode, if_pos hdec, carried, hpayload]

/-- What the peer has handled, what is on the wire and what is queued, in this order,
against what was delivered to the gateway. -/
structure Ordered (peer : NodeIdentity) (s : State) : Prop where
  commands : s.commands = runCommands peer s.handled
  order : (s.handled.map (·.cmd) ++ (s.calls.filterMap asked ++ s.queue.map carried)).Sublist
    (s.delivered.filterMap commandIn)
  calls : ∀ buf ∈ s.calls, ∃ down, Whole down ∧ buf = RelayMsgType.command.byte :: down.payload
  queue : ∀ down ∈ s.queue, Whole down

/-- A message is relayed. -/
lemma Ordered.relay (h : Ordered peer s) {message : Bytes} {down : RelayDown} (hdown : Whole down)
    (hmessage : commandIn message = some (carried down)) (st : CommandState) (bus : ℤ) :
    Ordered peer (next peer s (.relay st message bus down)) where
  commands := h.commands
  order := by
    have hmore := h.order.append (List.Sublist.refl [carried down])
    simpa [next, hmessage] using hmore
  calls := h.calls
  queue d hd := by
    rcases List.mem_append.mp hd with hd | hd
    · exact h.queue d hd
    · exact List.mem_singleton.mp hd ▸ hdown

/-- A command is sent; it may be lost. -/
lemma Ordered.send (h : Ordered peer s) {cmd : RelayDown} (hhead : s.queue.head? = some cmd)
    (arrives sent : Bool) : Ordered peer (next peer s (.send cmd arrives sent)) := by
  obtain ⟨rest, hqueue⟩ := List.head?_eq_some_iff.mp hhead
  have hcmd : Whole cmd := h.queue cmd (by simp [hqueue])
  have horder := h.order
  rw [hqueue] at horder
  refine ⟨h.commands, ?_, fun buf hbuf => ?_, fun d hd => h.queue d (List.mem_of_mem_tail hd)⟩
  · cases arrives with
    | true => simpa [next, hqueue, hcmd.received, hcmd.asked] using horder
    | false =>
        refine List.Sublist.trans ?_ horder
        simp [next, hqueue]
  · rcases List.mem_append.mp hbuf with hbuf | hbuf
    · exact h.calls buf hbuf
    · cases arrives with
      | true => exact ⟨cmd, hcmd, by simpa [hcmd.received] using hbuf⟩
      | false => simp at hbuf

/-- The peer handles what it receives. -/
lemma Ordered.handle (h : Ordered peer s) {buf : Bytes} (hhead : s.calls.head? = some buf)
    (bus : ℤ) (payload : Option Bytes) (through : Bool) :
    Ordered peer (next peer s (.handle buf bus payload through)) := by
  obtain ⟨rest, hcalls⟩ := List.head?_eq_some_iff.mp hhead
  obtain ⟨down, hdown, rfl⟩ := h.calls buf (by simp [hcalls])
  have horder := h.order
  rw [hcalls, List.filterMap_cons_some hdown.asked] at horder
  refine ⟨?_, ?_, fun b hb => h.calls b (List.mem_of_mem_tail hb), h.queue⟩
  · simp only [next, hdown.asked, Option.map_some, Option.toList_some, runCommands_concat,
      handleIncoming_decoded hdown.decodes, h.commands]
    rfl
  · simpa [next, hcalls, hdown.asked] using horder

/-- **The step lemma of the trip.** -/
theorem ordered_inductive :
    ((machine gateway peer).restrict fun _ l => l.fits).Inductive fun s => Ordered peer s.1 where
  init := ⟨rfl, List.nil_sublist _, by simp [machine, Machine.pair, Machine.restrict, trip],
    by simp [machine, Machine.pair, Machine.restrict, trip]⟩
  step s l h hl := by
    obtain ⟨⟨htrip, -, -⟩, hfits⟩ := hl
    have hen : enabled gateway peer s.1 l := htrip l rfl
    change Ordered peer (next peer s.1 l)
    cases l with
    | relay st message bus down =>
        obtain ⟨hdown, hmessage⟩ := relayed_whole hen hfits
        exact h.relay hdown hmessage st bus
    | refuse st message bus payload ok =>
        refine ⟨h.commands, ?_, h.calls, h.queue⟩
        simp only [next, List.filterMap_append]
        exact h.order.trans (List.sublist_append_left _ _)
    | send cmd arrives sent => exact h.send hen.2 arrives sent
    | answered cmd | giveUp cmd sent => exact ⟨h.commands, h.order, h.calls, h.queue⟩
    | handle buf bus payload through => exact h.handle hen.1 bus payload through
    | uplink l => exact h

/-! ### What comes back -/

/-- An answer of the peer to a command it handled. -/
def Answered (peer : NodeIdentity) (handled : List Delivery) (payload : Bytes) : Prop :=
  ∃ pre x, pre ++ [x] <+: handled ∧ payload = resultAck proto3 x.sequence (answer peer pre x)

/-- An Ack that says there is no answer. -/
def Negative (payload : Bytes) : Prop :=
  ∃ seq status detail, (status = .failed ∨ status = .malformed) ∧
    payload = encodeAck proto3 seq status detail none nodeAckSize

lemma Answered.mono {handled handled' : List Delivery} {payload : Bytes}
    (h : Answered peer handled payload) (hle : handled <+: handled') :
    Answered peer handled' payload := by
  obtain ⟨pre, x, hpre, heq⟩ := h
  exact ⟨pre, x, hpre.trans hle, heq⟩

/-- What the gateway answers itself on the topic of the peer. -/
lemma negative_of_refused {st : CommandState} {message : Bytes} {bus : ℤ} {payload : Bytes}
    (h : (handleIncomingPublish proto3 gateway st true message bus).1 = .ack (some payload)) :
    Negative payload := by
  have hpublish {seq : UInt32} {status : AckStatus} {detail : Option Bytes}
      (hstatus : status = .failed ∨ status = .malformed)
      (hack : publishAck proto3 seq status detail none = some payload) : Negative payload := by
    rw [publishAck] at hack
    split_ifs at hack
    exact ⟨seq, status, detail, hstatus, (Option.some.inj hack).symm⟩
  cases hdec : (decodePublish proto3 message).1 with
  | false =>
      rw [handleIncomingPublish_malformed true hdec] at h
      exact hpublish (.inr rfl) (Incoming.ack.inj h)
  | true =>
      rw [handleIncomingPublish_forPeer hdec] at h
      split at h
      · cases h
      · exact hpublish (.inl rfl) (Incoming.ack.inj h)

/-- What the TX thread authors is negative. -/
lemma negative_of_authored {up : RelayUp} (h : Uplink.Authored proto3 up) :
    Negative (RelayUp.payload up) := by
  obtain ⟨seq, sent, h⟩ := h
  rw [Uplink.giveUpAck] at h
  generalize cstr (if sent then _ else _) = detail at h
  rw [syntheticAck] at h
  split_ifs at h
  rw [publishUp] at h
  split_ifs at h
  obtain rfl := Option.some.inj h
  exact ⟨seq, .failed, some detail, .inl rfl, rfl⟩

/-- On the topic of the peer's Acks, what comes from no channel is an answer of `main`. -/
lemma direct_written {g : Gateway.State} {l : Gateway.Label} {p : Gateway.Publication}
    (hp : p ∈ Gateway.written proto3 g l) (htopic : p.topic = .ack .peer)
    (hsource : p.source = none) : l = .incoming .peer p.payload := by
  cases l with
  | incoming i payload =>
      obtain rfl := List.mem_singleton.mp hp
      obtain rfl : i = .peer := Gateway.Topic.ack.inj htopic
      rfl
  | serve i =>
      cases i with
      | own =>
          obtain rfl := List.mem_singleton.mp hp
          cases htopic
      | peer => cases hp
  | announce ok | hand c ok =>
      cases ok with
      | true =>
          obtain rfl := List.mem_singleton.mp hp
          cases hsource
      | false => cases hp
  | _ => cases hp

lemma direct_next {t : Uplink.State} {u : Uplink.Label} {p : Gateway.Publication}
    (hp : p ∈ (Uplink.next proto3 t u).gateway.log) (htopic : p.topic = .ack .peer)
    (hsource : p.source = none) :
    p ∈ t.gateway.log ∨ u = .gateway (.incoming .peer p.payload) := by
  cases u with
  | gateway l =>
      rcases List.mem_append.mp hp with hp | hp
      · exact .inl hp
      · exact .inr (congrArg _ (direct_written hp htopic hsource))
  | publish thread =>
      left
      cases hthread : t.thread thread <;>
        simpa [Uplink.next, hthread, Uplink.Publisher.step, Uplink.State.publish, Gateway.next,
          Gateway.written] using hp
  | _ => exact .inl hp

/-- Only a send passes a payload to the link. -/
lemma passedAs_next (t : Uplink.State) {u : Uplink.Label} {type : RelayMsgType}
    (h : ∀ payload through, u ≠ .send type payload through) :
    (Uplink.next proto3 t u).passedAs type = t.passedAs type := by
  cases u with
  | send type' payload through =>
      have hne : type' ≠ type := fun heq => h payload through (by rw [heq])
      rw [Uplink.passedAs_send, if_neg hne, List.append_nil]
  | publish thread =>
      simp only [Uplink.next]
      cases (t.thread thread).step <;> rfl
  | _ => rfl

/-- The Acks that the peer passed to the link answer what it handled, and `main` itself says
only that there is no answer. -/
structure Truthful (peer : NodeIdentity) (s : State × Uplink.State) : Prop where
  passed : ∀ b ∈ s.2.passedAs .ack, Answered peer s.1.handled b
  direct : ∀ p ∈ s.2.gateway.log, p.topic = .ack .peer → p.source = none → Negative p.payload

/-- The Ack of a command the peer handles. -/
lemma answered_handle {s : State} (h : Ordered peer s) {buf : Bytes}
    (hhead : s.calls.head? = some buf) {bus : ℤ} {payload : Bytes} (through : Bool)
    (hpayload : (Peer.handleIncoming proto3 peer s.commands buf bus).1 = some payload) :
    Answered peer (next peer s (.handle buf bus (some payload) through)).handled payload := by
  obtain ⟨rest, hcalls⟩ := List.head?_eq_some_iff.mp hhead
  obtain ⟨down, hdown, rfl⟩ := h.calls buf (by simp [hcalls])
  rw [handleIncoming_decoded hdown.decodes, h.commands] at hpayload
  dsimp only at hpayload
  split_ifs at hpayload
  refine ⟨s.handled, ⟨carried down, bus⟩, ?_, (Option.some.inj hpayload).symm⟩
  simp [next, hdown.asked]

/-- A step in which the peer passes no Ack on and `main` answers nothing itself. -/
lemma Truthful.of_uplink {s : State × Uplink.State} (h : Truthful peer s) {t : State}
    (hhandled : s.1.handled <+: t.handled) {u : Uplink.Label}
    (hack : ∀ payload through, u ≠ .send .ack payload through)
    (hdirect : ∀ payload, u ≠ .gateway (.incoming .peer payload)) :
    Truthful peer (t, Uplink.next proto3 s.2 u) where
  passed b hb := (h.passed b (by rwa [passedAs_next s.2 hack] at hb)).mono hhandled
  direct p hp htopic hsource :=
    h.direct p ((direct_next hp htopic hsource).resolve_right (hdirect _)) htopic hsource

theorem truthful_inductive :
    ((machine gateway peer).restrict fun _ l => l.fits).Inductive fun s =>
      Ordered peer s.1 ∧ Truthful peer s := by
  refine ordered_inductive.and ⟨?_, ?_⟩ fun s l hordered h hl => ?_
  · simp [machine, Machine.pair, Machine.restrict, Uplink.machine, Uplink.boot,
      Uplink.State.passedAs]
  · simp [machine, Machine.pair, Machine.restrict, Uplink.machine, Uplink.boot, Gateway.boot]
  obtain ⟨⟨htrip, -, hagreed⟩, -⟩ := hl
  have hen : enabled gateway peer s.1 l := htrip l rfl
  cases l with
  | relay st message bus down | send cmd arrives sent | answered cmd => exact ⟨h.passed, h.direct⟩
  | refuse st message bus payload ok =>
      cases ok with
      | false => exact ⟨h.passed, h.direct⟩
      | true =>
          cases payload with
          | none => exact ⟨h.passed, h.direct⟩
          | some payload =>
              let u : Uplink.Label := .gateway (.incoming .peer payload)
              refine ⟨fun b hb => h.passed b ?_, fun p hp htopic hsource => ?_⟩
              · rwa [← passedAs_next s.2 (u := u) (by simp [u])]
              · rcases direct_next (t := s.2) (u := u) hp htopic hsource with hp | heq
                · exact h.direct p hp htopic hsource
                · obtain rfl : payload = p.payload := by simpa [u] using heq
                  exact negative_of_refused hen
  | giveUp cmd sent =>
      exact h.of_uplink (t := next peer s.1 (.giveUp cmd sent)) (List.prefix_refl _)
        (u := .giveUp cmd.sequence sent) (by simp) (by simp)
  | handle buf bus payload through =>
      have hmore : s.1.handled <+: (next peer s.1 (.handle buf bus payload through)).handled :=
        List.prefix_append _ _
      cases payload with
      | none => exact ⟨fun b hb => (h.passed b hb).mono hmore, h.direct⟩
      | some payload =>
          refine ⟨fun b hb => ?_, h.direct⟩
          change b ∈ (Uplink.next proto3 s.2 (.send .ack payload through)).passedAs .ack at hb
          rw [Uplink.passedAs_send, if_pos rfl] at hb
          rcases List.mem_append.mp hb with hb | hb
          · exact (h.passed b hb).mono hmore
          · obtain rfl := List.mem_singleton.mp hb
            exact answered_handle hordered hen.1 through hen.2
  | uplink u =>
      refine h.of_uplink (List.prefix_refl _) (fun payload through heq => ?_) fun payload heq => ?_
      · rw [heq] at hagreed
        exact absurd (show RelayMsgType.ack = .telemetry from hagreed) (by decide)
      · rw [heq] at hagreed
        exact hagreed

variable {ls : List Label} {s : State × Uplink.State}

/-- Every Ack on the topic of the peer. -/
lemma ack_spec (hrun : ((machine gateway peer).restrict fun _ l => l.fits).Run ls s)
    {payload : Bytes} (hpayload : payload ∈ s.2.gateway.payloadsOn (.ack .peer)) :
    Answered peer s.1.handled payload ∨ Negative payload := by
  have htruthful := (hrun.invariant truthful_inductive).2
  have huplink := hrun.of_restrict.snd
  obtain ⟨ks, hgw⟩ := (Uplink.gateway_simulates proto3).reachable huplink
  have hlogged := hgw.invariant (Gateway.logged_inductive proto3)
  obtain ⟨p, hp, rfl⟩ := List.mem_map.mp hpayload
  obtain ⟨hp, htopic⟩ : p ∈ s.2.gateway.log ∧ p.topic = .ack .peer := by simpa using hp
  cases hsource : p.source with
  | none => exact .inr (htruthful.direct p hp htopic hsource)
  | some q =>
      obtain ⟨c, n⟩ := q
      obtain rfl : c = .relayAck := by
        have hchan := hlogged.topic p hp c n hsource
        rw [htopic] at hchan
        cases c <;> first | rfl | cases hchan
      -- what is published from the channel was stored on it
      have hpublished : p.payload ∈ (s.2.gateway.published .relayAck).map (·.2) :=
        List.mem_map.mpr ⟨(n, p.payload), List.mem_filterMap.mpr ⟨p, hp, by simp [hsource]⟩, rfl⟩
      have hstored := (Replays.of_destutter
        (Gateway.published_destutter_sublist hgw (c := .relayAck) (by decide))).subset hpublished
      obtain ⟨up, hup, heq⟩ := List.mem_map.mp hstored
      have heq : RelayUp.payload up = p.payload := heq
      rcases (huplink.invariant (Uplink.carried_inductive proto3)).stored up hup with hpass | hauth
      · exact .inl (heq ▸ htruthful.passed _ hpass)
      · exact .inr (heq ▸ negative_of_authored hauth)

/-- **The trip**, in every run of the gateway, the link and the peer, whatever is lost, given
up on or refused, with messages that fit: the peer handles the commands delivered to the
gateway in their order and each at most once, some left out; its commands state is theirs; and
each Ack on `node/2/ack` is its answer to one of those or says that there is none. -/
theorem commands_in_order
    (hrun : ((machine gateway peer).restrict fun _ l => l.fits).Run ls s) :
    (s.1.handled.map (·.cmd)).Sublist (s.1.delivered.filterMap commandIn) ∧
      s.1.commands = runCommands peer s.1.handled ∧
      ∀ payload ∈ s.2.gateway.payloadsOn (.ack .peer),
        Answered peer s.1.handled payload ∨ Negative payload := by
  have hordered := (hrun.invariant truthful_inductive).1
  exact ⟨(List.sublist_append_left _ _).trans hordered.order, hordered.commands,
    fun payload => ack_spec hrun⟩

/-- `command.py --node 2 --sequence 7 trigger`. -/
def trigger : Host.HostCommand := ⟨1, 7, some .triggerMeasurement⟩

/-- As it is relayed. -/
def triggerDown : RelayDown := ⟨2, 7, trigger.serialize, by decide⟩

/-- The peer's Ack. -/
def triggerAck : Bytes :=
  resultAck proto3 7 (handleCommand Host.peerIdentity .initial trigger.command 0).1

/-- The command goes to the peer, and its Ack comes back. -/
def triggerRun : List Label :=
  Uplink.sessionUp.map .uplink ++
    [.uplink (.gateway (.poll fun _ => false)), .relay .initial trigger.serialize 0 triggerDown] ++
    ([.inputDone, .sessionsDone, .skip .telemetry, .skip .relayTelemetry, .skip .relayAck,
      .skip .relayStatus] : List Gateway.Label).map (.uplink ∘ .gateway) ++
    [.send triggerDown true true,
      .handle (RelayMsgType.command.byte :: trigger.serialize) 0 (some triggerAck) true,
      .uplink .recv, .uplink (.publish .rx), .uplink (.publish .rx), .uplink (.publish .rx),
      .answered triggerDown] ++
    ([.poll fun c => c == .relayAck, .inputDone, .sessionsDone, .skip .telemetry,
      .skip .relayTelemetry, .drain .relayAck, .read .relayAck,
      .hand .relayAck true] : List Gateway.Label).map (.uplink ∘ .gateway)

/-- The one command is handled, and answered. -/
theorem triggerRun_in_order : ∃ s,
    ((machine Host.gatewayIdentity Host.peerIdentity).restrict fun _ l => l.fits).Run
      triggerRun s ∧
    s.1.handled.map (·.cmd) = [trigger.command] ∧
    (s.1.handled.map (·.cmd)).Sublist (s.1.delivered.filterMap commandIn) := by
  have hrun : ((machine Host.gatewayIdentity Host.peerIdentity).restrict fun _ l => l.fits).Run
      triggerRun _ := Machine.run_of_exec rfl
  exact ⟨_, hrun, rfl, (commands_in_order hrun).1⟩

/-! ### What exit code 0 is worth -/

/-- An answer of OK, followed back to where the command was fresh. -/
lemma carriedOut_of_ok {handled : List Delivery} {cmd : Command}
    (hmine : ∀ x ∈ handled, x.sequence = cmd.sequence → x.cmd = cmd) {pre : List Delivery}
    {x : Delivery} (hpre : pre ++ [x] <+: handled) (hx : x.cmd = cmd)
    (hok : (answer peer pre x).status = .ok) :
    (∃ pre x, pre ++ [x] <+: handled ∧ x.cmd = cmd ∧ carriedOut peer pre x) ∨
      ∃ pre x y, pre ++ [x, y] <+: handled ∧ x.cmd = cmd ∧ y.cmd = cmd ∧
        ¬ isRepeat pre x ∧ ¬ x.executes := by
  induction pre using List.reverseRecOn generalizing x with
  | nil =>
      have hfresh : ¬ isRepeat [] x := by simp [isRepeat]
      exact .inl ⟨[], x, hpre, hx,
        carriedOut_iff.mpr ⟨hfresh, (answer_ok_iff_of_fresh hfresh).mp hok⟩⟩
  | append_singleton pre w ih =>
      by_cases hrep : isRepeat (pre ++ [w]) x
      · have hseq : w.sequence = x.sequence := by simpa [isRepeat] using hrep
        have hwx : pre ++ [w, x] <+: handled := by simpa using hpre
        have hw : w.cmd = cmd := by
          refine hmine w (hwx.subset (by simp)) (hseq.trans ?_)
          rw [Delivery.sequence, hx]
        have hpre' : pre ++ [w] <+: handled := (List.prefix_append _ [x]).trans hpre
        by_cases hfresh : isRepeat pre w
        · exact ih hpre' hw (handleCommand_repeat hfresh).1
        · by_cases hexec : w.executes
          · exact .inl ⟨pre, w, hpre', hw, carriedOut_iff.mpr ⟨hfresh, hexec⟩⟩
          · exact .inr ⟨pre, w, x, hwx, hw, hx, hfresh, hexec⟩
      · exact .inl ⟨_, x, hpre, hx,
          carriedOut_iff.mpr ⟨hrep, (answer_ok_iff_of_fresh hrep).mp hok⟩⟩

/-- The Ack a tool has seen is one of those that came. -/
lemma awaitAck_mem {sequence : UInt32} {events : List Host.Event} {ack : DecodedAck}
    (h : (Host.awaitAck sequence events).ackSeen = some ack) :
    ∃ payload ∈ Host.messages events, decodeAck payload = some ack ∧ ack.sequence = sequence := by
  induction events using List.reverseRecOn with
  | nil => cases h
  | append_singleton events e ih =>
      have hkept : (Host.awaitAck sequence events).ackSeen = some ack →
          ∃ payload ∈ Host.messages (events ++ [e]), decodeAck payload = some ack ∧
            ack.sequence = sequence := fun hbefore => by
        obtain ⟨payload, hmem, hrest⟩ := ih hbefore
        exact ⟨payload, by rw [Host.messages, List.filterMap_append]
                           exact List.mem_append_left _ hmem, hrest⟩
      rw [Host.awaitAck_concat] at h
      cases e with
      | look late => exact hkept h
      | message payload =>
          simp only [Host.Tool.next, Host.Listener.onMessage] at h
          split_ifs at h
          · split at h
            · exact hkept h
            · rename_i first hfirst
              split_ifs at h with hseq
              · obtain rfl := Option.some.inj h
                exact ⟨payload, by simp [Host.messages], hfirst, hseq⟩
              · exact hkept h
          · exact hkept h

/-- An answer of the peer, read back. -/
lemma Answered.decode {handled : List Delivery} {payload : Bytes}
    (h : Answered peer handled payload) {ack : DecodedAck} (hack : decodeAck payload = some ack) :
    ∃ pre x, pre ++ [x] <+: handled ∧ ack.sequence = x.sequence ∧
      ack.status = UInt32.ofNat (answer peer pre x).status.wire := by
  obtain ⟨pre, x, hpre, rfl⟩ := h
  have hinfo : ∀ i ∈ (if (answer peer pre x).hasInfo then some (answer peer pre x).info else none),
      infoTerminated i = true := resultInfo_terminated x.cmd
  rw [resultAck, decodeAck_encodeAck _ _ _ hinfo] at hack
  obtain rfl := Option.some.inj hack
  exact ⟨pre, x, hpre, rfl, rfl⟩

/-- Where there is no answer, the status is not OK. -/
lemma Negative.status_ne {payload : Bytes} (h : Negative payload) {ack : DecodedAck}
    (hack : decodeAck payload = some ack) : ack.status ≠ UInt32.ofNat AckStatus.ok.wire := by
  obtain ⟨seq, status, detail, hstatus, rfl⟩ := h
  rw [decodeAck_encodeAck _ _ _ (by simp)] at hack
  obtain rfl := Option.some.inj hack
  change UInt32.ofNat status.wire ≠ _
  rcases hstatus with rfl | rfl <;> decide

/-- **What exit code 0 is worth**, in every run of the trip: if nobody else uses the sequence
of a command, and its user sees an Ack on `node/2/ack` for which the tool exits with 0,
then the peer carried the command out, unless it refused it and the command was delivered
again right behind. -/
theorem exit_zero_applied
    (hrun : ((machine gateway peer).restrict fun _ l => l.fits).Run ls s) {c : Host.HostCommand}
    (hmine : ∀ message ∈ s.1.delivered, ∀ cmd ∈ commandIn message,
      cmd.sequence = c.sequence → cmd = c.command)
    {events : List Host.Event}
    (hseen : ∀ m ∈ Host.messages events, m ∈ s.2.gateway.payloadsOn (.ack .peer))
    (hexit : Host.exitCode (Host.awaitAck c.sequence events).ackSeen = 0) :
    (∃ pre x, pre ++ [x] <+: s.1.handled ∧ x.cmd = c.command ∧ carriedOut peer pre x) ∨
      ∃ pre x y, pre ++ [x, y] <+: s.1.handled ∧ x.cmd = c.command ∧ y.cmd = c.command ∧
        ¬ isRepeat pre x ∧ ¬ x.executes := by
  have hordered := (hrun.invariant truthful_inductive).1
  have hhandled : ∀ x ∈ s.1.handled, x.sequence = c.command.sequence → x.cmd = c.command := by
    intro x hx hseq
    have hmem := ((List.sublist_append_left _ _).trans hordered.order).subset
      (List.mem_map_of_mem (f := (·.cmd)) hx)
    obtain ⟨message, hmessage, hcmd⟩ := List.mem_filterMap.mp hmem
    exact hmine message hmessage x.cmd hcmd (hseq.trans c.command_sequence)
  cases hawait : (Host.awaitAck c.sequence events).ackSeen with
  | none => simp [hawait, Host.exitCode] at hexit
  | some ack =>
      obtain ⟨payload, hmem, hdecode, hsequence⟩ := awaitAck_mem hawait
      have hok : ack.status = UInt32.ofNat AckStatus.ok.wire := by
        rw [hawait, Host.exitCode] at hexit
        by_contra hne
        simp [hne] at hexit
      rcases ack_spec hrun (hseen payload hmem) with hanswered | hnegative
      · obtain ⟨pre, x, hpre, hseq, hstatus⟩ := hanswered.decode hdecode
        have hx : x.cmd = c.command := by
          refine hhandled x (hpre.subset (by simp)) ?_
          rw [← hseq, hsequence, c.command_sequence]
        refine carriedOut_of_ok hhandled hpre hx (AckStatus.wire_injective ?_)
        rw [← AckStatus.toNat_wire, ← AckStatus.toNat_wire .ok, ← hstatus, hok]
      · exact absurd hok (hnegative.status_ne hdecode)

/-- The tool exits with 0, and the command was carried out. -/
theorem triggerRun_applied : ∃ s,
    ((machine Host.gatewayIdentity Host.peerIdentity).restrict fun _ l => l.fits).Run
      triggerRun s ∧
    s.2.gateway.payloadsOn (.ack .peer) = [triggerAck] ∧
    Host.exitCode (Host.awaitAck trigger.sequence [.message triggerAck]).ackSeen = 0 ∧
    ∃ pre x, pre ++ [x] <+: s.1.handled ∧ x.cmd = trigger.command ∧
      carriedOut Host.peerIdentity pre x := by
  have hrun : ((machine Host.gatewayIdentity Host.peerIdentity).restrict fun _ l => l.fits).Run
      triggerRun _ := Machine.run_of_exec rfl
  have hmine : ∀ message ∈ [trigger.serialize], ∀ cmd ∈ commandIn message,
      cmd.sequence = trigger.sequence → cmd = trigger.command := by
    intro message hmessage cmd hcmd _
    obtain rfl := List.mem_singleton.mp hmessage
    rw [commandIn, trigger.decodePublish, if_pos rfl] at hcmd
    exact (Option.some.inj hcmd).symm
  have hexit :
      Host.exitCode (Host.awaitAck trigger.sequence [.message triggerAck]).ackSeen = 0 := by
    decide +kernel
  refine ⟨_, hrun, rfl, hexit, ?_⟩
  have hseen : ∀ m ∈ Host.messages [.message triggerAck], m ∈ [triggerAck] := fun m hm => hm
  rcases exit_zero_applied hrun hmine hseen hexit with hdone | ⟨pre, x, y, hpre, -⟩
  · exact hdone
  · -- only one command was handled
    have hlen : (pre ++ [x, y]).length ≤ 1 := hpre.length_le
    simp at hlen

end ClimateNode.CommandTrip
