import ClimateNode.Gateway.Incoming
import ClimateNode.Gateway.MainLoop
import ClimateNode.Link.IsoTp
import ClimateNode.Peer.Node

/-!
A payload on its way up: from `send_message` of the peer through an ISO-TP
transfer, `handle_relayed` of the gateway's RX thread, a channel of the relay and
`main` to the broker, beside the Acks the TX thread authors.  A transfer arrives
whole and in order, or not at all.

* `Uplink.machine`: the peer, the wire, the relay's two threads and the main
  loop, one atomic action a label.
* `gateway_simulates`: what holds of the main loop holds here.
* `carried_inductive`: what is on a channel, about to be, or on the wire is what
  the peer passed under that type, or an Ack the gateway authored.
* `uplink_order`: what comes out at the broker.
* `direct_ack_bypasses`: which Acks, and which moments, it leaves out.
-/

namespace ClimateNode

open Automata Wire

namespace UpChannel

/-- The channel behind `chan_relay_telemetry` or `chan_relay_ack` in the main
loop. -/
abbrev chanId : UpChannel → Gateway.ChanId
  | .telemetry => .relayTelemetry
  | .ack => .relayAck

/-- A `relay_up` as a message of its channel. -/
def msg : (c : UpChannel) → RelayUp → c.chanId.Msg
  | .telemetry, up => up
  | .ack, up => up

/-- The type that is routed to a channel. -/
def type : UpChannel → RelayMsgType
  | .telemetry => .telemetry
  | .ack => .ack

end UpChannel

namespace Uplink

/-- The relay's threads. -/
inductive Thread where
  | rx | tx
  deriving DecidableEq, Repr

/-- Where a thread stands with `zbus_chan_pub`: not in it, about to store, the
message stored but the listener not run, and the lock still held. -/
inductive Publisher where
  | idle
  | holding (c : UpChannel) (up : RelayUp)
  | stored (c : UpChannel)
  | notified (c : UpChannel)

/-- The next step of a publish. -/
def Publisher.step : Publisher → Option (Gateway.Label × Publisher)
  | .idle => none
  | .holding c up => some (.store c.chanId (c.msg up), .stored c)
  | .stored c => some (.notify c.chanId, .notified c)
  | .notified c => some (.unlock c.chanId, .idle)

/-- Nothing stored yet. -/
def Publisher.isHolding : Publisher → Bool
  | .holding .. => true
  | _ => false

/-- A thread with a message to publish, or with none. -/
def Publisher.start : Option (UpChannel × RelayUp) → Publisher
  | none => .idle
  | some p => .holding p.1 p.2

/-- What passes through: the payloads handed to `send_message`, the calls of
`isotp_recv` that completed transfers lead to, oldest first, and the two threads
in front of the main loop. -/
structure State where
  passed : List (RelayMsgType × Bytes)
  calls : List Bytes
  thread : Thread → Publisher
  gateway : Gateway.State

/-- The atomic actions: the peer sending, which may not get through; the RX thread
receiving; the TX thread giving up on a command it sent or could not send; a
thread's publish, a step or a failure; and the other labels of the main loop. -/
inductive Label where
  | send (type : RelayMsgType) (payload : Bytes) (delivered : Bool)
  | recv
  | giveUp (sequence : UInt32) (sent : Bool)
  | publish (t : Thread)
  | fail (t : Thread)
  | gateway (l : Gateway.Label)

/-- The size of the buffer `rx_thread` receives into. -/
def relayRecvSize : ℕ := 1 + kRelayUpMax

/-- The calls of `isotp_recv` that one `send_message` leads to. -/
def received (type : RelayMsgType) (payload : Bytes) (delivered : Bool) : List Bytes :=
  if delivered then (Peer.sendMessage type payload).elim [] (IsoTp.recvCalls relayRecvSize)
  else []

variable (pb : Nanopb)

/-- The Ack `tx_thread` authors. -/
def giveUpAck (sequence : UInt32) (sent : Bool) : Option RelayUp :=
  syntheticAck pb sequence
    (cstr (if sent then "no response over CAN" else "no route to node over CAN"))

/-- A label of the main loop that is no publish of the relay's on the two
channels. -/
def notRelayed : Gateway.Label → Prop
  | .store c _ | .notify c | .unlock c => c ≠ .relayTelemetry ∧ c ≠ .relayAck
  | _ => True

instance (l : Gateway.Label) : Decidable (notRelayed l) := by
  apply l.casesOn (motive := fun l => Decidable (notRelayed l)) <;> intros <;>
    dsimp only [notRelayed] <;> infer_instance

/-- Which labels may fire. -/
def enabled (s : State) : Label → Prop
  | .send .. => True
  | .recv => (s.thread .rx).step = none ∧ s.calls ≠ []
  | .giveUp .. => (s.thread .tx).step = none
  | .publish t => ∃ q ∈ (s.thread t).step, Gateway.enabled pb s.gateway q.1
  | .fail t => (s.thread t).isHolding = true
  | .gateway l => notRelayed l ∧ Gateway.enabled pb s.gateway l

instance (p : Publisher) : Decidable (p.step = none) :=
  decidable_of_iff (p.step.isNone = true) Option.isNone_iff_eq_none

instance (s : State) (l : Label) : Decidable (enabled pb s l) := by
  cases l <;> dsimp only [enabled] <;> infer_instance

/-- A thread's next step in a publish. -/
def State.publish (s : State) (t : Thread) (q : Gateway.Label × Publisher) : State :=
  { s with thread := Function.update s.thread t q.2, gateway := Gateway.next pb s.gateway q.1 }

/-- What each label does. -/
def next (s : State) : Label → State
  | .send type payload delivered =>
      { s with passed := s.passed ++ [(type, payload)]
               calls := s.calls ++ received type payload delivered }
  | .recv =>
      { s with calls := s.calls.tail
               thread := Function.update s.thread .rx
                 (.start (handleRelayed (s.calls.headD [])).publish) }
  | .giveUp sequence sent =>
      { s with thread := Function.update s.thread .tx
                 (.start ((giveUpAck pb sequence sent).map (.ack, ·))) }
  | .publish t => (s.thread t).step.elim s (s.publish pb t)
  | .fail t => { s with thread := Function.update s.thread t .idle }
  | .gateway l => { s with gateway := Gateway.next pb s.gateway l }

/-- Boot. -/
def boot : State := ⟨[], [], fun _ => .idle, Gateway.boot⟩

/-- The machine of the way up. -/
def machine : Machine State Label := ⟨boot, enabled pb, next pb⟩

instance (s : State) (l : Label) : Decidable ((machine pb).enabled s l) :=
  inferInstanceAs (Decidable (enabled pb s l))

/-- **The main loop** is part of the way up. -/
theorem gateway_simulates :
    (Gateway.machine pb).Simulates (machine pb) State.gateway where
  init := .init _
  step s l hl := by
    cases l with
    | send | recv | giveUp | fail => exact .inl rfl
    | gateway l => exact .inr ⟨l, hl.2, rfl⟩
    | publish t =>
        obtain ⟨q, hstep, hen⟩ := hl
        refine .inr ⟨q.1, hen, ?_⟩
        simp [machine, next, State.publish, Gateway.machine, Option.mem_def.mp hstep]

/-! ### What is carried -/

/-- The payload a thread is about to store on a channel. -/
def Publisher.pending (c : UpChannel) : Publisher → List Bytes
  | .holding c' up => if c' = c then [up.payload] else []
  | _ => []

/-- The payload one received buffer puts on a channel. -/
def routed (c : UpChannel) (buf : Bytes) : List Bytes :=
  (Publisher.start (handleRelayed buf).publish).pending c

/-- The payloads on the wire for a channel. -/
def State.arriving (s : State) (c : UpChannel) : List Bytes := s.calls.flatMap (routed c)

/-- The payloads the peer passed with a type. -/
def State.passedAs (s : State) (type : RelayMsgType) : List Bytes :=
  (s.passed.filter fun p => p.1 = type).map (·.2)

/-- An Ack the gateway authored. -/
def Authored (up : RelayUp) : Prop := ∃ sequence sent, giveUpAck pb sequence sent = some up

/-- Everything on the way up came from the peer, under the type of its channel
and in order, or is an authored Ack. -/
structure Carried (s : State) : Prop where
  telemetry : ((s.gateway.chan .relayTelemetry).history.map RelayUp.payload ++
    ((s.thread .rx).pending .telemetry ++ s.arriving .telemetry)).Sublist (s.passedAs .telemetry)
  acks : ∀ b ∈ (s.thread .rx).pending .ack ++ s.arriving .ack, b ∈ s.passedAs .ack
  given : ∀ c up, s.thread .tx = .holding c up → c = .ack ∧ Authored pb up
  stored : ∀ up ∈ (s.gateway.chan .relayAck).history,
    RelayUp.payload up ∈ s.passedAs .ack ∨ Authored pb up

variable {pb} {s : State}

lemma passedAs_send (type type' : RelayMsgType) (payload : Bytes) (delivered : Bool) :
    (next pb s (.send type payload delivered)).passedAs type' =
      s.passedAs type' ++ if type = type' then [payload] else [] := by
  simp only [State.passedAs, next, List.filter_append, List.map_append]
  congr 1
  by_cases h : type = type' <;> simp [h]

/-- **One call, one channel**: a payload that gets through is routed, byte for
byte, to the channel of its type. -/
lemma routed_received (c : UpChannel) (type : RelayMsgType) (payload : Bytes)
    (delivered : Bool) : ((received type payload delivered).flatMap (routed c)).Sublist
      (if type = c.type then [payload] else []) := by
  cases delivered with
  | false => simp [received]
  | true =>
      by_cases hbig : payload.length + 1 > 1 + nodeAckSize
      · simp [received, Peer.sendMessage, hbig]
      · have hfits : payload.length ≤ kRelayUpMax := by
          simp only [nodeAckSize, kRelayUpMax] at hbig ⊢
          omega
        have hcalls : IsoTp.recvCalls relayRecvSize (type.byte :: payload) =
            [type.byte :: payload] := by
          refine IsoTp.recvCalls_of_le (List.cons_ne_nil _ _) ?_
          rw [List.length_cons, relayRecvSize]
          omega
        simp only [received, Peer.sendMessage, hbig, if_false, if_true, Option.elim_some, hcalls,
          List.flatMap_singleton, routed]
        cases type with
        | telemetry =>
            rw [handleRelayed_telemetry hfits]
            cases c <;> simp [Publisher.start, Publisher.pending, UpChannel.type]
        | ack =>
            rw [handleRelayed_ack hfits]
            cases c <;> simp [Publisher.start, Publisher.pending, UpChannel.type]
        | command =>
            simp [handleRelayed, Publisher.start, Publisher.pending]

/-- The main loop's own labels store nothing on the relay's channels. -/
lemma history_gateway {g : Gateway.State} {l : Gateway.Label} (h : notRelayed l)
    (c : UpChannel) :
    ((Gateway.next pb g l).chan c.chanId).history = (g.chan c.chanId).history := by
  refine Gateway.history_next pb fun m heq => ?_
  rw [heq] at h
  cases c
  · exact h.1 rfl
  · exact h.2 rfl

lemma pending_start (c : UpChannel) (buf : Bytes) :
    (Publisher.start (handleRelayed buf).publish).pending c = routed c buf := rfl

/-- The peer sends. -/
lemma Carried.send (h : Carried pb s) (type : RelayMsgType) (payload : Bytes)
    (delivered : Bool) : Carried pb (next pb s (.send type payload delivered)) := by
  have harr : ∀ c, (next pb s (.send type payload delivered)).arriving c =
      s.arriving c ++ (received type payload delivered).flatMap (routed c) := fun c => by
    simp [State.arriving, next]
  refine ⟨?_, ?_, h.given, ?_⟩
  · rw [harr, passedAs_send, ← List.append_assoc _ (s.arriving _), ← List.append_assoc]
    exact h.telemetry.append (routed_received .telemetry type payload delivered)
  · intro b hb
    rw [harr, ← List.append_assoc] at hb
    rw [passedAs_send]
    rcases List.mem_append.mp hb with hb | hb
    · exact List.mem_append_left _ (h.acks b hb)
    · exact List.mem_append_right _ ((routed_received .ack type payload delivered).subset hb)
  · intro up hup
    rw [passedAs_send]
    exact (h.stored up hup).imp (List.mem_append_left _) id

/-- The RX thread takes what the next `isotp_recv` returns. -/
lemma Carried.recv (h : Carried pb s) (hidle : (s.thread .rx).step = none)
    (hcalls : s.calls ≠ []) : Carried pb (next pb s .recv) := by
  obtain ⟨buf, rest, heq⟩ := List.exists_cons_of_ne_nil hcalls
  have hnone : ∀ c, (s.thread .rx).pending c = [] := fun c => by
    cases hp : s.thread .rx <;> simp_all [Publisher.step, Publisher.pending]
  -- what was arriving is now in hand
  have hsum : ∀ c, ((next pb s .recv).thread .rx).pending c ++ (next pb s .recv).arriving c =
      (s.thread .rx).pending c ++ s.arriving c := fun c => by
    simp [next, State.arriving, hnone, heq, pending_start]
  refine ⟨?_, ?_, ?_, h.stored⟩
  · rw [hsum]
    exact h.telemetry
  · rw [hsum]
    exact h.acks
  · simpa [next] using h.given

/-- The TX thread gives up on a command. -/
lemma Carried.giveUp (h : Carried pb s) (sequence : UInt32) (sent : Bool) :
    Carried pb (next pb s (.giveUp sequence sent)) := by
  have hrx : (next pb s (.giveUp sequence sent)).thread .rx = s.thread .rx := by
    simp [next]
  refine ⟨by rw [hrx]; exact h.telemetry, by rw [hrx]; exact h.acks, ?_, h.stored⟩
  intro c up hup
  cases hack : giveUpAck pb sequence sent with
  | none => simp [next, hack, Publisher.start] at hup
  | some up' =>
      obtain ⟨rfl, rfl⟩ : UpChannel.ack = c ∧ up' = up := by
        simpa [next, hack, Publisher.start] using hup
      exact ⟨rfl, sequence, sent, hack⟩

/-- A step that stores nothing and takes nothing in hand. -/
lemma Carried.frame (h : Carried pb s) {t : State} (hpassed : t.passed = s.passed)
    (hcalls : t.calls = s.calls)
    (hrx : ∀ c, ((t.thread .rx).pending c).Sublist ((s.thread .rx).pending c))
    (htx : ∀ c up, t.thread .tx = .holding c up → s.thread .tx = .holding c up)
    (hhist : ∀ c : UpChannel,
      (t.gateway.chan c.chanId).history = (s.gateway.chan c.chanId).history) : Carried pb t := by
  have hpass : ∀ type, t.passedAs type = s.passedAs type := fun type => by
    rw [State.passedAs, hpassed, State.passedAs]
  have harr : ∀ c, t.arriving c = s.arriving c := fun c => by
    rw [State.arriving, hcalls, State.arriving]
  refine ⟨?_, ?_, fun c up hup => h.given c up (htx c up hup), ?_⟩
  · rw [hhist .telemetry, hpass, harr]
    exact ((List.Sublist.refl _).append ((hrx _).append (List.Sublist.refl _))).trans h.telemetry
  · intro b hb
    rw [harr] at hb
    rw [hpass]
    exact h.acks b (((hrx _).append (List.Sublist.refl _)).subset hb)
  · intro up hup
    rw [hhist .ack] at hup
    rw [hpass]
    exact h.stored up hup

/-- Storing a message on one channel leaves the other alone. -/
lemma history_store_of_ne {g : Gateway.State} {c c' : UpChannel} (up : RelayUp) (h : c' ≠ c) :
    ((Gateway.next pb g (.store c.chanId (c.msg up))).chan c'.chanId).history =
      (g.chan c'.chanId).history := by
  refine Gateway.history_next pb fun m heq => h ?_
  cases c <;> cases c' <;> simp_all

@[simp] lemma publish_passedAs (t : Thread) (q : Gateway.Label × Publisher)
    (type : RelayMsgType) : (s.publish pb t q).passedAs type = s.passedAs type := rfl

@[simp] lemma publish_arriving (t : Thread) (q : Gateway.Label × Publisher) (c : UpChannel) :
    (s.publish pb t q).arriving c = s.arriving c := rfl

@[simp] lemma publish_thread (t : Thread) (q : Gateway.Label × Publisher) :
    (s.publish pb t q).thread t = q.2 := by simp [State.publish]

/-- After a step of a publish nothing is pending that was not before. -/
lemma pending_publish {t : Thread} {q : Gateway.Label × Publisher}
    (hq : (s.thread t).step = some q) (c : UpChannel) :
    (((s.publish pb t q).thread .rx).pending c).Sublist ((s.thread .rx).pending c) := by
  cases t with
  | rx =>
      have hnil : q.2.pending c = [] := by
        cases ht : s.thread .rx <;> rw [ht] at hq <;> cases hq <;> rfl
      simp [hnil]
  | tx => simp [State.publish]

/-- After a step of a publish the TX thread holds nothing it did not before. -/
lemma given_publish {t : Thread} {q : Gateway.Label × Publisher}
    (hq : (s.thread t).step = some q) {c : UpChannel} {up : RelayUp}
    (hup : (s.publish pb t q).thread .tx = .holding c up) : s.thread .tx = .holding c up := by
  cases t with
  | rx => simpa [State.publish] using hup
  | tx =>
      have heq : q.2 = .holding c up := by simpa using hup
      cases ht : s.thread .tx <;> rw [ht] at hq <;> cases hq <;> cases heq

/-- A thread stores the message it holds: what was pending is on the channel. -/
lemma Carried.store (h : Carried pb s) {t : Thread} {c : UpChannel} {up : RelayUp}
    (ht : s.thread t = .holding c up) :
    Carried pb (s.publish pb t (.store c.chanId (c.msg up), .stored c)) := by
  have hstep : (s.thread t).step = some (.store c.chanId (c.msg up), .stored c) := by
    rw [ht]
    rfl
  have hacks : ∀ b ∈ ((s.publish pb t (.store c.chanId (c.msg up), .stored c)).thread .rx).pending
      .ack ++ s.arriving .ack, b ∈ s.passedAs .ack := fun b hb =>
    h.acks b (((pending_publish hstep .ack).append (List.Sublist.refl _)).subset hb)
  refine ⟨?_, hacks, fun c' up' hup => h.given c' up' (given_publish hstep hup), ?_⟩
  · cases c with
    | telemetry =>
        cases t with
        | tx => exact absurd (h.given _ _ ht).1 (by decide)
        | rx =>
            have htel := h.telemetry
            rw [ht] at htel
            change (((Gateway.next pb s.gateway (.store .relayTelemetry up)).chan
              .relayTelemetry).history.map RelayUp.payload ++ _).Sublist _
            rw [Gateway.history_store]
            simpa [Publisher.pending] using htel
    | ack =>
        change (((Gateway.next pb s.gateway (.store UpChannel.ack.chanId
          (UpChannel.ack.msg up))).chan UpChannel.telemetry.chanId).history.map RelayUp.payload ++
            _).Sublist _
        rw [history_store_of_ne up (by decide)]
        exact ((List.Sublist.refl _).append ((pending_publish hstep .telemetry).append
          (List.Sublist.refl _))).trans h.telemetry
  · intro up' hup'
    cases c with
    | telemetry =>
        change up' ∈ ((Gateway.next pb s.gateway (.store UpChannel.telemetry.chanId
          (UpChannel.telemetry.msg up))).chan UpChannel.ack.chanId).history at hup'
        rw [history_store_of_ne up (by decide)] at hup'
        exact h.stored up' hup'
    | ack =>
        change up' ∈ ((Gateway.next pb s.gateway (.store .relayAck up)).chan .relayAck).history
          at hup'
        rw [Gateway.history_store] at hup'
        rcases List.mem_append.mp hup' with hup' | hup'
        · exact h.stored up' hup'
        · obtain rfl := List.mem_singleton.mp hup'
          cases t with
          | rx => exact .inl (h.acks _ (by simp [ht, Publisher.pending]))
          | tx => exact .inr (h.given _ _ ht).2

/-- The steps of a publish. -/
lemma Carried.publish (h : Carried pb s) {t : Thread} {q : Gateway.Label × Publisher}
    (hq : (s.thread t).step = some q) : Carried pb (s.publish pb t q) := by
  cases ht : s.thread t with
  | idle => simp [ht, Publisher.step] at hq
  | holding c up =>
      obtain rfl : (_, _) = q := by simpa [ht, Publisher.step] using hq
      exact h.store ht
  | stored c | notified c =>
      refine h.frame rfl rfl (pending_publish hq) (fun c up => given_publish hq) fun c' => ?_
      obtain rfl : (_, _) = q := by simpa [ht, Publisher.step] using hq
      exact Gateway.history_next pb fun m heq => by cases heq

variable (pb)

theorem carried_inductive : (machine pb).Inductive (Carried pb) where
  init := by
    refine ⟨List.nil_sublist _, ?_, ?_, ?_⟩ <;>
      simp [machine, boot, Gateway.boot, Doorbell.State.empty, Publisher.pending, State.arriving]
  step s l h hl := by
    cases l with
    | send type payload delivered => exact h.send type payload delivered
    | recv => exact h.recv hl.1 hl.2
    | giveUp sequence sent => exact h.giveUp sequence sent
    | publish t =>
        obtain ⟨q, hq, -⟩ := hl
        change Carried pb ((s.thread t).step.elim s (s.publish pb t))
        rw [Option.mem_def.mp hq]
        exact h.publish hq
    | fail t =>
        refine h.frame rfl rfl ?_ ?_ fun _ => rfl
        · intro c
          cases t <;> simp [machine, next, Publisher.pending]
        · intro c up hup
          cases t <;> simp_all [machine, next]
    | gateway l =>
        exact h.frame rfl rfl (fun _ => List.Sublist.refl _) (fun _ _ => id)
          (history_gateway hl.1)

/-! ### What comes out -/

/-- The main loop with the peer session serving. -/
def sessionUp : List Label := Gateway.peerServing.map .gateway

/-- One payload of the peer, up to where the RX thread is about to store it. -/
def arrive (type : RelayMsgType) (payload : Bytes) : List Label :=
  [.send type payload true, .recv]

/-- The main loop drains the relay's telemetry. -/
def drainTelemetry : List Label := Gateway.drainTelemetry.map .gateway

end Uplink

end ClimateNode
