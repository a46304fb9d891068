import ClimateNode.Gateway.LastWill
import ClimateNode.Gateway.LoopRefinement
import ClimateNode.Gateway.Presence

/-!
The peer's presence, from the frames on the bus to what the broker retains on
`node/2/status`: `rx_thread` with its heartbeat queue, `main` with its sessions and its
channels, the network and the broker, and a gateway that may die and boot anew at any
time.

* `life`: the two threads of the gateway, from boot on; `machine`: with the network and the
  broker, and from one boot to the next.
* `outside_simulates`: the main loop and the broker are those of the Last Will.
* `announced_eq`: what was last announced on a connection, read off the account of the
  session, which the channels' model has as well.
* `announced_settled`: **what was announced is what the channel holds**, by way of
  `succeeding_refined`.
* `retained_tells_presence`: **what a host that connects now is told**: the verdict on the
  frames heard since the last boot.
-/

namespace ClimateNode.RetainedStatus

open Automata Wire Mqtt Gateway

/-! ### From the log to the channels' model -/

/-- The last text on the status topic of the peer, on the newest connection of an
account. -/
def lastText (a : ℕ × List Sent) : Option Bytes :=
  (a.2.filter fun p => p.topic = .status .peer ∧ p.connection = a.1).getLast?.map Sent.payload

/-- The channels' model has it so. -/
lemma lastStatus_eq (g : Gateway.State) : g.lastStatus = lastText (g.account .peer) := by
  have hsame (p : Publication) : (decide (p.topic = .status .peer ∧ p.connection =
      g.connection .peer) = (decide (p.sent.topic = .status .peer ∧ p.sent.connection =
      g.connection .peer) && Publication.counted .peer p)) := by
    by_cases htopic : p.topic = .status .peer <;>
      simp [Publication.sent, Publication.counted, htopic, Topic.node]
  rw [State.lastStatus, statusOn, lastText, State.account, List.filter_map, List.filter_filter,
    List.getLast?_map, Option.map_map]
  simp only [hsame, Function.comp_def]
  rfl

/-- A session of the peer publishes its status to be retained, and nothing else. -/
lemma retain_iff {pb : Nanopb} {node : NodeIdentity} {topic : Topic} {payload : Bytes} {qos : Qos}
    {retain : Bool} (h : Published pb node .any .peer topic payload qos retain) :
    retain = true ↔ topic = .status .peer := by
  refine ⟨fun hretain => (h.retained hretain).1, fun htopic => ?_⟩
  generalize hi : SessionId.peer = i at h
  cases h with
  | online => cases hi
  | status st => rfl
  | pending c m hpay => cases c <;> simp_all [ChanId.topic, ChanId.retain]
  | answer j i' hack => cases htopic

/-- A new connection has nothing announced yet. -/
lemma lastText_fresh {n : ℕ} {sent : List Sent} (h : ∀ p ∈ sent, p.connection ≤ n) :
    lastText (n + 1, sent) = none := by
  have hnone : sent.filter (fun p => p.topic = .status .peer ∧ p.connection = n + 1) = [] :=
    List.filter_eq_nil_iff.mpr fun p hp => by
      have := h p hp
      simp only [decide_eq_true_eq, not_and]
      omega
  rw [lastText, hnone]
  rfl

/-- One publication more on the newest connection. -/
lemma lastText_concat (n : ℕ) (sent : List Sent) (topic : Topic) (payload : Bytes) :
    lastText (n, sent ++ [⟨n, topic, payload⟩]) =
      if topic = .status .peer then some payload else lastText (n, sent) := by
  by_cases htopic : topic = .status .peer <;> simp [lastText, List.filter_append, htopic]

/-- **What was last announced** is read off the account of the peer's session. -/
lemma announced_eq {pb : Nanopb} {node : NodeIdentity} {log : List Entry}
    (h : ∀ e ∈ log, ∀ param rc, e.event = .publish param rc →
      Published pb node .any .peer param.topic param.payload param.qos param.retain) :
    LastWill.announced log = lastText (accountOf log) ∧
      ∀ p ∈ (accountOf log).2, p.connection ≤ (accountOf log).1 := by
  induction log using List.reverseRecOn with
  | nil => exact ⟨rfl, by simp [accountOf]⟩
  | append_singleton log e ih =>
      obtain ⟨ih, hle⟩ := ih fun e' he' => h e' (List.mem_append_left _ he')
      rw [LastWill.announced_concat, accountOf_concat, LastWill.announce.eq_def, tally]
      generalize accountOf log = a at ih hle ⊢
      obtain ⟨n, sent⟩ := a
      cases hev : e.event with
      | connect rc =>
          by_cases hrc : rc = 0
          · simp only [hrc, if_true]
            exact ⟨(lastText_fresh hle).symm, fun p hp => (hle p hp).trans (Nat.le_succ n)⟩
          · simp only [hrc, if_false]
            exact ⟨ih, hle⟩
      | publish param rc =>
          have hretain := retain_iff (h e (by simp) param rc hev)
          by_cases hsent : rc = 0 ∧ param.topic ≠ .status .own
          · dsimp only
            rw [if_pos hsent]
            simp only [lastText_concat, hsent.1, true_and, hretain]
            refine ⟨by rw [ih], fun p hp => ?_⟩
            rcases List.mem_append.mp hp with hp | hp
            · exact hle p hp
            · rw [List.mem_singleton.mp hp]
          · -- only the own session has a message to be retained on another topic
            have hnot : ¬ (rc = 0 ∧ param.retain = true) := fun hboth =>
              hsent ⟨hboth.1, by simp [hretain.mp hboth.2]⟩
            simp only [if_neg hsent, if_neg hnot]
            exact ⟨ih, hle⟩
      | _ => exact ⟨ih, hle⟩

/-! ### The system -/

/-- What the two threads of the gateway keep. -/
abbrev Threads := ((HeartbeatQueue.State × List HeartbeatQueue.CanFrame) × RxLoop.State) ×
  WholeLoop.State

/-- The atomic actions of the gateway: those of the RX thread and its queue, a status stored
on `chan_relay_status`, and those of `main`. -/
inductive Thread where
  | rx (l : RxLoop.Label)
  | publish (online : Bool)
  | main (l : WholeLoop.Label)

/-- What a label is to the RX thread. -/
def Thread.toRx : Thread → Option RxLoop.Label
  | .rx l => some l
  | .publish online => some (.publish online)
  | .main _ => none

/-- What a label is to `main`. -/
def Thread.toMain : Thread → Option WholeLoop.Label
  | .rx _ => none
  | .publish online => some (.store .relayStatus (publishStatus online))
  | .main l => some l

/-- A label of one side alone stores nothing on the channel, and no publish fails. -/
def Thread.apart : Thread → Prop
  | .rx (.publish _) | .rx (.publishFail _) => False
  | .main (.store .relayStatus _) => False
  | _ => True

instance (l : Thread) : Decidable l.apart := by
  unfold Thread.apart
  split <;> infer_instance

/-- The gateway, the network and the broker. -/
structure State where
  threads : Threads
  net : Net SessionId String Topic Bytes

/-- A step of the gateway; the board loses its power and boots anew; the broker or the
network does something. -/
inductive Label where
  | thread (l : Thread)
  | reset (t0 : ℤ)
  | net (a : Net.Action SessionId)

/-- What a label is to the main loop and the broker. -/
def Label.toLastWill : Label → Option LastWill.Label
  | .thread (.main (.call l)) => some (.loop l)
  | .thread _ => none
  | .reset _ => some .reset
  | .net a => some (.net a)

/-- The main loop and the broker. -/
def State.outside (s : State) : LastWill.State := ⟨s.threads.2.loop, s.net⟩

section Machine

variable (pb : Nanopb) (node : NodeIdentity) (t0 : ℤ)

/-- The gateway from boot on, while the calls into zbus and those of the channels into MQTT
succeed, with a broker that delivers on subscriptions only. -/
def life : Machine Threads Thread :=
  .pair (RxLoop.machine t0)
    (((WholeLoop.machine pb node).restrict WholeLoop.brokerDelivers).restrict
      WholeLoop.callsSucceed)
    Thread.toRx Thread.toMain fun _ l => l.apart

instance (s : Threads) (l : Thread) : Decidable ((life pb node t0).enabled s l) :=
  inferInstanceAs (Decidable ((Machine.pair (RxLoop.machine t0)
    (((WholeLoop.machine pb node).restrict WholeLoop.brokerDelivers).restrict
      WholeLoop.callsSucceed) Thread.toRx Thread.toMain fun _ l => l.apart).enabled s l))

/-- The gateway allows the label.  The uptime at boot is in the first state only. -/
def allowed (s : State) : Label → Prop
  | .thread l => (life pb node 0).enabled s.threads l
  | .reset _ | .net _ => True

instance (s : State) (l : Label) : Decidable (allowed pb node s l) := by
  cases l <;> dsimp only [allowed] <;> infer_instance

/-- Which step may come next. -/
def enabled (s : State) (l : Label) : Prop :=
  allowed pb node s l ∧ (LastWill.machine pb node).enabledAt s.outside l.toLastWill

instance (s : State) (l : Label) : Decidable (enabled pb node s l) :=
  inferInstanceAs (Decidable (_ ∧ _))

/-- What each step does. -/
def next (s : State) (l : Label) : State where
  threads :=
    match l with
    | .thread l => (life pb node 0).next s.threads l
    | .reset t0 => (life pb node t0).init
    | .net _ => s.threads
  net := ((LastWill.machine pb node).nextAt s.outside l.toLastWill).net

/-- The machine of it all. -/
def machine : Machine State Label :=
  ⟨⟨(life pb node t0).init, .initial⟩, enabled pb node, next pb node⟩

instance (s : State) (l : Label) : Decidable ((machine pb node t0).enabled s l) :=
  inferInstanceAs (Decidable (enabled pb node s l))

end Machine

section Runs

variable {pb : Nanopb} {node : NodeIdentity} {t0 : ℤ} {s : State} {ls : List Label}

variable (pb node t0) in
/-- The main loop and the broker take a step of their own, or none. -/
lemma outside_simulates :
    (LastWill.machine pb node).Simulates (machine pb node t0) State.outside where
  init := .init _
  step s l hl := by
    cases l with
    | thread l =>
        cases l with
        | rx l | publish online => exact .inl rfl
        | main l =>
            cases l with
            | call l => exact .inr ⟨.loop l, hl.2 _ rfl, rfl⟩
            | _ => exact .inl rfl
    | reset t0 => exact .inr ⟨.reset, trivial, rfl⟩
    | net a => exact .inr ⟨.net a, trivial, rfl⟩

/-- Whenever the power went, the gateway is in a state of its own. -/
lemma threads_reachable (hrun : (machine pb node t0).Run ls s) :
    ∃ t0, (life pb node t0).Reachable s.threads := by
  induction hrun with
  | nil => exact ⟨t0, .init _⟩
  | @snoc ls s l _ hl ih =>
      cases l with
      | thread l =>
          obtain ⟨t, ks, hks⟩ := ih
          have hstep : (life pb node t).enabled s.threads l := hl.1
          exact ⟨t, ks ++ [l], hks.snoc hstep⟩
      | reset t => exact ⟨t, .init _⟩
      | net a => exact ih

/-- The channel holds what the RX thread published, and every publish went through. -/
lemma history_inductive : (life pb node t0).Inductive fun s =>
    (s.2.chan .relayStatus).history = s.1.2.published ∧ s.1.2.published = s.1.2.attempted where
  init := ⟨rfl, rfl⟩
  step s l h hl := by
    obtain ⟨-, -, hapart⟩ := hl
    cases l with
    | publish online =>
        exact ⟨congrArg (· ++ [publishStatus online]) h.1,
          congrArg (· ++ [publishStatus online]) h.2⟩
    | rx l =>
        obtain ⟨hpublished, hattempted⟩ := RxLoop.stored_next (s := s.1.2) (l := l) fun online => by
          refine ⟨?_, ?_⟩ <;>
          · rintro rfl
            exact hapart
        exact ⟨h.1.trans hpublished.symm, hpublished.trans (h.2.trans hattempted.symm)⟩
    | main l =>
        refine ⟨(WholeLoop.history_of_ne_store fun m heq => ?_).trans h.1, h.2⟩
        subst heq
        exact hapart

/-- At the top of a pass, with the peer session serving and no signal pending, what was last
announced to the broker is what the channel holds. -/
lemma announced_settled {w : WholeLoop.State} {ks : List WholeLoop.Label}
    (hrun : (((WholeLoop.machine pb node).restrict WholeLoop.brokerDelivers).restrict
      WholeLoop.callsSucceed).Run ks w)
    (hserving : (w.loop.sessions .peer).state = .serving) (hpc : w.loop.pc = .top)
    (hfree : (w.chan .relayStatus).phase = .free) (hquiet : ¬ (w.chan .relayStatus).signalled) :
    LastWill.announced (w.loop.sessions .peer).log = believed (w.chan .relayStatus).content := by
  obtain ⟨g, hshows, ⟨⟨⟨hpace, -⟩, -⟩, hann⟩⟩ :=
    (WholeLoop.succeeding_refined pb node).invariant (announcing_inductive pb) hrun
  obtain ⟨ps, hpasses⟩ := WholeLoop.passes_reachable ⟨ks, hrun.of_restrict⟩
  have hand : WholeLoop.InHand w := hrun.of_restrict.of_restrict.invariant
    (WholeLoop.inHand_inductive pb node)
  -- a loop that serves has created its descriptors
  have hcreated : w.creating = none := by
    by_contra hne
    rw [hand.booting hne] at hserving
    cases hserving
  have hplace : w.place = .connect := by
    rw [WholeLoop.place_eq hcreated (.inl (by simp [hpc])), hpc]
    rfl
  have hsession : g.session .peer = .serving := by
    rw [hshows.session, WholeLoop.State.shown, hplace]
    simpa using hserving
  have hlog : ∀ e ∈ (w.loop.sessions .peer).log, ∀ param rc, e.event = .publish param rc →
      Published pb node .any .peer param.topic param.payload param.qos param.retain := by
    rintro ⟨st, event⟩ he param rc rfl
    exact published_of_run hpasses.of_restrict he
  calc LastWill.announced (w.loop.sessions .peer).log
      = lastText (w.loop.sessions .peer).account := (announced_eq hlog).1
    _ = lastText (g.account .peer) := by rw [hshows.account]
    _ = g.lastStatus := (lastStatus_eq g).symm
    _ = believed g.status.content := Presence.lastStatus_settled hpace hann hsession
        (hshows.pc.trans hplace) (by rwa [State.status, hshows.chan])
        (by rwa [State.status, hshows.chan])
    _ = believed (w.chan .relayStatus).content := by rw [State.status, hshows.chan]

/-- **What a host that connects now is told**, in every run of the gateway, the network and
the broker, in which the board may lose its power at any time and the calls of the channels
into MQTT succeed.  Once the peer session serves, the loop is at the top of a pass with no
listener running and no signal pending, the RX thread is not about to publish, and what was
sent has arrived, the retained status of the peer is the verdict on the frames heard since
the last boot. -/
theorem retained_tells_presence (hrun : (machine pb node t0).Run ls s)
    (hserving : (s.threads.2.loop.sessions .peer).state = .serving)
    (hpc : s.threads.2.loop.pc = .top)
    (hfree : (s.threads.2.chan .relayStatus).phase = .free)
    (hquiet : ¬ (s.threads.2.chan .relayStatus).signalled)
    (hidle : s.threads.1.2.pc.pending = [])
    (hknown : s.threads.1.2.liveness.state ≠ .unknown)
    (hopen : s.net.session (LastWill.clientId .peer) ≠ none)
    (harrived : (s.net.line .peer).sent = []) :
    s.net.retained (.status .peer) = Presence.presenceText s.threads.1.2.liveness.state ∧
      ∀ last ∈ s.threads.1.2.turns.getLast?, RxLoop.Verdict s.threads.1.2 last := by
  obtain ⟨t, ks, hlife⟩ := threads_reachable hrun
  obtain ⟨ls', houtside⟩ := (outside_simulates pb node t0).reachable hrun
  have hkept : RxLoop.Kept s.threads.1.2 := hlife.fst.snd.invariant (RxLoop.kept_inductive t)
  have hsees := (hlife.fst.invariant (RxLoop.sees_inductive t)).2.turns
  obtain ⟨hhist, hall⟩ := hlife.invariant history_inductive
  have hannounced : LastWill.announced (s.threads.2.loop.sessions .peer).log =
      Presence.presenceText s.threads.1.2.liveness.state :=
    (announced_settled hlife.snd hserving hpc hfree hquiet).trans
      (Presence.believed_verdict hkept hidle hhist hall)
  refine ⟨?_, fun last hlast => hkept.verdict hsees hlast⟩
  obtain ⟨payload, hpayload⟩ : ∃ payload,
      Presence.presenceText s.threads.1.2.liveness.state = some payload := by
    cases hst : s.threads.1.2.liveness.state with
    | unknown => exact absurd hst hknown
    | online | offline => exact ⟨_, rfl⟩
  rw [hpayload]
  exact LastWill.arrived_of_serving houtside hserving hopen harrived (hannounced.trans hpayload)

/-- The peer session comes up, the RX thread hears a beat, the next pass publishes what it
says, and the broker receives it. -/
def beatToBroker : List Label :=
  ([.create .telemetry, .create .relayTelemetry, .create .relayAck, .create .relayStatus] ++
    ([.top 0, .connect .own (-116) 5, .connect .peer 0 6] : List Passes.Label).map .call
      : List WholeLoop.Label).map (.thread ∘ .main) ++
    [.net (.receive .peer)] ++
    (([.poll (some fun d => d == .sock .peer), .input .own 0 0, .event .peer (.connack 0),
      .input .peer 0 0, .clock 7, .step .own ⟨none, 0, 0, 0, 0⟩] : List Passes.Label).map .call ++
    [.peek] ++
    ([.step .peer ⟨some default, 0, 0, 0, 0⟩, .publish .telemetry none 0 0,
      .publish .relayTelemetry none 0 0, .publish .relayAck none 0 0,
      .publish .relayStatus none 0 0] : List Passes.Label).map .call
      : List WholeLoop.Label).map (.thread ∘ .main) ++
    RxLoop.firstBeat.map (.thread ∘ .rx) ++ [.thread (.publish true)] ++
    ([.notify .relayStatus, .unlock .relayStatus] ++
    ([.top 10, .connect .own 0 0, .connect .peer 0 0,
      .poll (some fun d => d == .evt .relayStatus), .input .own 0 0, .input .peer 0 0,
      .clock 11, .step .own ⟨none, 0, 0, 0, 0⟩, .step .peer ⟨none, 0, 0, 0, 0⟩,
      .publish .telemetry none 0 0, .publish .relayTelemetry none 0 0,
      .publish .relayAck none 0 0] : List Passes.Label).map .call ++
    [.drain .relayStatus, .read .relayStatus,
      .call (.publish .relayStatus (some (publishStatus true)) 0 0)]
      : List WholeLoop.Label).map (.thread ∘ .main) ++
    [.net (.receive .peer)]

theorem beatToBroker_tells : ∃ s,
    (machine Nanopb.proto3 LastWill.board 0).Run beatToBroker s ∧
    s.net.retained (.status .peer) = some (cstr "online") ∧
    s.net.retained (.status .peer) = Presence.presenceText s.threads.1.2.liveness.state := by
  have hrun : (machine Nanopb.proto3 LastWill.board 0).Run beatToBroker _ :=
    Machine.run_of_exec rfl
  exact ⟨_, hrun, by decide, (retained_tells_presence hrun (by decide) (by decide) (by decide)
    (by decide) (by decide) (by decide) (by decide) (by decide)).1⟩

end Runs

end ClimateNode.RetainedStatus
