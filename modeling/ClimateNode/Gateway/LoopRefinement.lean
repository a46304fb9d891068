import ClimateNode.Gateway.LoopCalls
import ClimateNode.Gateway.StatusTopic

/-!
The two models of `main` of `gateway/src/main.cpp` agree: `WholeLoop.machine` refines the
model of the passes and the model of the channels.

* `passes_refined`, `channels_refined`: **every step is answered**.
* `main_refines`: a run of the loop is a run of both, and each session has handed to the
  MQTT library what the channels' model publishes for its node.
* `succeeding_refined`: while the reads and the publishes of the loop succeed, so do those
  of the answers, and what is proved of such runs of the channels holds of the loop.
-/

namespace ClimateNode.Gateway.WholeLoop

open Automata Wire

/-! ### Runs -/

section Runs

variable {pb : Nanopb} {node : NodeIdentity} {s : State} {ls : List Label}

variable (pb node) in
/-- A run of the loop is one of its passes. -/
theorem passes_refined : Machine.Refines ((machine pb node).restrict brokerDelivers)
    ((Passes.machine pb node).restrict Passes.brokerDelivers) (fun _ l => l.toPasses.toList)
    fun s p => p = s.loop where
  init := rfl
  step s p l _ _ h hl := by
    subst h
    cases l with
    | call l => exact ⟨_, .one ⟨hl.1.2.1, hl.2⟩, rfl⟩
    | store | notify | unlock | create | peek | drain | read => exact ⟨_, .nil _, rfl⟩

lemma passes_reachable (hs : ((machine pb node).restrict brokerDelivers).Reachable s) :
    ((Passes.machine pb node).restrict Passes.brokerDelivers).Reachable s.loop := by
  obtain ⟨ls, hrun⟩ := hs
  obtain ⟨p, hp, rfl⟩ := (passes_refined pb node).run hrun
  exact ⟨_, hp⟩

/-- A message comes in on a session that is polled, and that subscribed to its topic. -/
lemma arrival_of_reachable (hs : ((machine pb node).restrict brokerDelivers).Reachable s)
    {i : SessionId} {pub : Arrival} {answers : ArrivalAnswers}
    (hl : ((machine pb node).restrict brokerDelivers).enabled s
      (.call (.event i (.publish pub answers)))) :
    (s.loop.sessions i).state ≠ .idle ∧ (pub.topic = kPeerTopicCommand ↔ i = .peer) := by
  obtain ⟨ls, hloop⟩ := passes_reachable hs
  have hpolled := hloop.invariant ((Passes.polled_inductive pb node).restrict _)
  obtain ⟨⟨-, ⟨hpc, hread⟩, -⟩, hdelivers⟩ := hl
  obtain ⟨ops, hops⟩ := Passes.session_reachable_serving hloop i
  have htopic := (hops.invariant ((subscribed_inductive i).restrict _) _ hdelivers).1
  refine ⟨hpolled i i hpc (.inl rfl) hread.1, ?_⟩
  cases i <;> simp_all [commandTopics, kTopicCommand, kPeerTopicCommand]

variable (pb node) in
/-- **Every step is answered** by the channels' model. -/
theorem channels_refined : Machine.Refines ((machine pb node).restrict brokerDelivers)
    (Gateway.machine pb) (answer pb node) Shows where
  init := by
    refine ⟨rfl, rfl, fun i => ?_, fun hp => absurd hp id, fun i => rfl⟩
    simp [State.shown, State.place, machine, Machine.restrict, boot, Gateway.machine, Gateway.boot,
      Passes.boot, Session.initial]
  step s g l hs _ h hl := by
    have hand : InHand s := by
      obtain ⟨ls, hrun⟩ := hs
      exact hrun.invariant ((inHand_inductive pb node).restrict _)
    cases l with
    | store c m => exact answered_store h c m hl.1
    | notify c => exact answered_notify h c hl.1
    | unlock c => exact answered_unlock h c hl.1
    | create c => exact answered_create h hand c hl.1
    | peek => exact answered_peek h hand hl.1
    | drain c => exact answered_drain h hand c hl.1
    | read c => exact answered_read h hand c hl.1
    | call l =>
        cases l with
        | top now => exact answered_top h hand now hl.1
        | connect i rc uptime => exact answered_connect h hand i rc uptime hl.1
        | poll revents =>
            cases revents with
            | none => exact answered_pollFail h hand hl.1
            | some revents => exact answered_poll h hand revents hl.1
        | event i evt =>
            cases evt with
            | publish pub answers =>
                obtain ⟨hne, htopic⟩ := arrival_of_reachable hs hl
                exact answered_publish h hand i pub answers hl.1 hne htopic
            | connack result =>
                exact answered_event h hand i _ hl.1 rfl
                  (Sessions.account_on (account_connack _ result))
            | disconnect => exact answered_event h hand i _ hl.1 rfl (Sessions.account_on rfl)
            | puback | suback =>
                exact answered_event h hand i _ hl.1 rfl
                  (Sessions.account_on (accountOf_concat _ _))
            | other => exact answered_event h hand i _ hl.1 rfl fun _ => rfl
        | input i rc uptime => exact answered_input h hand i rc uptime hl.1
        | clock now => exact answered_clock h hand now hl.1
        | step i answers => exact answered_step h hand i answers hl.1
        | publish c msg rc uptime => exact answered_flush h hand c msg rc uptime hl.1
        | disconnected i => exact answered_disconnected h hand i hl.1

/-- **The two models of `main` agree**: a run of the loop is a run of its passes, and it is
a run of the channels' model, in which each session has opened as many connections and
published the same messages, on the same connections and in the same order, as the MQTT
library has taken from it. -/
theorem main_refines (hrun : ((machine pb node).restrict brokerDelivers).Run ls s) :
    ((Passes.machine pb node).restrict Passes.brokerDelivers).Run (ls.filterMap Label.toPasses)
        s.loop ∧
      ∃ g, (Gateway.machine pb).Run
        (((machine pb node).restrict brokerDelivers).replay (answer pb node) boot ls) g ∧
        Shows s g := by
  obtain ⟨p, hp, rfl⟩ := (passes_refined pb node).run hrun
  rw [Machine.replay_toList] at hp
  exact ⟨hp, (channels_refined pb node).run hrun⟩

/-- The peer session comes up, and the next pass relays what its node sent. -/
def relayedRun : List Label :=
  [.create .telemetry, .create .relayTelemetry, .create .relayAck, .create .relayStatus] ++
    ([.top 0, .connect .own (-116) 5, .connect .peer 0 6,
      .poll (some fun d => d == .sock .peer), .input .own 0 0, .event .peer (.connack 0),
      .input .peer 0 0, .clock 7, .step .own ⟨none, 0, 0, 0, 0⟩] : List Passes.Label).map .call ++
    [.peek] ++
    ([.step .peer ⟨some default, 0, 0, 0, 0⟩, .publish .telemetry none 0 0,
      .publish .relayTelemetry none 0 0, .publish .relayAck none 0 0,
      .publish .relayStatus none 0 0] : List Passes.Label).map .call ++
    [.store .relayTelemetry ⟨kPeerNodeId, [8, 1], by decide⟩, .notify .relayTelemetry,
      .unlock .relayTelemetry] ++
    ([.top 10, .connect .own 0 0, .connect .peer 0 0,
      .poll (some fun d => d == .evt .relayTelemetry), .input .own 0 0, .input .peer 0 0,
      .clock 11, .step .own ⟨none, 0, 0, 0, 0⟩, .step .peer ⟨none, 0, 0, 0, 0⟩,
      .publish .telemetry none 0 0] : List Passes.Label).map .call ++
    [.drain .relayTelemetry, .read .relayTelemetry,
      .call (.publish .relayTelemetry (some ⟨kPeerNodeId, [8, 1], by decide⟩) 0 0)]

theorem relayedRun_refines : ∃ s, ((machine Nanopb.proto3 ⟨cstr "nucleo_h753zi",
      cstr "nucleo-1"⟩).restrict brokerDelivers).Run relayedRun s ∧
    ∃ g, g.account .peer = (1, [⟨1, .telemetry .peer, [8, 1]⟩]) ∧ Shows s g := by
  have hrun : ((machine Nanopb.proto3 ⟨cstr "nucleo_h753zi", cstr "nucleo-1"⟩).restrict
      brokerDelivers).Run relayedRun _ := Machine.run_of_exec rfl
  obtain ⟨g, -, hshows⟩ := (main_refines hrun).2
  exact ⟨_, hrun, g, (hshows.account .peer).trans rfl, hshows⟩

end Runs

/-! ### While the calls succeed -/

/-- The reads and the publishes that the channels' model has succeed: those of
`session_serving` for the peer, and those of the publishing phase. -/
def callsSucceed (s : State) : Label → Prop
  | .call (.step .peer answers) =>
      s.accepted → s.taken .relayStatus ≠ none ∧ answers.publish = 0
  | .call (.publish c _ rc _) =>
      (s.chan c).progress ≠ .drained ∧ ((s.chan c).progress = .holding → rc = 0)
  | _ => True

instance (s : State) (l : Label) : Decidable (callsSucceed s l) :=
  match l with
  | .call (.step .peer answers) => decidable_of_iff
      (s.accepted → s.taken .relayStatus ≠ none ∧ answers.publish = 0) Iff.rfl
  | .call (.publish c _ rc _) => decidable_of_iff
      ((s.chan c).progress ≠ .drained ∧ ((s.chan c).progress = .holding → rc = 0)) Iff.rfl
  | .call (.step .own _) | .call (.top _) | .call (.connect ..) | .call (.poll _)
  | .call (.event ..) | .call (.input ..) | .call (.clock _) | .call (.disconnected _)
  | .store .. | .notify _ | .unlock _ | .create _ | .peek | .drain _ | .read _ => isTrue trivial

section Succeed

variable {pb : Nanopb} {node : NodeIdentity} {s : State}

lemma givenUp_succeeds (g : Gateway.State) {i : SessionId} {t t' : Session} {k : Gateway.Label}
    (hk : k ∈ givenUp i t t') : Gateway.callsSucceed g k := by
  rw [givenUp] at hk
  split_ifs at hk
  · cases hk
  · obtain rfl := List.mem_singleton.mp hk
    trivial

lemma served_succeeds (g : Gateway.State) {i : SessionId} {answers : StepAnswers}
    (hl : enabled s (.call (.step i answers))) (h : callsSucceed s (.call (.step i answers)))
    (hserve : (s.loop.sessions i).state = .connecting ∧ (s.loop.sessions i).connected = true)
    {k : Gateway.Label} (hk : k ∈ s.served answers.publish i) : Gateway.callsSucceed g k := by
  cases i with
  | own =>
      obtain rfl := List.mem_singleton.mp hk
      trivial
  | peer =>
      obtain ⟨htaken, hrc⟩ := h ⟨hl.2.1, hserve⟩
      obtain ⟨st, hst⟩ := Option.ne_none_iff_exists'.mp htaken
      rw [State.served, hst] at hk
      obtain rfl := List.mem_singleton.mp hk
      split_ifs
      · trivial
      · exact decide_eq_true hrc

/-- Where the calls of a label succeed, so do those of its answer. -/
lemma answer_succeeds (g : Gateway.State) {l : Label} (hl : enabled s l) (h : callsSucceed s l)
    {k : Gateway.Label} (hk : k ∈ answer pb node s l) : Gateway.callsSucceed g k := by
  cases l with
  | store | notify | unlock | create | drain | read =>
      obtain rfl := List.mem_singleton.mp hk
      trivial
  | peek =>
      rcases List.mem_pair.mp hk with rfl | rfl <;> trivial
  | call l =>
      change k ∈ s.answerCall pb node l at hk
      cases l with
      | top | disconnected => cases hk
      | clock now =>
          obtain rfl := List.mem_singleton.mp hk
          trivial
      | connect i rc uptime =>
          rw [State.answerCall] at hk
          split_ifs at hk
          · obtain rfl := List.mem_singleton.mp hk
            trivial
          · cases hk
      | poll revents =>
          cases revents with
          | none => cases hk
          | some revents =>
              obtain rfl := List.mem_singleton.mp hk
              trivial
      | event i evt =>
          cases evt with
          | publish pub answers =>
              rw [State.answerCall, State.acked] at hk
              split_ifs at hk
              · split at hk
                · obtain rfl := List.mem_singleton.mp hk
                  trivial
                · cases hk
              · cases hk
          | _ => cases hk
      | input i rc uptime =>
          rw [State.answerCall] at hk
          split_ifs at hk
          · exact givenUp_succeeds g hk
          · cases hk
      | step i answers =>
          rcases List.mem_append.mp hk with hk | hk
          · split_ifs at hk with hserve
            · exact served_succeeds g hl h hserve hk
            · exact givenUp_succeeds g hk
          · cases i with
            | own => cases hk
            | peer =>
                obtain rfl := List.mem_singleton.mp hk
                trivial
      | publish c msg rc uptime =>
          obtain ⟨hread, hpub⟩ := h
          rw [State.answerCall] at hk
          cases hprog : (s.chan c).progress with
          | drained => exact absurd hprog hread
          | idle =>
              rw [hprog] at hk
              obtain rfl := List.mem_singleton.mp hk
              trivial
          | holding =>
              rw [hprog] at hk
              obtain rfl := List.mem_singleton.mp hk
              split_ifs
              · trivial
              · exact decide_eq_true (hpub hprog)

variable (pb node) in
/-- **While the calls succeed**, the channels' model answers with calls that do. -/
theorem succeeding_refined :
    Machine.Refines (((machine pb node).restrict brokerDelivers).restrict callsSucceed)
      ((Gateway.machine pb).restrict Gateway.callsSucceed) (answer pb node) Shows := by
  have hok : ∀ s l, ((machine pb node).restrict brokerDelivers).enabled s l → callsSucceed s l →
      ∀ k ∈ answer pb node s l, Gateway.callsSucceed Gateway.boot k := fun s l hl h k hk =>
    answer_succeeds Gateway.boot hl.1 h hk
  exact (channels_refined pb node).restrict hok

end Succeed

end ClimateNode.Gateway.WholeLoop
