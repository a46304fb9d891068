import ClimateNode.Gateway.Passes

/-!
`main` of `gateway/src/main.cpp` whole: its passes over the two sessions, and the four
channels it reads, with the threads that feed them.  `Passes.machine` takes what is read
off a channel as an answer, and `Gateway.machine` takes what becomes of a session as one;
here each is asked of the other.

* `WholeLoop.machine`: the loop, an atomic action a label.  `call` is a call of
  `Passes.machine`, and what it is answered is what the channels hold.
* `inHand_inductive`: where the loop stands when it has something in hand.
-/

namespace ClimateNode.Gateway.WholeLoop

open Automata Wire

/-! ### The machine -/

/-- The passes, the channels, and the descriptor that `main` creates next. -/
structure State where
  loop : Passes.State
  chan : (c : ChanId) → Doorbell.State c.Msg
  creating : Option ChanId

/-- The atomic actions: the producers' three, and the loop's.  `peek` is the read of
`session_serving`, `drain` and `read` are those of the publishing phase. -/
inductive Label where
  | store (c : ChanId) (m : c.Msg)
  | notify (c : ChanId)
  | unlock (c : ChanId)
  | create (c : ChanId)
  | peek
  | drain (c : ChanId)
  | read (c : ChanId)
  | call (l : Passes.Label)

/-- What a label is to `Passes.machine`. -/
def Label.toPasses : Label → Option Passes.Label
  | .call l => some l
  | _ => none

instance : (c : ChanId) → DecidableEq c.Msg
  | .telemetry => inferInstanceAs (DecidableEq SensorReading)
  | .relayTelemetry => inferInstanceAs (DecidableEq RelayUp)
  | .relayAck => inferInstanceAs (DecidableEq RelayUp)
  | .relayStatus => inferInstanceAs (DecidableEq RelayStatus)

/-- What `main` has read from a channel and not used yet. -/
def State.taken (s : State) (c : ChanId) : Option c.Msg :=
  if (s.chan c).progress = .holding then some (s.chan c).buffer.2 else none

/-- The loop is in `session_serving` of the peer. -/
def State.accepted (s : State) : Prop :=
  s.loop.pc = .step .peer ∧ (s.loop.sessions .peer).state = .connecting ∧
    (s.loop.sessions .peer).connected = true

/-- The loop is at a channel whose descriptor was found readable, and its session
serves. -/
def State.due (s : State) (c : ChanId) : Prop :=
  s.loop.pc = .publish c ∧ s.loop.readable (.evt c) ∧
    (s.loop.sessions c.session).state = .serving

/-- The answers of a call that are the channels' to give.  No call into the MQTT library
is under way while something is in hand. -/
def State.answered (s : State) : Passes.Label → Prop
  | .poll (some revents) => ∀ c, (s.loop.sessions c.session).state = .serving →
      revents (.evt c) = true → (s.chan c).signalled
  | .step .peer answers => s.accepted → answers.status = s.taken .relayStatus
  | .publish c msg _ _ =>
      msg = s.taken c ∧ (s.due c → (s.chan c).progress = .idle → ¬ (s.chan c).signalled)
  | .disconnected _ => ∀ c, (s.chan c).progress = .idle
  | _ => True

instance (s : State) : Decidable s.accepted := inferInstanceAs (Decidable (_ ∧ _))

instance (s : State) (c : ChanId) : Decidable (s.due c) := inferInstanceAs (Decidable (_ ∧ _))

instance (s : State) (l : Passes.Label) : Decidable (s.answered l) :=
  match l with
  | .poll (some revents) => decidable_of_iff (∀ c, (s.loop.sessions c.session).state = .serving →
      revents (.evt c) = true → (s.chan c).signalled) Iff.rfl
  | .step .peer answers =>
      decidable_of_iff (s.accepted → answers.status = s.taken .relayStatus) Iff.rfl
  | .publish c msg _ _ => decidable_of_iff (msg = s.taken c ∧
      (s.due c → (s.chan c).progress = .idle → ¬ (s.chan c).signalled)) Iff.rfl
  | .disconnected _ => decidable_of_iff (∀ c, (s.chan c).progress = .idle) Iff.rfl
  | .poll none | .step .own _ | .top _ | .connect .. | .event .. | .input .. | .clock _ =>
      isTrue trivial

section Machine

variable (pb : Nanopb) (node : NodeIdentity)

/-- The channel a label acts on, and how.  A message in hand is published, or there is
nothing to publish of it. -/
def effect (s : State) : Label → Option ((c : ChanId) × Doorbell.Label c.Msg)
  | .store c m => some ⟨c, .store m⟩
  | .notify c => some ⟨c, .notify⟩
  | .unlock c => some ⟨c, .unlock⟩
  | .create c => some ⟨c, .create⟩
  | .peek => some ⟨.relayStatus, .peek⟩
  | .drain c => some ⟨c, .drain⟩
  | .read c => some ⟨c, .read⟩
  | .call (.step .peer _) => (s.taken .relayStatus).map fun st =>
      ⟨.relayStatus, if RelayStatus.nodeId st = 0 then .discard else .hand⟩
  | .call (.publish c _ _ _) =>
      match (s.chan c).progress with
      | .idle => none
      | .drained => some ⟨c, .readFail⟩
      | .holding => some ⟨c, if payloadOf pb c (s.chan c).buffer.2 = none then .discard else .hand⟩
  | .call _ => none

/-- Which label may come next. -/
def enabled (s : State) : Label → Prop
  | .store c m => produced c m ∧ Doorbell.enabled (s.chan c) (.store m)
  | .notify c => Doorbell.enabled (s.chan c) .notify
  | .unlock c => Doorbell.enabled (s.chan c) .unlock
  | .create c => s.creating = some c ∧ Doorbell.enabled (s.chan c) .create
  | .peek => s.accepted ∧ Doorbell.enabled (s.chan .relayStatus) .peek
  | .drain c => s.due c ∧ Doorbell.enabled (s.chan c) .drain
  | .read c => s.due c ∧ Doorbell.enabled (s.chan c) .read
  | .call l => s.creating = none ∧ Passes.enabled s.loop l ∧ s.answered l

instance (s : State) (l : Label) : Decidable (enabled s l) := by
  cases l <;> dsimp only [enabled] <;> infer_instance

/-- The channels after a step on one of them. -/
def State.chanNext (s : State) : Option ((c : ChanId) × Doorbell.Label c.Msg) →
    (c : ChanId) → Doorbell.State c.Msg
  | none => s.chan
  | some b => Function.update s.chan b.1 (Doorbell.next .counting (s.chan b.1) b.2)

/-- What each step does. -/
def next (s : State) (l : Label) : State where
  loop := l.toPasses.elim s.loop (Passes.next pb node s.loop)
  chan := s.chanNext (effect pb s l)
  creating :=
    match l with
    | .create c => c.succ
    | _ => s.creating

/-- Boot. -/
def boot : State := ⟨Passes.boot, fun _ => Doorbell.State.empty, some .telemetry⟩

/-- The machine of `main`. -/
def machine : Machine State Label := ⟨boot, enabled, next pb node⟩

instance (s : State) (l : Label) : Decidable ((machine pb node).enabled s l) :=
  inferInstanceAs (Decidable (enabled s l))

end Machine

/-- The broker delivers on subscriptions only. -/
def brokerDelivers (s : State) : Label → Prop
  | .call l => Passes.brokerDelivers s.loop l
  | _ => True

instance (s : State) (l : Label) : Decidable (brokerDelivers s l) :=
  match l with
  | .call l => inferInstanceAs (Decidable (Passes.brokerDelivers s.loop l))
  | .store .. | .notify _ | .unlock _ | .create _ | .peek | .drain _ | .read _ => isTrue trivial

/-! ### What is in hand -/

/-- What the loop holds, or is about to read, and where it then stands. -/
structure InHand (s : State) : Prop where
  booting : s.creating ≠ none → s.loop = Passes.boot
  held : ∀ c, (s.chan c).progress ≠ .idle →
    s.due c ∨ c = .relayStatus ∧ s.accepted ∧ (s.chan c).progress = .holding

section Steps

variable {pb : Nanopb} {node : NodeIdentity} {s : State} {l : Label}

lemma chan_of_effect {c : ChanId} {b : Doorbell.Label c.Msg} (h : effect pb s l = some ⟨c, b⟩) :
    (next pb node s l).chan c = Doorbell.next .counting (s.chan c) b := by
  simp [next, h, State.chanNext]

lemma chan_of_not_effect {c : ChanId} (h : ∀ b, effect pb s l ≠ some ⟨c, b⟩) :
    (next pb node s l).chan c = s.chan c := by
  cases he : effect pb s l with
  | none => simp [next, he, State.chanNext]
  | some e =>
      have hne : c ≠ e.1 := by
        rintro rfl
        exact h e.2 he
      simp [next, he, State.chanNext, hne]

/-- Nothing but a producer's store is a store. -/
lemma store_of_effect {c : ChanId} {m : c.Msg} (h : effect pb s l = some ⟨c, .store m⟩) :
    l = .store c m := by
  cases l with
  | store c' m' =>
      obtain ⟨rfl, heq⟩ := Sigma.mk.inj (Option.some.inj h)
      obtain rfl := Doorbell.Label.store.inj (eq_of_heq heq)
      rfl
  | notify | unlock | create | drain | read | peek =>
      obtain ⟨rfl, heq⟩ := Sigma.mk.inj (Option.some.inj h)
      cases eq_of_heq heq
  | call l =>
      cases l with
      | step i answers =>
          cases i with
          | own => cases h
          | peer =>
              obtain ⟨st, -, heq⟩ := Option.map_eq_some_iff.mp h
              obtain ⟨rfl, heq⟩ := Sigma.mk.inj heq
              split_ifs at heq <;> cases eq_of_heq heq
      | publish c' msg rc uptime =>
          simp only [effect] at h
          split at h
          · cases h
          · obtain ⟨rfl, heq⟩ := Sigma.mk.inj (Option.some.inj h)
            cases eq_of_heq heq
          · obtain ⟨rfl, heq⟩ := Sigma.mk.inj (Option.some.inj h)
            split_ifs at heq <;> cases eq_of_heq heq
      | _ => cases h

/-- Only a store adds to what was stored. -/
lemma history_of_ne_store {c : ChanId} (h : ∀ m, l ≠ .store c m) :
    ((next pb node s l).chan c).history = (s.chan c).history := by
  by_cases hact : ∃ b, effect pb s l = some ⟨c, b⟩
  · obtain ⟨b, hb⟩ := hact
    rw [chan_of_effect hb]
    cases b with
    | store m => exact absurd (store_of_effect hb) (h m)
    | _ => rfl
  · rw [chan_of_not_effect (not_exists.mp hact)]

/-- A call puts down what it takes. -/
lemma idle_of_effect {c : ChanId} {b : Doorbell.Label c.Msg} {l : Passes.Label}
    (h : effect pb s (.call l) = some ⟨c, b⟩) :
    (Doorbell.next .counting (s.chan c) b).progress = .idle := by
  cases l with
  | step i answers =>
      cases i with
      | own => simp [effect] at h
      | peer =>
          obtain ⟨st, -, heq⟩ := Option.map_eq_some_iff.mp h
          obtain ⟨rfl, heq⟩ := Sigma.mk.inj heq
          obtain rfl := eq_of_heq heq
          split_ifs <;> rfl
  | publish c' msg rc uptime =>
      simp only [effect] at h
      split at h
      · cases h
      · obtain ⟨rfl, heq⟩ := Sigma.mk.inj (Option.some.inj h)
        obtain rfl := eq_of_heq heq
        rfl
      · obtain ⟨rfl, heq⟩ := Sigma.mk.inj (Option.some.inj h)
        obtain rfl := eq_of_heq heq
        split_ifs <;> rfl
  | _ => simp [effect] at h

/-- A call takes what is in hand. -/
lemma effect_of_held (h : InHand s) {l : Passes.Label} (hl : enabled s (.call l)) {c : ChanId}
    (hc : (s.chan c).progress ≠ .idle) : ∃ b, effect pb s (.call l) = some ⟨c, b⟩ := by
  obtain ⟨-, hcall, hans⟩ := hl
  have hpc : s.loop.pc = .publish c ∨
      c = .relayStatus ∧ s.loop.pc = .step .peer ∧ (s.chan c).progress = .holding :=
    (h.held c hc).imp And.left fun hacc => ⟨hacc.1, hacc.2.1.1, hacc.2.2⟩
  cases l with
  | step i answers =>
      have hi : s.loop.pc = .step i := hcall
      obtain ⟨rfl, hpc, hhold⟩ := hpc.resolve_left (by simp [hi])
      obtain rfl : i = .peer := Passes.Pc.step.inj (hi.symm.trans hpc)
      exact ⟨_, by simp only [effect, State.taken, hhold, if_true]; rfl⟩
  | publish c' msg rc uptime =>
      have hc' : s.loop.pc = .publish c' := hcall
      obtain hpc := hpc.resolve_right (by simp [hc'])
      obtain rfl : c' = c := Passes.Pc.publish.inj (hc'.symm.trans hpc)
      cases hp : (s.chan c').progress with
      | idle => exact absurd hp hc
      | drained => exact ⟨_, by simp only [effect, hp]; rfl⟩
      | holding => exact ⟨_, by simp only [effect, hp]; rfl⟩
  | disconnected i => exact absurd (hans c) hc
  | event i evt =>
      have hi : s.loop.pc = .input i := hcall.1
      simp [hi] at hpc
  | top | connect | poll | input | clock => simp_all [Passes.enabled]

/-- After a call nothing is in hand. -/
lemma idle_of_call (h : InHand s) {l : Passes.Label} (hl : enabled s (.call l)) (c : ChanId) :
    ((next pb node s (.call l)).chan c).progress = .idle := by
  by_cases hact : ∃ b, effect pb s (.call l) = some ⟨c, b⟩
  · obtain ⟨b, hb⟩ := hact
    rw [chan_of_effect hb]
    exact idle_of_effect hb
  · rw [chan_of_not_effect (not_exists.mp hact)]
    exact not_not.mp fun hne => hact (effect_of_held h hl hne)

variable (pb node) in
theorem inHand_inductive : (machine pb node).Inductive InHand where
  init := ⟨fun _ => rfl, fun c hne => absurd rfl hne⟩
  step s l h hl := by
    -- short of a call, the loop stands where it did, and one channel changes hands
    have hstep {c' : ChanId} {b : Doorbell.Label c'.Msg} (he : effect pb s l = some ⟨c', b⟩)
        (hloop : (next pb node s l).loop = s.loop)
        (hnew : (Doorbell.next .counting (s.chan c') b).progress ≠ .idle → s.due c' ∨
          c' = .relayStatus ∧ s.accepted ∧
            (Doorbell.next .counting (s.chan c') b).progress = .holding) (c : ChanId)
        (hne : ((next pb node s l).chan c).progress ≠ .idle) :
        (next pb node s l).due c ∨ c = .relayStatus ∧ (next pb node s l).accepted ∧
          ((next pb node s l).chan c).progress = .holding := by
      rw [State.due, State.accepted, hloop]
      by_cases hcc : c = c'
      · subst hcc
        rw [chan_of_effect he] at hne ⊢
        exact hnew hne
      · have hchan : (next pb node s l).chan c = s.chan c := by
          refine chan_of_not_effect fun b' hb' => hcc ?_
          rw [he] at hb'
          exact (Sigma.mk.inj (Option.some.inj hb')).1.symm
        rw [hchan] at hne ⊢
        exact h.held c hne
    cases l with
    | store c m => exact ⟨h.booting, hstep rfl rfl (h.held c)⟩
    | notify c => exact ⟨h.booting, hstep rfl rfl (h.held c)⟩
    | unlock c => exact ⟨h.booting, hstep rfl rfl (h.held c)⟩
    | create c => exact ⟨fun _ => h.booting (by simp [hl.1]), hstep rfl rfl (h.held c)⟩
    | peek => exact ⟨h.booting, hstep rfl rfl fun _ => .inr ⟨rfl, hl.1, rfl⟩⟩
    | drain c => exact ⟨h.booting, hstep rfl rfl fun _ => .inl hl.1⟩
    | read c => exact ⟨h.booting, hstep rfl rfl fun _ => .inl hl.1⟩
    | call l => exact ⟨fun hne => absurd hl.1 hne, fun c hne => absurd (idle_of_call h hl c) hne⟩

/-- Past the top of a pass the descriptors are all there. -/
lemma InHand.created (h : InHand s) (hpc : s.loop.pc ≠ .top) : s.creating = none := by
  by_contra hne
  exact hpc (by rw [h.booting hne]; rfl)

end Steps

end ClimateNode.Gateway.WholeLoop
