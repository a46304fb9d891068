import ClimateNode.Gateway.Passes

/-!
The packet identifiers of a session: `next_message_id` for its QoS 1 PUBLISHes, and
the constant of `subscribe_to_commands`.

* `idOf`: the identifiers of the counter, which goes round without zero.
* `numbered_inductive`: over any run the PUBLISHes of a session carry them in turn.
* `Ledger`: what a connection has yet to see acknowledged.
* `ids_distinct_iff`: **identifiers in use are not used again** exactly when no
  packet is sent that contends with one unacknowledged.
* `subscribe_contends`: what the first connection sends.
-/

namespace ClimateNode.Gateway

open Automata Monitor Wire

/-! ### The counter -/

/-- The identifier of the QoS 1 PUBLISH that `n` others came before. -/
def idOf (n : ℕ) : UInt16 := .ofNat (n % 65535 + 1)

/-- `next_message_id` after `n` of them. -/
def counterAfter : ℕ → UInt16
  | 0 => 0
  | n + 1 => idOf n

lemma idOf_toNat (n : ℕ) : (idOf n).toNat = n % 65535 + 1 := by
  have hlt : n % 65535 + 1 < 2 ^ 16 := by omega
  rw [idOf, UInt16.toNat_ofNat', Nat.mod_eq_of_lt hlt]

lemma idOf_ne_zero (n : ℕ) : idOf n ≠ 0 := by
  intro h
  have hnat := congrArg UInt16.toNat h
  rw [idOf_toNat] at hnat
  simp at hnat

/-- The counter comes round after 65535 packets. -/
lemma idOf_eq_iff {m n : ℕ} : idOf m = idOf n ↔ m % 65535 = n % 65535 := by
  rw [← UInt16.toNat_inj, idOf_toNat, idOf_toNat, Nat.add_right_cancel_iff]

/-- One more, and not zero. -/
lemma counterAfter_succ (n : ℕ) :
    (if counterAfter n + 1 = 0 then 1 else counterAfter n + 1) = idOf n := by
  cases n with
  | zero => rfl
  | succ n =>
      have hadd : (counterAfter (n + 1) + 1).toNat = (n % 65535 + 2) % 2 ^ 16 := by
        rw [counterAfter, UInt16.toNat_add, idOf_toNat]
        rfl
      rw [← UInt16.toNat_inj, idOf_toNat]
      by_cases hwrap : n % 65535 = 65534
      · have hzero : counterAfter (n + 1) + 1 = 0 := by
          rw [← UInt16.toNat_inj, hadd, hwrap]
          rfl
        rw [if_pos hzero, Nat.add_mod, hwrap]
        rfl
      · have hne : counterAfter (n + 1) + 1 ≠ 0 := by
          intro h
          have hnat := congrArg UInt16.toNat h
          rw [hadd] at hnat
          simp only [UInt16.toNat_zero] at hnat
          omega
        rw [if_neg hne, hadd]
        omega

/-! ### The identifiers of a session -/

/-- A log with `n` QoS 1 PUBLISHes behind it may go on with the next identifier, or
with a SUBSCRIBE. -/
def numberStep (n : ℕ) (e : Entry) : Option ℕ :=
  match e.event with
  | .publish param _ =>
      if param.qos = .atMostOnce then some n
      else if param.messageId = idOf n then some (n + 1)
      else none
  | .subscribe _ messageId _ => if messageId = 1 then some n else none
  | _ => some n

/-- The log carries the identifiers in turn, and the counter is where it stopped. -/
def Numbered (s : Session) : Prop :=
  ∃ n, read numberStep 0 s.log = some n ∧ s.nextMessageId = counterAfter n

section Steps

variable {s t : Session}

/-- Entries that leave the count alone. -/
lemma Numbered.extend (h : Numbered s) (entries : List Entry) (hlog : t.log = s.log ++ entries)
    (hread : ∀ n, read numberStep n entries = some n) (hid : t.nextMessageId = s.nextMessageId) :
    Numbered t := by
  obtain ⟨n, hn, hcount⟩ := h
  exact ⟨n, by rw [hlog, read_append, hn, Option.bind_some, hread], by rw [hid, hcount]⟩

lemma numbered_publish (h : Numbered s) (topic : Topic) (payload : Bytes) (qos : Qos)
    (retain : Bool) (rc : ℤ) : Numbered (s.publish topic payload qos retain rc) := by
  by_cases hqos : qos = .atMostOnce
  · refine h.extend [⟨s.state, .publish ⟨topic, payload, qos, 0, retain⟩ rc⟩] ?_ ?_ ?_
    · simp [Session.publish, hqos]
    · simp [numberStep, hqos]
    · simp [Session.publish, hqos]
  · obtain ⟨n, hn, hcount⟩ := h
    refine ⟨n + 1, ?_, ?_⟩
    · simp [Session.publish, hqos, hn, hcount, counterAfter_succ, numberStep]
    · simp only [Session.publish, hqos, if_false, Session.emit_nextMessageId, hcount,
        counterAfter_succ]
      rfl

lemma numbered_drop (h : Numbered s) (reachedConnack : Bool) (uptime : ℤ) :
    Numbered (s.drop reachedConnack uptime) := by
  refine h.extend (Session.teardown s.state) (s.drop_log _ _) ?_ (s.drop_nextMessageId _ _)
  intro n
  cases s.state <;> rfl

end Steps

/-- **The identifiers come in turn**, however often the session reconnects. -/
theorem numbered_inductive (i : SessionId) : (Session.machine i).Inductive Numbered where
  init := ⟨0, rfl, rfl⟩
  step s op h _ := by
    cases op with
    | connect rc uptime =>
        exact h.extend [⟨s.state, .connect rc⟩] (s.connect_log rc uptime) (fun _ => rfl)
          (s.connect_nextMessageId rc uptime)
    | drop reachedConnack uptime => exact numbered_drop h reachedConnack uptime
    | serving status publishRc subscribeRc =>
        have hs : Numbered { s with state := .serving, backoffMs := kBackoffMinMs } := h
        have hsub : ∀ t : Session, Numbered t → Numbered (t.subscribeToCommands i subscribeRc) :=
          fun t ht => ht.extend [⟨t.state, .subscribe (commandTopics i) 1 subscribeRc⟩] rfl
            (fun _ => rfl) rfl
        change Numbered (s.serving i status publishRc subscribeRc)
        rcases s.serving_eq i status publishRc subscribeRc with heq | ⟨topic, payload, heq⟩
        · rw [heq]
          exact hsub _ hs
        · rw [heq]
          exact hsub _ (numbered_publish hs topic payload _ _ _)
    | publish topic payload qos retain rc => exact numbered_publish h topic payload qos retain rc
    | puback messageId => exact h.extend [⟨s.state, .puback messageId⟩] rfl (fun _ => rfl) rfl
    | connack result =>
        exact h.extend [⟨s.state, .connack result⟩] (s.connack_log result) (fun _ => rfl)
          (s.connack_nextMessageId result)
    | disconnected => exact h
    | gotPuback messageId => exact h.extend [⟨s.state, .gotPuback messageId⟩] rfl (fun _ => rfl) rfl
    | gotSuback messageId => exact h.extend [⟨s.state, .gotSuback messageId⟩] rfl (fun _ => rfl) rfl

/-! ### What is in use -/

/-- A packet that is acknowledged: the QoS 1 PUBLISH that `n` others came before, or
a SUBSCRIBE. -/
inductive Packet where
  | publish (n : ℕ)
  | subscribe
  deriving DecidableEq, Repr

/-- Packets the counter and the constant give one identifier. -/
def Packet.Contends : Packet → Packet → Prop
  | .publish m, .publish n => m % 65535 = n % 65535
  | .publish n, .subscribe | .subscribe, .publish n => n % 65535 = 0
  | .subscribe, .subscribe => True

/-- How many QoS 1 PUBLISHes there were since boot, and the packets of this
connection still unacknowledged, with the identifiers they went out under. -/
structure Ledger where
  published : ℕ
  unacked : List (Packet × UInt16)
  deriving DecidableEq, Repr

/-- The packet an event sends, and its identifier. -/
def Ledger.sent (a : Ledger) : Event → Option (Packet × UInt16)
  | .publish param rc =>
      if param.qos ≠ .atMostOnce ∧ rc = 0 then some (.publish a.published, param.messageId) else none
  | .subscribe _ messageId rc => if rc = 0 then some (.subscribe, messageId) else none
  | _ => none

/-- Keeping the ledger.  A PUBACK or SUBACK settles what went out under its
identifier; a new connection starts with nothing. -/
def Ledger.step (a : Ledger) (event : Event) : Ledger :=
  match event with
  | .connect _ | .abort | .disconnect => { a with unacked := [] }
  | .publish param _ =>
      ⟨if param.qos = .atMostOnce then a.published else a.published + 1,
        a.unacked ++ (a.sent event).toList⟩
  | .subscribe _ _ _ => { a with unacked := a.unacked ++ (a.sent event).toList }
  | .gotPuback messageId =>
      { a with unacked := a.unacked.filter fun q => q.1 = .subscribe ∨ q.2 ≠ messageId }
  | .gotSuback messageId =>
      { a with unacked := a.unacked.filter fun q => q.1 ≠ .subscribe ∨ q.2 ≠ messageId }
  | .puback _ | .connack _ => a

/-- The ledger of a log. -/
def ledger (log : List Entry) : Ledger := log.foldl (fun a e => a.step e.event) ⟨0, []⟩

/-- Every packet that is sent with fewer than 65535 unacknowledged has an
identifier, and one that is not in use. -/
def IdsDistinct (log : List Entry) : Prop :=
  ∀ pre e post, log = pre ++ e :: post → (ledger pre).unacked.length < 65535 →
    ∀ p ∈ (ledger pre).sent e.event, p.2 ≠ 0 ∧ ∀ q ∈ (ledger pre).unacked, q.2 ≠ p.2

/-- No packet is sent, with fewer than 65535 unacknowledged, that contends with one
of them. -/
def Uncontended (log : List Entry) : Prop :=
  ∀ pre e post, log = pre ++ e :: post → (ledger pre).unacked.length < 65535 →
    ∀ p ∈ (ledger pre).sent e.event, ∀ q ∈ (ledger pre).unacked, ¬ q.1.Contends p.1

/-- The identifier of a packet. -/
def Packet.id : Packet → UInt16
  | .publish n => idOf n
  | .subscribe => 1

lemma Packet.id_ne_zero (p : Packet) : p.id ≠ 0 := by
  cases p with
  | publish n => exact idOf_ne_zero n
  | subscribe => decide

lemma Packet.contends_iff {p q : Packet} : p.Contends q ↔ p.id = q.id := by
  have hone : (1 : UInt16) = idOf 0 := rfl
  cases p <;> cases q <;> simp [Contends, id, hone, idOf_eq_iff, eq_comm]

section Numbers

variable {log : List Entry} {a : Ledger} {n : ℕ}

@[simp] lemma ledger_concat (e : Entry) : ledger (log ++ [e]) = (ledger log).step e.event := by
  simp [ledger]

/-- A packet is sent under its identifier. -/
lemma sent_id {e : Entry} {m : ℕ} (h : numberStep n e = some m) (ha : a.published = n)
    {p : Packet × UInt16} (hp : p ∈ a.sent e.event) : p.2 = p.1.id := by
  cases he : e.event with
  | publish param rc =>
      rw [he, Ledger.sent, Option.mem_ite_none_right] at hp
      obtain ⟨⟨hqos, -⟩, hp⟩ := hp
      obtain rfl := Option.some.inj hp
      simp only [numberStep, he, hqos, if_false] at h
      split_ifs at h with hid
      rw [hid, Packet.id, ha]
  | subscribe topics messageId rc =>
      rw [he, Ledger.sent, Option.mem_ite_none_right] at hp
      obtain rfl := Option.some.inj hp.2
      simp only [numberStep, he] at h
      split_ifs at h with hid
      rw [hid, Packet.id]
  | _ => simp [he, Ledger.sent] at hp

/-- The number of PUBLISHes after an entry. -/
lemma ledger_published {e : Entry} {m : ℕ} (h : numberStep n e = some m) (ha : a.published = n) :
    (a.step e.event).published = m := by
  cases he : e.event with
  | publish param rc =>
      simp only [numberStep, he] at h
      simp only [Ledger.step, ha]
      split_ifs at h ⊢ <;> exact Option.some.inj h
  | subscribe topics messageId rc =>
      simp only [numberStep, he] at h
      split_ifs at h
      exact ha.trans (Option.some.inj h)
  | _ =>
      simp only [numberStep, he] at h
      exact ha.trans (Option.some.inj h)

/-- What is unacknowledged after an entry was before or has just been sent. -/
lemma unacked_step {e : Event} {q : Packet × UInt16} (h : q ∈ (a.step e).unacked) :
    q ∈ a.unacked ∨ q ∈ a.sent e := by
  cases e with
  | connect rc | abort | disconnect => simp [Ledger.step] at h
  | publish param rc | subscribe topics messageId rc => simpa [Ledger.step] using h
  | gotPuback messageId | gotSuback messageId => exact .inl (List.mem_filter.mp h).1
  | puback messageId | connack result => exact .inl h

/-- The ledger of a numbered log. -/
lemma ledger_numbered (h : read numberStep 0 log = some n) :
    (ledger log).published = n ∧ ∀ q ∈ (ledger log).unacked, q.2 = q.1.id := by
  induction log using List.reverseRecOn generalizing n with
  | nil =>
      obtain rfl := Option.some.inj h
      exact ⟨rfl, by simp [ledger]⟩
  | append_singleton log e ih =>
      obtain ⟨m, m', hm, hstep, hn⟩ := read_split h
      obtain rfl : m' = n := Option.some.inj hn
      obtain ⟨hpub, hids⟩ := ih hm
      rw [ledger_concat]
      refine ⟨ledger_published hstep hpub, fun q hq => ?_⟩
      rcases unacked_step hq with hold | hsent
      · exact hids q hold
      · exact sent_id hstep hpub hsent

/-- For a numbered log contention is all that matters. -/
theorem idsDistinct_iff_of_numbered (h : read numberStep 0 log = some n) :
    IdsDistinct log ↔ Uncontended log := by
  have hsame : ∀ pre e post, log = pre ++ e :: post →
      ∀ p ∈ (ledger pre).sent e.event, p.2 ≠ 0 ∧
        ∀ q ∈ (ledger pre).unacked, (q.2 = p.2 ↔ q.1.Contends p.1) := by
    rintro pre e post rfl p hp
    obtain ⟨m, m', hm, hstep, -⟩ := read_split h
    obtain ⟨hpub, hids⟩ := ledger_numbered hm
    rw [sent_id hstep hpub hp]
    refine ⟨p.1.id_ne_zero, fun q hq => ?_⟩
    rw [hids q hq, Packet.contends_iff]
  constructor
  · intro hd pre e post hlog hfew p hp q hq hcon
    exact (hd pre e post hlog hfew p hp).2 q hq (((hsame pre e post hlog p hp).2 q hq).mpr hcon)
  · intro hu pre e post hlog hfew p hp
    refine ⟨(hsame pre e post hlog p hp).1, fun q hq heq => ?_⟩
    exact hu pre e post hlog hfew p hp q hq (((hsame pre e post hlog p hp).2 q hq).mp heq)

end Numbers

/-! ### Runs -/

namespace Passes

/-- **Identifiers in use are not used again**, in any run, exactly when no packet
contends with one unacknowledged: a PUBLISH with one a multiple of 65535 before it,
a SUBSCRIBE with one whose number is a multiple of 65535. -/
theorem ids_distinct_iff (pb : Nanopb) (node : NodeIdentity) {ls : List Label} {s : State}
    (h : (machine pb node).Run ls s) (i : SessionId) :
    IdsDistinct (s.sessions i).log ↔ Uncontended (s.sessions i).log := by
  obtain ⟨ops, hops⟩ := session_reachable h i
  obtain ⟨n, hn, -⟩ := hops.invariant (numbered_inductive i)
  exact idsDistinct_iff_of_numbered hn

/-- The first pass of the gateway. -/
theorem firstPass_ids : ∃ s,
    (machine Nanopb.proto3 ⟨cstr "nucleo_h753zi", cstr "nucleo-1"⟩).Run firstPass s ∧
      (IdsDistinct (s.sessions .own).log ↔ Uncontended (s.sessions .own).log) := by
  have hrun : (machine Nanopb.proto3 ⟨cstr "nucleo_h753zi", cstr "nucleo-1"⟩).Run firstPass _ :=
    Machine.run_of_exec rfl
  exact ⟨_, hrun, ids_distinct_iff _ _ hrun .own⟩

/-- The first connection of the own session: `"online"` goes out under identifier 1,
and the SUBSCRIBE under 1 after it, before any PUBACK. -/
theorem subscribe_contends : ∃ s,
    (machine Nanopb.proto3 ⟨cstr "nucleo_h753zi", cstr "nucleo-1"⟩).Run firstPass s ∧
      ¬ IdsDistinct (s.sessions .own).log := by
  have hrun : (machine Nanopb.proto3 ⟨cstr "nucleo_h753zi", cstr "nucleo-1"⟩).Run firstPass _ :=
    Machine.run_of_exec rfl
  refine ⟨_, hrun, fun h => ?_⟩
  have hdistinct := h
    [⟨.idle, .connect 0⟩, ⟨.connecting, .connack 0⟩,
      ⟨.serving, .publish ⟨.status .own, cstr "online", .atLeastOnce, 1, true⟩ 0⟩]
    ⟨.serving, .subscribe (commandTopics .own) 1 0⟩ [] rfl (by decide) (.subscribe, 1) rfl
  exact hdistinct.2 (.publish 0, 1) (by decide) rfl

end Passes

end ClimateNode.Gateway
