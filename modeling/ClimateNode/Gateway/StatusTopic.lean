import ClimateNode.Gateway.MainLoop

/-!
The peer's status topic, `node/2/status`.  Two paths of `gateway/src/main.cpp`
publish on it: `session_serving` says what the relay believes when a session
comes up, and `publish_relayed_status` what it believes when the relay signals a
change.  Between them runs the relay's RX thread.

* `announcing_inductive`: what the two paths keep.
* `status_topic`: nothing is published before the first transition, what is
  published is what was read, and no change is lost.
* `stale_online`: what was read may be out of date when it is published.
-/

namespace ClimateNode.Gateway

open Automata Wire

/-- The calls into zbus and MQTT succeed. -/
def callsSucceed (_ : State) : Label → Prop
  | .announceReadFail | .readFail _ => False
  | .announce ok | .hand _ ok => ok = true
  | _ => True

instance (s : State) (l : Label) : Decidable (callsSucceed s l) := by
  apply l.casesOn (motive := fun l => Decidable (callsSucceed s l)) <;> intros <;>
    dsimp only [callsSucceed] <;> infer_instance

/-- What the status topic should say for a status; nothing before the relay has
one. -/
def believed (st : RelayStatus) : Option Bytes :=
  if st.nodeId = 0 then none else some (statusText st)

/-- The last text a log published on the peer's status topic, on one
connection. -/
def statusOn (log : List Publication) (connection : ℕ) : Option Bytes :=
  (log.filter fun p => p.topic = .status .peer ∧ p.connection = connection).getLast?.map
    Publication.payload

/-- The last text on the current connection. -/
def State.lastStatus (s : State) : Option Bytes := statusOn s.log (s.connection .peer)

/-- The status channel. -/
abbrev State.status (s : State) : Doorbell.State RelayStatus := s.chan .relayStatus

lemma statusOn_append_other {log w : List Publication} {connection : ℕ}
    (h : ∀ p ∈ w, p.topic ≠ .status .peer) :
    statusOn (log ++ w) connection = statusOn log connection := by
  have hw : w.filter (fun p => p.topic = .status .peer ∧ p.connection = connection) = [] :=
    List.filter_eq_nil_iff.mpr fun p hp => by simp [h p hp]
  rw [statusOn, List.filter_append, hw, List.append_nil, statusOn]

lemma statusOn_append_status {log : List Publication} {p : Publication}
    (h : p.topic = .status .peer) : statusOn (log ++ [p]) p.connection = some p.payload := by
  simp [statusOn, h]

lemma statusOn_fresh {log : List Publication} {connection : ℕ}
    (h : ∀ p ∈ log, p.topic = .status .peer → p.connection < connection) :
    statusOn log connection = none := by
  have hw : log.filter (fun p => p.topic = .status .peer ∧ p.connection = connection) = [] :=
    List.filter_eq_nil_iff.mpr fun p hp => by
      simp only [decide_eq_true_eq, not_and]
      exact fun htopic => (h p hp htopic).ne
  rw [statusOn, hw]
  rfl

/-- The loop is outside the announcement of `session_serving`. -/
def Pc.plain (pc : Pc) : Prop := pc ≠ .announce ∧ pc ≠ .announced

/-- A status was stored that the loop has been told of, or is about to be. -/
def news (s : State) : Prop := s.status.signalled ∨ s.status.phase = .stored

/-- What holds of the status topic while the calls succeed. -/
structure Announcing (s : State) : Prop where
  stamped : ∀ st ∈ s.status.history, RelayStatus.nodeId st = kPeerNodeId
  started : ∀ p ∈ s.log, p.topic = .status .peer → s.status.history ≠ []
  bounded : ∀ p ∈ s.log, p.topic = .status .peer → p.connection ≤ s.connection .peer
  down : ∀ c, s.pc = .boot c → s.session .peer ≠ .serving
  serving : s.pc = .announce ∨ s.status.progress ≠ .idle → s.session .peer = .serving
  silent : s.session .peer = .connecting ∨ ¬ s.pc.plain → s.lastStatus = none
  known : s.status.progress = .holding → s.pc ≠ .announced → s.status.buffer.2.nodeId ≠ 0
  newest : s.status.progress = .holding → s.status.buffer.1 = s.status.history.length ∨ news s
  current : s.session .peer = .serving → s.pc = .announce ∨ news s ∨
    s.status.progress ≠ .idle ∨ s.lastStatus = believed s.status.content

/-- A step that leaves the peer session and the announcement alone, and does no
more to the status channel than tell the loop of a status stored. -/
lemma Announcing.frame {s t : State} (h : Announcing s) (hpace : Paced s)
    (hhist : t.status.history = s.status.history) (hprog : t.status.progress = s.status.progress)
    (hbuf : t.status.buffer = s.status.buffer)
    (hnews : (∀ c, s.pc ≠ .boot c) → news s → news t)
    {w : List Publication} (hlog : t.log = s.log ++ w) (hw : ∀ p ∈ w, p.topic ≠ .status .peer)
    (hconn : t.connection .peer = s.connection .peer)
    (hsess : t.session .peer = s.session .peer)
    (hpc : t.pc = s.pc ∨ (s.pc.plain ∧ t.pc.plain ∧ ∀ c, t.pc = .boot c → ∃ c', s.pc = .boot c')) :
    Announcing t := by
  have hlast : t.lastStatus = s.lastStatus := by
    rw [State.lastStatus, hlog, hconn, statusOn_append_other hw, State.lastStatus]
  have hcont : t.status.content = s.status.content := by
    rw [Doorbell.State.content, hhist, Doorbell.State.content]
  have hmem : ∀ p ∈ t.log, p.topic = .status .peer → p ∈ s.log := by
    intro p hp htopic
    rw [hlog] at hp
    exact (List.mem_append.mp hp).resolve_right fun hpw => hw p hpw htopic
  have hplain : t.pc.plain ↔ s.pc.plain := by
    rcases hpc with heq | ⟨hs, ht, -⟩
    · rw [heq]
    · exact ⟨fun _ => hs, fun _ => ht⟩
  have hann : t.pc = .announce ↔ s.pc = .announce := by
    rcases hpc with heq | ⟨hs, ht, -⟩
    · rw [heq]
    · exact ⟨fun h => absurd h ht.1, fun h => absurd h hs.1⟩
  have hannd : s.pc = .announced → t.pc = .announced := by
    rcases hpc with heq | ⟨hs, -⟩
    · rw [heq]
      exact id
    · exact fun h => absurd h hs.2
  refine
    { stamped := hhist ▸ h.stamped
      started := fun p hp htopic => hhist ▸ h.started p (hmem p hp htopic) htopic
      bounded := fun p hp htopic => hconn ▸ h.bounded p (hmem p hp htopic) htopic
      down := fun c hc => ?_
      serving := fun ho => ?_
      silent := fun hs => ?_
      known := fun hp hne => ?_
      newest := fun hp => ?_
      current := fun hs => ?_ }
  · rw [hsess]
    rcases hpc with heq | ⟨-, -, hboot⟩
    · exact h.down c (heq ▸ hc)
    · obtain ⟨c', hc'⟩ := hboot c hc
      exact h.down c' hc'
  · rw [hsess]
    rw [hprog] at ho
    exact h.serving (ho.imp hann.mp id)
  · rw [hlast]
    exact h.silent (hs.imp (fun hc => hsess ▸ hc) (mt hplain.mpr))
  · rw [hbuf]
    exact h.known (hprog ▸ hp) (mt hannd hne)
  · rw [hprog] at hp
    rw [hbuf, hhist]
    refine (h.newest hp).imp id (hnews fun c hc => ?_)
    -- the loop holds nothing before it has booted
    have hpub := hpace .relayStatus (show s.status.progress ≠ .idle by simp [hp])
    simp [hc] at hpub
  · rw [hsess] at hs
    rw [hprog, hlast, hcont]
    exact (h.current hs).imp hann.mpr (Or.imp (hnews fun c hc => h.down c hc hs) id)

/-- A step that leaves the sessions and the status channel alone. -/
lemma Announcing.untouched {s t : State} (h : Announcing s) (hpace : Paced s)
    (hchan : t.status = s.status) {w : List Publication} (hlog : t.log = s.log ++ w)
    (hw : ∀ p ∈ w, p.topic ≠ .status .peer) (hconn : t.connection .peer = s.connection .peer)
    (hsess : t.session .peer = s.session .peer)
    (hpc : t.pc = s.pc ∨ (s.pc.plain ∧ t.pc.plain ∧ ∀ c, t.pc = .boot c → ∃ c', s.pc = .boot c')) :
    Announcing t :=
  h.frame hpace (by rw [hchan]) (by rw [hchan]) (by rw [hchan])
    (fun _ hn => by rw [news, hchan]; exact hn) hlog hw hconn hsess hpc

lemma log_next {pb : Nanopb} {s : State} {l : Label} (h : written pb s l = []) :
    (next pb s l).log = s.log := by
  simp [next, h]

/-- A step of the peer session while the loop holds no status. -/
lemma Announcing.turn {s t : State} (h : Announcing s) (hidle : s.status.progress = .idle)
    (hchan : t.status = s.status) (hlog : t.log = s.log)
    (hconn : s.connection .peer ≤ t.connection .peer)
    (hsess : t.session .peer = .serving ↔ t.pc = .announce) (hboot : ∀ c, t.pc ≠ .boot c)
    (hsilent : t.session .peer = .connecting ∨ ¬ t.pc.plain → t.lastStatus = none) :
    Announcing t where
  stamped := hchan ▸ h.stamped
  started := hchan ▸ hlog ▸ h.started
  bounded p hp htopic := (h.bounded p (hlog ▸ hp) htopic).trans hconn
  down c hc := absurd hc (hboot c)
  serving ho := hsess.mpr (ho.resolve_right (by simp [hchan, hidle]))
  silent := hsilent
  known hp := by simp [hchan, hidle] at hp
  newest hp := by simp [hchan, hidle] at hp
  current hs := .inl (hsess.mp hs)

section Steps

variable {pb : Nanopb} {s : State}

/-- The loop holds nothing away from the places that publish. -/
lemma Paced.idle (hpace : Paced s) {c : ChanId} (hpc : s.pc ≠ .publish c)
    (hann : s.pc ≠ .announced) : (s.chan c).progress = .idle := by
  by_contra hne
  rcases hpace c hne with h | ⟨-, h⟩
  · exact hpc h
  · exact hann h

/-- Outside boot the descriptor of the status channel exists. -/
lemma bell_isSome (hb : Booted s) (hpc : ∀ c, s.pc ≠ .boot c) : s.status.bell ≠ none := fun hnone =>
  let ⟨c, hc, _⟩ := hb .relayStatus hnone
  hpc c hc

lemma signalled_notify (hbell : s.status.bell ≠ none) :
    (Doorbell.next .counting s.status .notify).signalled := by
  obtain ⟨n, hn⟩ := Option.ne_none_iff_exists'.mp hbell
  simp [Doorbell.next, Doorbell.State.signalled, hn, Ring.counting]

/-- What the loop holds from the status channel with the newest number is the
content. -/
lemma held_eq_content (hs : Doorbell.Sound s.status) (hp : s.status.progress = .holding)
    (hn : s.status.buffer.1 = s.status.history.length) :
    s.status.buffer.2 = s.status.content := by
  rw [(hs.held hp).2, hn, Doorbell.State.valueAt_length]

/-- A status with a node id was stored by the relay. -/
lemma history_ne_nil (hs : Doorbell.Sound s.status) (hp : s.status.progress = .holding)
    (hid : s.status.buffer.2.nodeId ≠ 0) : s.status.history ≠ [] := by
  intro hnil
  have hval := (hs.held hp).2
  simp only [Doorbell.State.valueAt, hnil, List.take_nil, List.getLastD_nil] at hval
  exact hid (by rw [hval]; rfl)

/-- Publishing the status the loop holds. -/
lemma Announcing.publish (h : Announcing s) (hs : Doorbell.Sound s.status)
    (hp : s.status.progress = .holding) (hid : s.status.buffer.2.nodeId ≠ 0) {t : State}
    (hchan : t.status = Doorbell.next .counting s.status .hand)
    (hlog : t.log = s.log ++ [s.publication pb .relayStatus]) (hconn : t.connection = s.connection)
    (hsess : t.session = s.session) (hplain : t.pc.plain) (hboot : ∀ c, t.pc ≠ .boot c) :
    Announcing t := by
  have hserv : s.session .peer = .serving := h.serving (.inr (by simp [hp]))
  have hhist : t.status.history = s.status.history := by rw [hchan]; rfl
  have hidle : t.status.progress = .idle := by rw [hchan]; rfl
  have hlast : t.lastStatus = some (statusText s.status.buffer.2) := by
    rw [State.lastStatus, hlog, hconn]
    exact statusOn_append_status (p := s.publication pb .relayStatus) rfl
  refine
    { stamped := hhist ▸ h.stamped
      started := fun _ _ _ => hhist ▸ history_ne_nil hs hp hid
      bounded := fun p hmem htopic => ?_
      down := fun c hc => absurd hc (hboot c)
      serving := fun _ => hsess ▸ hserv
      silent := fun hc => ?_
      known := by simp [hidle]
      newest := by simp [hidle]
      current := fun _ => ?_ }
  · rw [hconn]
    rw [hlog] at hmem
    rcases List.mem_append.mp hmem with hmem | hmem
    · exact h.bounded p hmem htopic
    · rw [List.mem_singleton.mp hmem]
      exact le_rfl
  · rcases hc with hc | hc
    · simp [hsess, hserv] at hc
    · exact absurd hplain hc
  · rcases h.newest hp with hn | hnews
    · refine .inr (.inr (.inr ?_))
      have hcont : t.status.content = s.status.buffer.2 := by
        rw [held_eq_content hs hp hn, hchan]
        rfl
      rw [hlast, hcont, believed, if_neg hid]
    · exact .inr (.inl (by rw [news, hchan]; exact hnews))

/-- The relay has no status to announce. -/
lemma Announcing.announceNothing (h : Announcing s) (hs : Doorbell.Sound s.status)
    (hpc : s.pc = .announced) (hid : s.status.buffer.2.nodeId = 0)
    (hp : s.status.progress = .holding) : Announcing (next pb s .announceNothing) := by
  have hchan : (next pb s .announceNothing).status = Doorbell.next .counting s.status .discard :=
    Acts.announceNothing.next_chan
  have hlog : (next pb s .announceNothing).log = s.log := log_next rfl
  have hidle : (next pb s .announceNothing).status.progress = .idle := by rw [hchan]; rfl
  have hlast : (next pb s .announceNothing).lastStatus = none := by
    rw [State.lastStatus, hlog]
    exact h.silent (.inr (by simp [hpc, Pc.plain]))
  refine
    { stamped := by rw [hchan]; exact h.stamped
      started := by rw [hchan, hlog]; exact h.started
      bounded := by rw [hlog]; exact h.bounded
      down := fun c hc => by simp [next, move] at hc
      serving := fun _ => h.serving (.inr (by simp [hp]))
      silent := fun _ => hlast
      known := by simp [hidle]
      newest := by simp [hidle]
      current := fun _ => ?_ }
  rcases h.newest hp with hn | hnews
  · -- the relay has no status yet, and none was published
    have hcont : (next pb s .announceNothing).status.content = s.status.buffer.2 := by
      rw [held_eq_content hs hp hn, hchan]
      rfl
    exact .inr (.inr (.inr (by rw [hlast, hcont, believed, if_pos hid])))
  · exact .inr (.inl (by rw [news, hchan]; exact hnews))

/-- The loop silencing the bell. -/
lemma Announcing.drain (h : Announcing s) (hserv : s.session .peer = .serving) :
    Announcing (next pb s (.drain .relayStatus)) := by
  have hchan : (next pb s (.drain .relayStatus)).status =
      Doorbell.next .counting s.status .drain := (Acts.drain _).next_chan
  have hlog : (next pb s (.drain .relayStatus)).log = s.log := log_next rfl
  have hdr : (next pb s (.drain .relayStatus)).status.progress = .drained := by rw [hchan]; rfl
  exact
    { stamped := by rw [hchan]; exact h.stamped
      started := by rw [hchan, hlog]; exact h.started
      bounded := by rw [hlog]; exact h.bounded
      down := h.down
      serving := fun _ => hserv
      silent := fun hs => by rw [State.lastStatus, hlog]; exact h.silent hs
      known := by simp [hdr]
      newest := by simp [hdr]
      current := fun _ => .inr (.inr (.inl (by simp [hdr]))) }

/-- The relay's RX thread storing a status. -/
lemma Announcing.store (h : Announcing s) {m : RelayStatus} (hm : m.nodeId = kPeerNodeId)
    {t : State} (hchan : t.status = Doorbell.next .counting s.status (.store m))
    (hlog : t.log = s.log) (hconn : t.connection = s.connection) (hsess : t.session = s.session)
    (hpc : t.pc = s.pc) : Announcing t := by
  have hnews : news t := .inr (by rw [hchan]; rfl)
  have hprog : t.status.progress = s.status.progress := by rw [hchan]; rfl
  have hhist : t.status.history = s.status.history ++ [m] := by rw [hchan]; rfl
  have hne : t.status.history ≠ [] := by simp [hhist]
  refine
    { stamped := fun st hst => ?_
      started := fun _ _ _ => hne
      bounded := hlog ▸ hconn ▸ h.bounded
      down := hpc ▸ hsess ▸ h.down
      serving := hpc ▸ hprog ▸ hsess ▸ h.serving
      silent := ?_
      known := ?_
      newest := fun _ => .inr hnews
      current := fun _ => .inr (.inl hnews) }
  · rw [hhist] at hst
    rcases List.mem_append.mp hst with hst | hst
    · exact h.stamped st hst
    · rw [List.mem_singleton.mp hst]
      exact hm
  · rw [State.lastStatus, hlog, hconn, hsess, hpc]
    exact h.silent
  · rw [hprog, hpc, show t.status.buffer = s.status.buffer by rw [hchan]; rfl]
    exact h.known

/-- The loop reading the status channel, announced or not. -/
lemma Announcing.fill (h : Announcing s) (hserv : s.session .peer = .serving) {t : State}
    (hchan : t.status = Doorbell.next .counting s.status .read) (hlog : t.log = s.log)
    (hconn : t.connection = s.connection) (hsess : t.session = s.session)
    (hpc : (t.pc = .announced ∧ s.pc = .announce) ∨
      (t.pc = s.pc ∧ s.pc.plain ∧ s.status.history ≠ [] ∧ ∀ c, s.pc ≠ .boot c)) :
    Announcing t := by
  have hhist : t.status.history = s.status.history := by rw [hchan]; rfl
  have hbuf : t.status.buffer = (s.status.history.length, s.status.content) := by rw [hchan]; rfl
  have hprog : t.status.progress = .holding := by rw [hchan]; rfl
  refine
    { stamped := hhist ▸ h.stamped
      started := fun p hp htopic => hhist ▸ h.started p (hlog ▸ hp) htopic
      bounded := hlog ▸ hconn ▸ h.bounded
      down := fun c hc => ?_
      serving := fun _ => hsess ▸ hserv
      silent := fun hs => ?_
      known := fun _ hne => ?_
      newest := fun _ => .inl (by rw [hbuf, hhist])
      current := fun _ => .inr (.inr (.inl (by simp [hprog]))) }
  · rcases hpc with ⟨hpc, -⟩ | ⟨hpc, -, -, hboot⟩
    · simp [hpc] at hc
    · exact absurd (hpc ▸ hc) (hboot c)
  · rw [State.lastStatus, hlog, hconn]
    refine h.silent (.inr ?_)
    rcases hpc with ⟨-, hpc⟩ | ⟨hpc, hplain, -⟩
    · simp [hpc, Pc.plain]
    · rcases hs with hs | hs
      · simp [hsess, hserv] at hs
      · exact absurd (hpc ▸ hplain) hs
  · rcases hpc with ⟨hpc, -⟩ | ⟨-, -, hnil, -⟩
    · exact absurd hpc hne
    · have hlast : s.status.content ∈ s.status.history := by
        rw [Doorbell.State.content, List.getLastD_eq_getLast?, List.getLast?_eq_some_getLast hnil]
        exact List.getLast_mem hnil
      rw [hbuf, h.stamped _ hlast]
      decide

end Steps

/-- What the loop and the channel keep whatever fails. -/
def Settled (s : State) : Prop := (Paced s ∧ Booted s) ∧ Doorbell.Sound s.status

variable (pb : Nanopb)

theorem settled_inductive : (machine pb).Inductive Settled :=
  ((paced_inductive pb).both (booted_inductive pb)).both
    ((chan_simulates pb .relayStatus).pullback (Doorbell.sound_inductive .counting))

/-- A label that does not act on the status channel publishes nothing on its
topic. -/
lemma written_other {s : State} {l : Label} (h : ∀ b, ¬ Acts .relayStatus l b) :
    ∀ p ∈ written pb s l, p.topic ≠ .status .peer := by
  intro p hp htopic
  cases l with
  | incoming i payload =>
      rw [List.mem_singleton.mp hp] at htopic
      simp at htopic
  | serve i =>
      cases i with
      | own =>
          rw [List.mem_singleton.mp hp] at htopic
          simp at htopic
      | peer => simp [written] at hp
  | announce ok => exact h _ (.announce ok)
  | hand c ok =>
      cases ok with
      | true =>
          rw [List.mem_singleton.mp hp] at htopic
          cases c <;> first
            | exact h _ (.hand _ true)
            | simp [State.publication, ChanId.topic] at htopic
      | false => simp [written] at hp
  | _ => simp [written] at hp

lemma plain_created (c : ChanId) : (Pc.created c).plain := by
  cases c <;> simp [Pc.created, Pc.plain, ChanId.succ]

lemma plain_published (c : ChanId) :
    (Pc.published c).plain ∧ ∀ c', Pc.published c ≠ .boot c' := by
  cases c <;> simp [Pc.published, Pc.plain, ChanId.succ]

variable {pb} {s : State} {l : Label}

/-- The steps on the status channel. -/
lemma Announcing.step_status (h : Announcing s) (hset : Settled s) {b : Doorbell.Label RelayStatus}
    (hact : Acts .relayStatus l b) (hc : control pb s l) (hen : Doorbell.enabled s.status b)
    (hok : callsSucceed s l) : Announcing (next pb s l) := by
  obtain ⟨⟨hpace, hb⟩, hs⟩ := hset
  have hchan : (next pb s l).status = Doorbell.next .counting s.status b := hact.next_chan
  cases hact with
  | store => exact h.store hc hchan (log_next rfl) rfl rfl rfl
  | notify =>
      refine h.frame hpace (by rw [hchan]; rfl) (by rw [hchan]; rfl) (by rw [hchan]; rfl)
        (fun hboot _ => ?_) rfl (by simp [written]) rfl rfl (.inl rfl)
      rw [news, hchan]
      exact .inl (signalled_notify (bell_isSome hb hboot))
  | unlock =>
      refine h.frame hpace (by rw [hchan]; rfl) (by rw [hchan]; rfl) (by rw [hchan]; rfl)
        (fun _ hn => ?_) rfl (by simp [written]) rfl rfl (.inl rfl)
      have hph : s.status.phase = .notified := hen
      rw [news, hchan]
      exact .inl (hn.resolve_right (by simp [hph]))
  | create =>
      have hpc : s.pc = .boot .relayStatus := hc
      exact h.frame hpace (by rw [hchan]; rfl) (by rw [hchan]; rfl) (by rw [hchan]; rfl)
        (fun hboot => absurd hc (hboot _)) rfl (by simp [written]) rfl rfl
        (.inr ⟨by simp [hpc, Pc.plain], plain_created .relayStatus, fun c _ => ⟨_, hpc⟩⟩)
  | announceRead =>
      exact h.fill (h.serving (.inl hc)) hchan (log_next rfl) rfl rfl (.inl ⟨rfl, hc⟩)
  | announce ok =>
      cases ok with
      | false => exact absurd hok Bool.false_ne_true
      | true =>
          exact h.publish hs hen hc.2 hchan rfl rfl rfl (by simp [next, move, Pc.plain])
            (by simp [next, move])
  | announceNothing => exact h.announceNothing hs hc.1 hc.2 hen
  | drain => exact h.drain hc.2.2
  | read =>
      have hpc : s.pc = .publish .relayStatus := hc
      exact h.fill (h.serving (.inr (by simp [hen.1]))) hchan (log_next rfl) rfl rfl
        (.inr ⟨rfl, by simp [hpc, Pc.plain], hs.rung (.inr hen.1), by simp [hpc]⟩)
  | readFail => exact absurd hok id
  | hand _ ok =>
      cases ok with
      | false => exact absurd hok Bool.false_ne_true
      | true =>
          exact h.publish hs hen (h.known hen (by simp [hc.1])) hchan rfl rfl rfl
            (plain_published .relayStatus).1 (plain_published .relayStatus).2
  | discard => exact absurd hc.2 (by simp [payloadOf])

/-- A step that is none of the status channel's. -/
lemma Announcing.step_other (h : Announcing s) (hset : Settled s)
    (hact : ∀ b, ¬ Acts .relayStatus l b) (hc : control pb s l) (hok : callsSucceed s l) :
    Announcing (next pb s l) := by
  obtain ⟨⟨hpace, hb⟩, hs⟩ := hset
  have hchan : (next pb s l).status = s.status := next_chan_of_not_acts hact
  have hw := written_other pb (s := s) hact
  cases l with
  | store | notify | unlock | incoming | drain | read =>
      exact h.untouched hpace hchan rfl hw rfl rfl (.inl rfl)
  | create c =>
      have hpc : s.pc = .boot c := hc
      exact h.untouched hpace hchan rfl hw rfl rfl
        (.inr ⟨by simp [hpc, Pc.plain], plain_created c, fun _ _ => ⟨c, hpc⟩⟩)
  | connect i ok =>
      cases ok with
      | false => exact h.untouched hpace hchan rfl hw rfl rfl (.inl rfl)
      | true =>
          cases i with
          | own => exact h.untouched hpace hchan rfl hw rfl rfl (.inl rfl)
          | peer =>
              have hpc : s.pc = .connect := hc.1
              refine h.turn (hpace.idle (by simp [hpc]) (by simp [hpc])) hchan (log_next rfl)
                (by simp [next, move]) (by simp [next, move, hpc]) (by simp [next, move, hpc])
                fun _ => ?_
              -- a new connection, on which nothing was published yet
              rw [State.lastStatus, log_next rfl]
              refine statusOn_fresh fun p hp htopic => ?_
              simpa [next, move, Nat.lt_succ_iff] using h.bounded p hp htopic
  | poll ready =>
      exact h.untouched hpace hchan rfl hw rfl rfl
        (.inr ⟨by simp [hc.1, Pc.plain], by simp [next, move, Pc.plain], by simp [next, move]⟩)
  | drop i =>
      cases i with
      | own => exact h.untouched hpace hchan rfl hw rfl rfl (.inl rfl)
      | peer =>
          have hpc : s.pc = .input ∨ s.pc = .sessions := hc.1
          refine h.turn (hpace.idle ?_ ?_) hchan (log_next rfl) le_rfl ?_ ?_ ?_ <;>
            rcases hpc with hpc | hpc <;> simp [next, move, hpc, Pc.plain]
  | inputDone =>
      have hpc : s.pc = .input := hc
      exact h.untouched hpace hchan rfl hw rfl rfl
        (.inr ⟨by simp [hpc, Pc.plain], by simp [next, move, Pc.plain], by simp [next, move]⟩)
  | serve i =>
      cases i with
      | own => exact h.untouched hpace hchan rfl hw rfl rfl (.inl rfl)
      | peer =>
          have hpc : s.pc = .sessions := hc.1
          refine h.turn (hpace.idle (by simp [hpc]) (by simp [hpc])) hchan (log_next rfl) le_rfl
            (by simp [next, move]) (by simp [next, move]) fun _ => ?_
          rw [State.lastStatus, log_next rfl]
          exact h.silent (.inl hc.2)
  | announceRead => exact absurd .announceRead (hact _)
  | announceReadFail => exact absurd hok id
  | announce ok => exact absurd (.announce ok) (hact _)
  | announceNothing => exact absurd .announceNothing (hact _)
  | sessionsDone =>
      have hpc : s.pc = .sessions := hc
      exact h.untouched hpace hchan rfl hw rfl rfl
        (.inr ⟨by simp [hpc, Pc.plain], by simp [next, move, Pc.plain], by simp [next, move]⟩)
  | skip c | discard c =>
      exact h.untouched hpace hchan rfl hw rfl rfl
        (.inr ⟨by simp [hc.1, Pc.plain], (plain_published c).1,
          fun c' hc' => absurd hc' ((plain_published c).2 c')⟩)
  | readFail c => exact absurd hok id
  | hand c ok =>
      cases ok with
      | false => exact absurd hok Bool.false_ne_true
      | true =>
          exact h.untouched hpace hchan rfl hw rfl rfl
            (.inr ⟨by simp [hc.1, Pc.plain], (plain_published c).1,
              fun c' hc' => absurd hc' ((plain_published c).2 c')⟩)

variable (pb)

theorem announcing_inductive :
    ((machine pb).restrict callsSucceed).Inductive fun s => Settled s ∧ Announcing s := by
  refine ((settled_inductive pb).restrict callsSucceed).and ?_ fun s l hset h hl => ?_
  · constructor <;> simp [machine, Machine.restrict, boot, Doorbell.State.empty, State.lastStatus,
      statusOn, Pc.plain]
  · obtain ⟨⟨hc, hen⟩, hok⟩ := hl
    by_cases hact : ∃ b, Acts .relayStatus l b
    · obtain ⟨b, hact⟩ := hact
      rw [hact.effect_eq] at hen
      exact h.step_status hset hact hc hen hok
    · exact h.step_other hset (not_exists.mp hact) hc hok

/-! ### The status topic -/

/-- The loop reads the status channel. -/
def readsStatus (l : Label) : Prop := l = .announceRead ∨ l = .read .relayStatus

/-- What is in hand from the status channel is its content at a read, after which
`ls` was done, without another read; that is the content still, unless another status
was stored. -/
def ReadAt (s₁ : State) (r : Label) (ls : List Label) (s : State) : Prop :=
  readsStatus r ∧ (∀ l ∈ ls, ¬ readsStatus l) ∧ s.status.buffer.2 = s₁.status.content ∧
    ((∀ m, Label.store .relayStatus m ∉ ls) → s.status.content = s₁.status.content)

lemma ReadAt.concat {s₁ s t : State} {r l : Label} {ls : List Label} (h : ReadAt s₁ r ls s)
    (hl : ¬ readsStatus l) (hbuf : t.status.buffer = s.status.buffer)
    (hcont : (∀ m, l ≠ .store .relayStatus m) → t.status.content = s.status.content) :
    ReadAt s₁ r (ls ++ [l]) t := by
  obtain ⟨hr, hnone, hread, hkept⟩ := h
  refine ⟨hr, fun l' hl' => ?_, by rw [hbuf, hread], fun hno => ?_⟩
  · rcases List.mem_append.mp hl' with hl' | hl'
    · exact hnone l' hl'
    · rwa [List.mem_singleton.mp hl']
  · rw [hcont fun m heq => hno m (by simp [heq])]
    exact hkept fun m hmem => hno m (List.mem_append_left _ hmem)

/-- One step of a status in hand: it is read just now, or it was in hand
before. -/
lemma readAt_step {s : State} {l : Label} (hp : (next pb s l).status.progress = .holding) :
    ReadAt s l [] (next pb s l) ∨
      s.status.progress = .holding ∧ ∀ s₁ r ls, ReadAt s₁ r ls s →
        ReadAt s₁ r (ls ++ [l]) (next pb s l) := by
  by_cases hact : ∃ b, Acts .relayStatus l b
  · obtain ⟨b, hact⟩ := hact
    have hchan : (next pb s l).status = Doorbell.next .counting s.status b := hact.next_chan
    rw [hchan] at hp
    cases hact with
    | announceRead => exact .inl ⟨.inl rfl, by simp, by rw [hchan]; rfl, fun _ => by rw [hchan]; rfl⟩
    | read => exact .inl ⟨.inr rfl, by simp, by rw [hchan]; rfl, fun _ => by rw [hchan]; rfl⟩
    | store _ m =>
        refine .inr ⟨hp, fun s₁ r ls h => h.concat (by simp [readsStatus]) (by rw [hchan]; rfl) ?_⟩
        exact fun hno => absurd rfl (hno m)
    | notify | unlock | create =>
        exact .inr ⟨hp, fun s₁ r ls h => h.concat (by simp [readsStatus]) (by rw [hchan]; rfl)
          fun _ => by rw [hchan]; rfl⟩
    | announce | announceNothing | drain | readFail | hand | discard =>
        simp [Doorbell.next] at hp
  · have hchan : (next pb s l).status = s.status := next_chan_of_not_acts (not_exists.mp hact)
    have hno : ¬ readsStatus l := by
      -- a read acts on the channel
      rintro (rfl | rfl)
      · exact hact ⟨_, .announceRead⟩
      · exact hact ⟨_, .read .relayStatus⟩
    rw [hchan] at hp
    exact .inr ⟨hp, fun s₁ r ls h => h.concat hno (by rw [hchan]) fun _ => by rw [hchan]⟩

/-- What is published on the status topic is what the loop holds. -/
lemma written_status {s : State} {l : Label} (hl : enabled pb s l) {p : Publication}
    (hp : p ∈ written pb s l) (htopic : p.topic = .status .peer) :
    s.status.progress = .holding ∧ p.payload = statusText s.status.buffer.2 := by
  by_cases hact : ∃ b, Acts .relayStatus l b
  · obtain ⟨b, hact⟩ := hact
    obtain ⟨-, hen⟩ := hl
    rw [hact.effect_eq] at hen
    cases hact with
    | announce ok | hand c ok =>
        cases ok with
        | true => exact ⟨hen, by rw [List.mem_singleton.mp hp]; rfl⟩
        | false => simp [written] at hp
    | _ => simp [written] at hp
  · exact absurd htopic (written_other pb (not_exists.mp hact) p hp)

/-- **The peer's status topic.**  While the calls into zbus and MQTT succeed,
nothing is published on it before the relay's first transition.  Every text
published on it is what the channel said when it was last read, and what it says then
unless the relay stored a status in between.  And no change is lost: with the
peer session serving, the loop at the top of a pass, no listener running and no
signal pending, the last text on this connection is what the channel says. -/
theorem status_topic {ls : List Label} {s : State}
    (h : ((machine pb).restrict callsSucceed).Run ls s) :
    (∀ p ∈ s.log, p.topic = .status .peer → s.status.history ≠ []) ∧
      (∀ l, enabled pb s l → ∀ p ∈ written pb s l, p.topic = .status .peer →
        ∃ ls₁ r ls₂ s₁, ls = ls₁ ++ r :: ls₂ ∧
          ((machine pb).restrict callsSucceed).Run ls₁ s₁ ∧
          readsStatus r ∧ (∀ l' ∈ ls₂, ¬ readsStatus l') ∧
          p.payload = statusText s₁.status.content ∧
          ((∀ m, Label.store .relayStatus m ∉ ls₂) →
            p.payload = statusText s.status.content)) ∧
      (s.session .peer = .serving → s.pc = .connect → s.status.phase = .free →
        ¬ s.status.signalled → s.lastStatus = believed s.status.content) := by
  obtain ⟨⟨⟨hpace, -⟩, -⟩, hann⟩ := h.invariant (announcing_inductive pb)
  refine ⟨hann.started, ?_, ?_⟩
  · intro l hl p hp htopic
    obtain ⟨hhold, hpay⟩ := written_status pb hl hp htopic
    obtain ⟨ls₁, r, ls₂, s₁, heq, hrun, -, hr, hnone, hbuf, hcont⟩ :=
      h.since (K := ReadAt) (P := fun s => s.status.progress = .holding) (by simp [machine,
        Machine.restrict, boot, Doorbell.State.empty]) (fun _ _ _ => readAt_step pb) hhold
    refine ⟨ls₁, r, ls₂, s₁, heq, hrun, hr, hnone, by rw [hpay, hbuf], ?_⟩
    intro hno
    rw [hpay, hbuf, hcont hno]
  · intro hserv hpc hfree hquiet
    rcases hann.current hserv with hne | hnews | hne | hlast
    · simp [hpc] at hne
    · exact absurd hnews (by simp [news, hquiet, hfree])
    · exact absurd (hpace.idle (by simp [hpc]) (by simp [hpc])) hne
    · exact hlast

/-- The peer session comes up, the relay finds the peer online, and the next pass
reads that. -/
def onlineRead : List Label :=
  peerServing ++ publishOn .relayStatus (publishStatus true) ++
    [.poll fun c => c == .relayStatus, .inputDone, .sessionsDone, .skip .telemetry,
      .skip .relayTelemetry, .skip .relayAck, .drain .relayStatus, .read .relayStatus]

/-- The first status is published and the loop is back at the top. -/
theorem status_topic_online : ∃ s,
    ((machine Nanopb.proto3).restrict callsSucceed).Run
      (onlineRead ++ [.hand .relayStatus true]) s ∧
    s.session .peer = .serving ∧ s.pc = .connect ∧ s.status.phase = .free ∧
    ¬ s.status.signalled ∧ s.lastStatus = some (cstr "online") ∧
    s.lastStatus = believed s.status.content := by
  have hrun : ((machine Nanopb.proto3).restrict callsSucceed).Run
      (onlineRead ++ [.hand .relayStatus true]) _ := Machine.run_of_exec rfl
  exact ⟨_, hrun, by decide, by decide, by decide, by decide, by decide,
    (status_topic Nanopb.proto3 hrun).2.2 (by decide) (by decide) (by decide) (by decide)⟩

/-- **What was read may be out of date**: the relay gives the peer up between the
loop's read and its publish, and `online` goes out while the relay's belief is
`offline`. -/
theorem stale_online : ∃ s,
    ((machine Nanopb.proto3).restrict callsSucceed).Run
      (onlineRead ++ publishOn .relayStatus (publishStatus false)) s ∧
    ((machine Nanopb.proto3).restrict callsSucceed).enabled s (.hand .relayStatus true) ∧
    written Nanopb.proto3 s (.hand .relayStatus true) =
      [⟨.status .peer, cstr "online", 1, some (.relayStatus, 1)⟩] ∧
    s.status.content = publishStatus false :=
  ⟨_, Machine.run_of_exec rfl, by decide, rfl, rfl⟩

end ClimateNode.Gateway
