import ClimateNode.Gateway.Published
import ClimateNode.Mqtt.Broker

/-!
The status topics of the two nodes as the broker keeps them: both sessions of
`gateway/src/main.cpp`, what they send, the broker, and a gateway that may die and boot anew
at any time.  `client_setup` gives each session a client id and a Last Will of its own.

* `machine`: the main loop, the network and the broker, one step at a time.
* `Fits`: a connection as the log of its session has it, against the line to the broker.
* `dead_gateway_offline`: **the Last Will**: a gateway that dies while a session serves is
  told dead, on the status topic of that session, as soon as the broker finds the
  connection gone, and until it accepts another.
* `announced_retained`: **the announcement**: while a session serves, what was last
  announced on its connection is what is retained, once it has arrived.
* `retained_is_status`: the broker is given nothing else to retain.
-/

namespace ClimateNode.Gateway.LastWill

open Automata Mqtt Monitor Wire

/-! ### What the broker is told -/

/-- `kNodeClientId`. -/
def kNodeClientId : String := "nucleo-1"

/-- `kPeerClientId`. -/
def kPeerClientId : String := "nucleo-2"

/-- `client_id` of each session. -/
def clientId : SessionId → String
  | .own => kNodeClientId
  | .peer => kPeerClientId

/-- The Last Will of `client_setup`. -/
def will (i : SessionId) : Message Topic Bytes := ⟨.status i, cstr "offline", true⟩

lemma clientId_injective : clientId.Injective := by
  intro i j h
  cases i <;> cases j <;> first | rfl | exact absurd h (by decide)

lemma status_injective : Topic.status.Injective := fun _ _ h => Topic.status.inj h

/-- What a call sends the broker, if it succeeds; `mqtt_disconnect` may fail for a
connection that is lost, and `mqtt_abort` sends nothing. -/
def packetOf (i : SessionId) : Event → Option (Mqtt.Packet Topic Bytes)
  | .connect rc => if rc = 0 then some (.connect (will i)) else none
  | .publish param rc =>
      if rc = 0 then some (.publish ⟨param.topic, param.payload, param.retain⟩) else none
  | .disconnect => some .disconnect
  | _ => none

/-- A line after a call. -/
def carry (i : SessionId) (c : Line Topic Bytes) (e : Entry) : Line Topic Bytes :=
  (packetOf i e.event).elim c c.send

/-- The main loop, and the broker with the lines to it. -/
structure State where
  gw : Passes.State
  net : Net SessionId String Topic Bytes

/-- What a session did in a step of the main loop. -/
def added (ss tt : Sessions) (i : SessionId) : List Entry := (tt i).log.drop (ss i).log.length

/-- The lines after it. -/
def sendAll (n : Net SessionId String Topic Bytes) (ss tt : Sessions) :
    Net SessionId String Topic Bytes :=
  { n with line := fun i => (added ss tt i).foldl (carry i) (n.line i) }

/-- A step of the main loop; the board loses its power and boots anew; the broker or the
network does something. -/
inductive Label where
  | loop (l : Passes.Label)
  | reset
  | net (a : Net.Action SessionId)

/-- The board is dead until it boots anew: its main loop takes no step before. -/
def deadUntilReset : List Label → Prop
  | [] => True
  | .loop _ :: _ => False
  | .net _ :: later => deadUntilReset later
  | .reset :: _ => True

section Machine

variable (pb : Nanopb) (node : NodeIdentity)

/-- A CONNECT is acknowledged when the broker has accepted it. -/
def acknowledges (s : State) : Passes.Label → Prop
  | .event i (.connack result) =>
      result = 0 → (s.net.line i).accepted = (s.net.line i).opened
  | _ => True

instance (s : State) (l : Passes.Label) : Decidable (acknowledges s l) :=
  match l with
  | .event i (.connack result) => decidable_of_iff
      (result = 0 → (s.net.line i).accepted = (s.net.line i).opened) Iff.rfl
  | .event _ .disconnect | .event _ (.publish ..) | .event _ (.puback _) | .event _ (.suback _)
  | .event _ .other | .top _ | .connect .. | .poll _ | .input .. | .clock _ | .step ..
  | .publish .. | .disconnected _ => isTrue trivial

/-- Which step may come next. -/
def enabled (s : State) : Label → Prop
  | .loop l => ((Passes.machine pb node).restrict Passes.brokerDelivers).enabled s.gw l ∧
      acknowledges s l
  | .reset | .net _ => True

instance (s : State) (l : Label) : Decidable (enabled pb node s l) := by
  cases l <;> dsimp only [enabled] <;> infer_instance

/-- What each step does. -/
def next (s : State) : Label → State
  | .loop l =>
      let gw := Passes.next pb node s.gw l
      ⟨gw, sendAll s.net s.gw.sessions gw.sessions⟩
  | .reset => { s with gw := Passes.boot }
  | .net a => { s with net := s.net.act clientId a }

/-- The gateway and the broker. -/
def machine : Machine State Label := ⟨⟨Passes.boot, .initial⟩, enabled pb node, next pb node⟩

instance (s : State) (l : Label) : Decidable ((machine pb node).enabled s l) :=
  inferInstanceAs (Decidable (enabled pb node s l))

end Machine

/-! ### What is retained -/

/-- What is retained on the topic of a node: the will, or an announcement. -/
def statusWord (topic : Topic) (payload : Bytes) : Prop :=
  ∃ i : SessionId, topic = .status i ∧ (payload = cstr "online" ∨ payload = cstr "offline")

/-! ### A connection in the log and on the line -/

/-- What a call makes of the newest announcement. -/
def announce (r : Option Bytes) (e : Entry) : Option Bytes :=
  match e.event with
  | .connect rc => if rc = 0 then none else r
  | .publish param rc => if rc = 0 ∧ param.retain then some param.payload else r
  | _ => r

/-- The newest message to be retained since the last CONNECT. -/
def announced (log : List Entry) : Option Bytes := log.foldl announce none

lemma announced_concat (log : List Entry) (e : Entry) :
    announced (log ++ [e]) = announce (announced log) e := by simp [announced]

/-- A line, as the log has it. -/
def Fits (c : Line Topic Bytes) (log : List Entry) : Phase → Prop
  | .closed => True
  | .opened accepted => c.closed = false ∧ 0 < c.opened ∧
      (accepted = true → c.accepted = c.opened) ∧ c.newest = announced log

/-- A session and its line: what the broker has of it, the phase of its log, that nothing but
a status is to be retained, and that the gateway only ever announces itself as online. -/
structure Coupled (i : SessionId) (log : List Entry) (c : Line Topic Bytes)
    (session : Option (Conn SessionId Topic Bytes)) (retained : Option Bytes) : Prop where
  held : Held (.status i) (cstr "offline") i c session retained
  fits : ∀ p, phaseOf log = some p → Fits c log p
  words : ∀ x ∈ c.sent, x.2.Says statusWord
  online : i = .own → ∀ payload, announced log = some payload → payload = cstr "online"

section Coupled

variable {pb : Nanopb} {node : NodeIdentity} {src : Origin} {i : SessionId} {log : List Entry}
  {c : Line Topic Bytes} {e : Entry}
  {session : Option (Conn SessionId Topic Bytes)} {retained : Option Bytes}

/-- A packet is the session's own, and has a status retained or nothing. -/
lemma packetOf_own (he : quiet pb node src i e.event ∨ e.event = .connack 0)
    {p : Mqtt.Packet Topic Bytes} (hp : packetOf i e.event = some p) :
    p.Own (.status i) (cstr "offline") ∧ p.Says statusWord := by
  cases hev : e.event with
  | connect rc =>
      simp only [hev, packetOf] at hp
      split_ifs at hp
      obtain rfl := Option.some.inj hp
      exact ⟨rfl, fun _ => ⟨i, rfl, .inr rfl⟩⟩
  | publish param rc =>
      simp only [hev, packetOf] at hp
      split_ifs at hp
      obtain rfl := Option.some.inj hp
      have hquiet : quiet pb node src i (.publish param rc) := by simpa [hev] using he
      have hretained := Published.retained hquiet
      exact ⟨fun hretain => (hretained hretain).1, fun hretain =>
        ⟨i, (hretained hretain).1, (hretained hretain).2.imp_right And.right⟩⟩
  | disconnect =>
      simp only [hev, packetOf] at hp
      obtain rfl := Option.some.inj hp
      exact ⟨trivial, trivial⟩
  | _ => simp [hev, packetOf] at hp

/-- One call: the phase of the log follows the line. -/
lemma Fits.entry {a b : Phase} (h : Fits c log a) (hstep : phaseStep a e = some b)
    (hack : e.event = .connack 0 → c.accepted = c.opened) :
    Fits (carry i c e) (log ++ [e]) b := by
  obtain ⟨st, event⟩ := e
  cases a with
  | closed =>
      cases b with
      | closed => trivial
      | opened accepted =>
          obtain ⟨he, rfl⟩ := phaseStep_opened hstep
          obtain ⟨rfl, rfl⟩ := Entry.mk.inj he
          simp [Fits, carry, packetOf, Line.send, announced_concat, announce]
  | opened accepted =>
      cases b with
      | closed => trivial
      | opened accepted' =>
          obtain ⟨hclosed, hpos, haccepted, hnewest⟩ := h
          have hopens := (phaseStep_within hstep).1
          have htears := (phaseStep_within hstep).2
          cases event with
          | connect rc => cases hopens
          | abort | disconnect => cases htears
          | publish param rc =>
              -- a session sends once it was accepted
              obtain ⟨hphase, -⟩ := phaseStep_send hstep rfl
              obtain rfl : accepted = true := Phase.opened.inj hphase
              have hacc := haccepted rfl
              by_cases hrc : rc = 0
              · simp only [carry, packetOf, hrc, if_true, Option.elim_some, Line.send, Fits,
                  announced_concat, announce, true_and]
                exact ⟨hclosed, hpos, fun _ => hacc, by split_ifs <;> simp [hnewest]⟩
              · simpa [carry, packetOf, hrc, Fits, announced_concat, announce] using
                  ⟨hclosed, hpos, fun _ => hacc, hnewest⟩
          | subscribe topics messageId rc | puback messageId =>
              obtain ⟨hphase, -⟩ := phaseStep_send hstep rfl
              obtain rfl : accepted = true := Phase.opened.inj hphase
              simpa [carry, packetOf, Fits, announced_concat, announce] using
                ⟨hclosed, hpos, fun _ => haccepted rfl, hnewest⟩
          | connack result =>
              refine ⟨hclosed, hpos, fun htrue => ?_, by
                simpa [carry, packetOf, announced_concat, announce] using hnewest⟩
              -- the CONNACK that accepts is of the newest connection
              cases accepted with
              | true => exact haccepted rfl
              | false => exact hack (phaseStep_accepted (htrue ▸ hstep))
          | gotPuback messageId | gotSuback messageId =>
              have hsame : accepted' = true → accepted = true := by
                cases accepted <;> cases st <;> simp_all [phaseStep]
              simpa [carry, packetOf, Fits, announced_concat, announce] using
                ⟨hclosed, hpos, fun h => haccepted (hsame h), hnewest⟩

/-- **One call** of a session. -/
lemma Coupled.entry (h : Coupled i log c session retained) {a b : Phase}
    (ha : phaseOf log = some a) (hstep : phaseStep a e = some b)
    (he : quiet pb node src i e.event ∨ e.event = .connack 0 ∧ c.accepted = c.opened) :
    Coupled i (log ++ [e]) (carry i c e) session retained where
  held := by
    rw [carry]
    cases hp : packetOf i e.event with
    | none => exact h.held
    | some p => exact h.held.sends (packetOf_own (he.imp id And.left) hp).1
  fits p hp := by
    have hb : b = p := by
      rw [phaseOf_append ha] at hp
      simpa [hstep] using hp
    refine hb ▸ (h.fits a ha).entry hstep fun hack => ?_
    -- of the calls of a step only the CONNACK asks for more
    have hloud : ¬ quiet pb node src i e.event := by simp [hack, quiet]
    exact (he.resolve_left hloud).2
  words x hx := by
    rw [carry] at hx
    cases hp : packetOf i e.event with
    | none => exact h.words x (by simpa [hp] using hx)
    | some p =>
        rw [hp, Option.elim_some, Line.mem_sent_send] at hx
        rcases hx with hx | hx
        · exact h.words x hx
        · exact hx ▸ (packetOf_own (he.imp id And.left) hp).2
  online hi payload hpayload := by
    subst hi
    rw [announced_concat, announce] at hpayload
    split at hpayload
    · split_ifs at hpayload
      exact h.online rfl payload hpayload
    · rename_i param rc hev
      split_ifs at hpayload with hsent
      · obtain rfl := Option.some.inj hpayload
        have hquiet : quiet pb node src .own (.publish param rc) := by simpa [hev] using he
        simpa using (Published.retained hquiet hsent.2).2
      · exact h.online rfl payload hpayload
    · exact h.online rfl payload hpayload

/-- **Several calls** of a session keep it coupled. -/
lemma Coupled.entries (h : Coupled i log c session retained) {entries : List Entry} {q : Phase}
    (hread : phaseOf (log ++ entries) = some q)
    (hquiet : ∀ e ∈ entries, quiet pb node src i e.event) :
    Coupled i (log ++ entries) (entries.foldl (carry i) c) session retained := by
  induction entries generalizing log c with
  | nil => simpa using h
  | cons e entries ih =>
      have hall := hread
      rw [phaseOf, read_append] at hall
      obtain ⟨a, ha, hrest⟩ := Option.bind_eq_some_iff.mp hall
      rw [read_cons] at hrest
      obtain ⟨b, hb, -⟩ := Option.bind_eq_some_iff.mp hrest
      have hone := h.entry ha hb (.inl (hquiet e List.mem_cons_self))
      have htail := ih hone (by simpa using hread) fun e' he' =>
        hquiet e' (List.mem_cons_of_mem _ he')
      simpa using htail

end Coupled

/-! ### Runs -/

section Runs

variable {pb : Nanopb} {node : NodeIdentity} {s t : State} {ls after : List Label}

/-- What the broker has of both sessions. -/
def Together (s : State) : Prop :=
  ∀ i, Coupled i (s.gw.sessions i).log (s.net.line i) (s.net.session (clientId i))
    (s.net.retained (.status i))

/-- Whenever the power went, the main loop is in a state of its own. -/
lemma gw_reachable (hrun : (machine pb node).Run ls s) :
    ((Passes.machine pb node).restrict Passes.brokerDelivers).Reachable s.gw := by
  induction hrun with
  | nil => exact .init _
  | @snoc ls s l _ hl ih =>
      cases l with
      | loop l =>
          obtain ⟨ks, hks⟩ := ih
          exact ⟨ks ++ [l], hks.snoc hl.1⟩
      | reset => exact .init _
      | net a => exact ih

/-- The log of a session reads through. -/
lemma phase_of_reachable {gw : Passes.State}
    (h : ((Passes.machine pb node).restrict Passes.brokerDelivers).Reachable gw) (i : SessionId) :
    ∃ p, phaseOf (gw.sessions i).log = some p ∧ p.Fits (gw.sessions i) := by
  obtain ⟨ks, hks⟩ := h
  exact (Passes.disciplined_of_run hks i).phase

/-- A step of the main loop. -/
lemma Together.loop (h : Together s) {l : Passes.Label}
    (hgw : ((Passes.machine pb node).restrict Passes.brokerDelivers).Reachable s.gw)
    (hl : (machine pb node).enabled s (.loop l)) :
    Together ((machine pb node).next s (.loop l)) := by
  intro i
  have hgw' : ((Passes.machine pb node).restrict Passes.brokerDelivers).Reachable
      (Passes.next pb node s.gw l) := by
    obtain ⟨ks, hks⟩ := hgw
    exact ⟨ks ++ [l], hks.snoc hl.1⟩
  obtain ⟨a, ha, -⟩ := phase_of_reachable hgw i
  obtain ⟨b, hb, -⟩ := phase_of_reachable hgw' i
  change Coupled i ((Passes.next pb node s.gw l).sessions i).log
    ((added s.gw.sessions (Passes.next pb node s.gw l).sessions i).foldl (carry i) (s.net.line i))
    _ _
  by_cases hack : l = .event i (.connack 0)
  · subst hack
    have hlog : ((Passes.next pb node s.gw (.event i (.connack 0))).sessions i).log =
        (s.gw.sessions i).log ++ [⟨(s.gw.sessions i).state, .connack 0⟩] := by
      simp [Passes.next, Sessions.mqttEvtHandler, Sessions.on]
    rw [hlog, phaseOf_append ha] at hb
    have hstep : phaseStep a ⟨(s.gw.sessions i).state, .connack 0⟩ = some b := by simpa using hb
    have hack : quiet pb node .any i (.connack 0) ∨ Event.connack 0 = .connack 0 ∧
        (s.net.line i).accepted = (s.net.line i).opened := .inr ⟨rfl, hl.2 rfl⟩
    have hone := (h i).entry ha hstep hack
    rw [added, hlog, List.drop_left]
    exact hone
  · obtain ⟨entries, hlog, hquiet⟩ : Adds pb node .any i (s.gw.sessions i)
      ((Passes.next pb node s.gw l).sessions i) := adds_next (takes_any s.gw l) hack
    rw [hlog] at hb
    rw [added, hlog, List.drop_left]
    exact (h i).entries hb hquiet

/-- A step of the network or the broker. -/
lemma Together.net (h : Together s) (hwords : Says statusWord s.net) (a : Net.Action SessionId)
    (i : SessionId) :
    Coupled i (s.gw.sessions i).log ((s.net.act clientId a).line i)
      ((s.net.act clientId a).session (clientId i))
      ((s.net.act clientId a).retained (.status i)) := by
  have hsound : Sound clientId Topic.status (cstr "offline") s.net := fun i => (h i).held
  have hheld := hsound.act clientId_injective status_injective a i
  obtain ⟨hopened, hclosed, hnewest, hle⟩ := hsound.line_act a i
  refine ⟨hheld, fun p hp => ?_, (hwords.act clientId a).sent i, (h i).online⟩
  have hold := (h i).fits p hp
  cases p with
  | closed => trivial
  | opened accepted =>
      refine ⟨hclosed ▸ hold.1, hopened ▸ hold.2.1, fun hacc => ?_, hnewest ▸ hold.2.2.2⟩
      have heq := hold.2.2.1 hacc
      exact hheld.accepted_le.antisymm (by rw [hopened, ← heq]; exact hle)

/-- **What holds in every run**, of both sessions and of all that is retained. -/
theorem together_of_run (hrun : (machine pb node).Run ls s) :
    Together s ∧ Says statusWord s.net := by
  induction hrun with
  | nil =>
      refine ⟨fun i => ⟨.initial, fun p hp => ?_, by simp [machine, Net.initial, Line.initial],
        by simp [machine, Passes.boot, Session.initial, announced]⟩, .initial⟩
      obtain rfl : Phase.closed = p := Option.some.inj hp
      trivial
  | @snoc ls s l hrun hl ih =>
      cases l with
      | loop l =>
          have htogether := ih.1.loop (gw_reachable hrun) hl
          exact ⟨htogether, fun i => (htogether i).words, ih.2.will, ih.2.retained⟩
      | reset =>
          refine ⟨fun i => ⟨(ih.1 i).held, fun p hp => ?_, (ih.1 i).words,
            fun _ payload hp => by cases hp⟩, ih.2⟩
          obtain rfl : Phase.closed = p := Option.some.inj hp
          trivial
      | net a => exact ⟨fun i => ih.1.net ih.2 a i, ih.2.act clientId a⟩

/-- The newest connection is accepted, and has not said goodbye. -/
def Alive (s : State) (i : SessionId) : Prop :=
  (s.net.line i).closed = false ∧ 0 < (s.net.line i).opened ∧
    (s.net.line i).accepted = (s.net.line i).opened

/-- A serving session has such a connection. -/
lemma alive_of_serving (hrun : (machine pb node).Run ls s) {i : SessionId}
    (hserving : (s.gw.sessions i).state = .serving) : Alive s i ∧
      (s.net.line i).newest = announced (s.gw.sessions i).log := by
  obtain ⟨p, hp, hfits⟩ := phase_of_reachable (gw_reachable hrun) i
  have hline := ((together_of_run hrun).1 i).fits p hp
  cases p with
  | closed => exact absurd hserving (by simp [show (s.gw.sessions i).state = .idle from hfits])
  | opened accepted =>
      have hacc : accepted = true := by
        rcases hfits with ⟨hst, -⟩ | ⟨-, hacc⟩
        · exact absurd (hst.symm.trans hserving) (by simp)
        · exact hacc
      exact ⟨⟨hline.1, hline.2.1, hline.2.2.1 hacc⟩, hline.2.2.2⟩

/-- The broker and the network leave it so. -/
lemma Alive.net {i : SessionId} (h : Alive s i) (htogether : Together s)
    (a : Net.Action SessionId) : Alive { s with net := s.net.act clientId a } i := by
  have hsound : Sound clientId Topic.status (cstr "offline") s.net := fun i => (htogether i).held
  have hheld := hsound.act clientId_injective status_injective a i
  obtain ⟨hopened, hclosed, -, hle⟩ := hsound.line_act a i
  exact ⟨hclosed ▸ h.1, hopened ▸ h.2.1,
    hheld.accepted_le.antisymm (by rw [hopened, ← h.2.2]; exact hle)⟩

/-! ### A gateway that dies -/

/-- Connection `k` of a session, from before a reset: nothing the session sends since is on
it. -/
structure Past (k : ℕ) (log : List Entry) (c : Line Topic Bytes) : Prop where
  le : k ≤ c.opened
  goodbye : (k, Mqtt.Packet.disconnect) ∉ c.sent
  newer : ∀ accepted, phaseOf log = some (.opened accepted) → k < c.opened

lemma carry_accepted (i : SessionId) (c : Line Topic Bytes) (e : Entry) :
    (carry i c e).accepted = c.accepted := by
  rw [carry]
  rcases packetOf i e.event with _ | (_ | _ | _) <;> rfl

lemma foldl_carry_accepted (i : SessionId) (entries : List Entry) (c : Line Topic Bytes) :
    (entries.foldl (carry i) c).accepted = c.accepted := by
  induction entries generalizing c with
  | nil => rfl
  | cons e entries ih => exact (ih _).trans (carry_accepted i c e)

lemma opened_le_carry (i : SessionId) (c : Line Topic Bytes) (e : Entry) :
    c.opened ≤ (carry i c e).opened := by
  rw [carry]
  rcases packetOf i e.event with _ | (_ | _ | _)
  · exact le_rfl
  · exact Nat.le_succ _
  · exact le_rfl
  · exact le_rfl

/-- One call more: only a session that has connected again says goodbye. -/
lemma Past.entry {k : ℕ} {log : List Entry} {c : Line Topic Bytes} (h : Past k log c)
    {i : SessionId} {e : Entry} {a b : Phase} (ha : phaseOf log = some a)
    (hstep : phaseStep a e = some b) : Past k (log ++ [e]) (carry i c e) := by
  have hle := opened_le_carry i c e
  cases a with
  | closed =>
      cases b with
      | closed =>
          have hnothing : packetOf i e.event = none := by
            obtain ⟨st, event⟩ := e
            cases st <;> cases event <;> simp_all [phaseStep, packetOf]
          refine ⟨h.le.trans hle, ?_, fun accepted hopened => ?_⟩
          · simpa [carry, hnothing] using h.goodbye
          · rw [phaseOf_append ha] at hopened
            simp [hstep] at hopened
      | opened accepted =>
          obtain ⟨rfl, -⟩ := phaseStep_opened hstep
          have hlt : k < c.opened + 1 := Nat.lt_succ_of_le h.le
          refine ⟨hlt.le, ?_, fun _ _ => hlt⟩
          simpa [carry, packetOf, Line.send] using h.goodbye
  | opened accepted =>
      have hlt : k < c.opened := h.newer accepted ha
      refine ⟨h.le.trans hle, fun hmem => ?_, fun _ _ => hlt.trans_le hle⟩
      rw [carry] at hmem
      cases hp : packetOf i e.event with
      | none => exact h.goodbye (by simpa [hp] using hmem)
      | some p =>
          rw [hp, Option.elim_some, Line.mem_sent_send] at hmem
          rcases hmem with hmem | hmem
          · exact h.goodbye hmem
          · have hopened : (c.send p).opened = (carry i c e).opened := by
              rw [carry, hp, Option.elim_some]
            have hk : k = (c.send p).opened := congrArg Prod.fst hmem
            omega

/-- **Several calls** of a session that is past a connection. -/
lemma Past.entries {k : ℕ} {log : List Entry} {c : Line Topic Bytes} (h : Past k log c)
    {i : SessionId} {entries : List Entry} {q : Phase}
    (hread : phaseOf (log ++ entries) = some q) :
    Past k (log ++ entries) (entries.foldl (carry i) c) := by
  induction entries generalizing log c with
  | nil => simpa using h
  | cons e entries ih =>
      have hall := hread
      rw [phaseOf, read_append] at hall
      obtain ⟨a, ha, hrest⟩ := Option.bind_eq_some_iff.mp hall
      rw [read_cons] at hrest
      obtain ⟨b, hb, -⟩ := Option.bind_eq_some_iff.mp hrest
      have htail := ih (h.entry (i := i) ha hb) (by simpa using hread)
      simpa using htail

/-- What a step of the main loop adds to the log of a session. -/
lemma log_next (gw : Passes.State) (l : Passes.Label) (i : SessionId) :
    ∃ entries, ((Passes.next pb node gw l).sessions i).log = (gw.sessions i).log ++ entries := by
  by_cases hack : l = .event i (.connack 0)
  · subst hack
    exact ⟨[⟨(gw.sessions i).state, .connack 0⟩], by
      simp [Passes.next, Sessions.mqttEvtHandler, Sessions.on]⟩
  · obtain ⟨entries, hlog, -⟩ : Adds pb node .any i (gw.sessions i)
      ((Passes.next pb node gw l).sessions i) := adds_next (takes_any gw l) hack
    exact ⟨entries, hlog⟩

/-- The connection a gateway had when it died, once it has booted anew. -/
structure Left (i : SessionId) (k : ℕ) (s : State) : Prop where
  past : Past k (s.gw.sessions i).log (s.net.line i)
  unclosed : Unclosed (cstr "offline") k (s.net.line i) (s.net.session (clientId i))
    (s.net.retained (.status i))

/-- No step takes an acceptance back. -/
lemma accepted_le_next (hrun : (machine pb node).Run ls s) {l : Label}
    (hl : (machine pb node).enabled s l) (i : SessionId) :
    (s.net.line i).accepted ≤ (((machine pb node).next s l).net.line i).accepted := by
  cases l with
  | loop l => exact (foldl_carry_accepted i _ _).ge
  | reset => exact le_rfl
  | net a =>
      have hsound : Sound clientId Topic.status (cstr "offline") s.net := fun i =>
        ((together_of_run hrun).1 i).held
      exact (hsound.line_act a i).2.2.2

lemma accepted_le_path (hrun : (machine pb node).Run ls s)
    (hafter : (machine pb node).Path s after t) (i : SessionId) :
    (s.net.line i).accepted ≤ (t.net.line i).accepted := by
  induction hafter generalizing ls with
  | nil s => exact le_rfl
  | cons hl _ ih => exact (accepted_le_next hrun hl i).trans (ih (hrun.snoc hl))

/-- **One step** of the gateway, the network or the broker, while no newer connection is
accepted. -/
lemma Left.next {i : SessionId} {k : ℕ} (h : Left i k s) (hrun : (machine pb node).Run ls s)
    {l : Label} (hl : (machine pb node).enabled s l)
    (haccepted : (((machine pb node).next s l).net.line i).accepted = k) :
    Left i k ((machine pb node).next s l) := by
  cases l with
  | loop l =>
      obtain ⟨entries, hlog⟩ : ∃ entries, ((Passes.next pb node s.gw l).sessions i).log =
          (s.gw.sessions i).log ++ entries := log_next s.gw l i
      obtain ⟨q, hq, -⟩ := phase_of_reachable (gw_reachable (hrun.snoc hl)) i
      have hread : phaseOf ((s.gw.sessions i).log ++ entries) = some q := hlog ▸ hq
      have hline : ((machine pb node).next s (.loop l)).net.line i =
          entries.foldl (carry i) (s.net.line i) := by
        change (added s.gw.sessions (Passes.next pb node s.gw l).sessions i).foldl _ _ = _
        rw [added, hlog, List.drop_left]
      have hpast := h.past.entries (i := i) hread
      refine ⟨?_, haccepted, ?_, h.unclosed.kept⟩
      · rw [hline]
        exact hlog.symm ▸ hpast
      · rw [hline]
        exact hpast.goodbye
  | reset =>
      refine ⟨⟨h.past.le, h.past.goodbye, fun accepted hopened => ?_⟩, h.unclosed⟩
      exact absurd (Option.some.inj hopened : Phase.closed = .opened accepted) (by simp)
  | net a =>
      have hsound : Sound clientId Topic.status (cstr "offline") s.net := fun i =>
        ((together_of_run hrun).1 i).held
      have hunclosed := h.unclosed.act hsound clientId_injective status_injective a haccepted
      have hopened := (hsound.line_act a i).1
      refine ⟨⟨hopened ▸ h.past.le, hunclosed.goodbye, fun accepted hphase => ?_⟩, hunclosed⟩
      exact hopened ▸ h.past.newer accepted hphase

lemma Left.path {i : SessionId} {k : ℕ} (h : Left i k s) (hrun : (machine pb node).Run ls s)
    (hafter : (machine pb node).Path s after t) (haccepted : (t.net.line i).accepted = k) :
    Left i k t := by
  induction hafter generalizing ls with
  | nil s => exact h
  | @cons s t l after hl hafter ih =>
      refine ih (h.next hrun hl (le_antisymm ?_ ?_)) (hrun.snoc hl) haccepted
      · exact haccepted ▸ accepted_le_path (hrun.snoc hl) hafter i
      · exact h.unclosed.accepted ▸ accepted_le_next hrun hl i

/-- The board boots anew. -/
lemma Alive.reset {i : SessionId} (h : Alive s i) (htogether : Together s) :
    Left i (s.net.line i).opened ((machine pb node).next s .reset) := by
  obtain ⟨hclosed, hpos, haccepted⟩ := h
  have hheld := (htogether i).held
  refine ⟨⟨le_rfl, hheld.goodbye hclosed, fun accepted hopened => ?_⟩,
    haccepted, hheld.goodbye hclosed, hheld.kept hclosed haccepted hpos⟩
  exact absurd (Option.some.inj hopened : Phase.closed = .opened accepted) (by simp)

/-- What is retained once the connection of a dead gateway is gone. -/
lemma Alive.offline {i : SessionId} (h : Alive s i) (hrun : (machine pb node).Run ls s)
    (hafter : (machine pb node).Path s after t) (hdead : deadUntilReset after)
    (haccepted : (t.net.line i).accepted = (s.net.line i).accepted)
    (hgone : t.net.session (clientId i) = none) :
    t.net.retained (.status i) = some (cstr "offline") := by
  induction hafter generalizing ls with
  | nil s => exact ((together_of_run hrun).1 i).held.kept h.1 h.2.2 h.2.1 hgone
  | @cons s t l after hl hafter ih =>
      have htogether := (together_of_run hrun).1
      cases l with
      | loop l => exact absurd hdead id
      | reset =>
          -- from now on the session may connect again
          have hleft := (h.reset htogether).path (hrun.snoc hl) hafter (haccepted.trans h.2.2)
          exact hleft.unclosed.kept hgone
      | net a =>
          have halive := h.net htogether a
          have hsame : ((s.net.act clientId a).line i).accepted = (s.net.line i).accepted := by
            have hsound : Sound clientId Topic.status (cstr "offline") s.net := fun i =>
              (htogether i).held
            rw [h.2.2, ← (hsound.line_act a i).1]
            exact halive.2.2
          exact ih halive (hrun.snoc hl) hdead (haccepted.trans hsame.symm) hgone

/-- **The Last Will**: the gateway dies while a session serves, in any run of it, and however
often it failed before.  Once the broker has found the connection gone, whatever was still on
its way and whatever the board does when it has booted again, the node is retained as offline
as long as no newer connection of the session is accepted. -/
theorem dead_gateway_offline (hrun : (machine pb node).Run ls s) {i : SessionId}
    (hserving : (s.gw.sessions i).state = .serving)
    (hafter : (machine pb node).Path s after t) (hdead : deadUntilReset after)
    (haccepted : (t.net.line i).accepted = (s.net.line i).accepted)
    (hgone : t.net.session (clientId i) = none) :
    t.net.retained (.status i) = some (cstr "offline") :=
  (alive_of_serving hrun hserving).1.offline hrun hafter hdead haccepted hgone

/-- The names of the gateway. -/
def board : NodeIdentity := ⟨cstr "nucleo_h753zi", cstr "nucleo-1"⟩

/-- The own session connects, is accepted and announces itself. -/
def announcedRun : List Label :=
  ([.top 0, .connect .own 0 5, .connect .peer (-116) 6] : List Passes.Label).map .loop ++
    [.net (.receive .own)] ++
    ([.poll (some fun d => d == .sock .own), .event .own (.connack 0), .input .own 0 0,
      .input .peer 0 0, .clock 7, .step .own ⟨none, 0, 0, 0, 0⟩] : List Passes.Label).map .loop ++
    [.net (.receive .own)]

/-- The board boots again and its main loop starts, before the broker notices. -/
def rebootRun : List Label := [.reset, .loop (.top 0), .net (.lose .own)]

/-- The gateway was retained as online, and dies. -/
theorem announcedRun_offline : ∃ s t,
    (machine Nanopb.proto3 board).Run announcedRun s ∧
    s.net.retained (.status .own) = some (cstr "online") ∧
    (machine Nanopb.proto3 board).Path s rebootRun t ∧
    t.net.retained (.status .own) = some (cstr "offline") := by
  have hrun : (machine Nanopb.proto3 board).Run announcedRun _ :=
    Machine.run_of_exec rfl
  have hpath (s : State) : ∃ t, t = rebootRun.foldl (machine Nanopb.proto3 board).next s ∧
      (machine Nanopb.proto3 board).Path s rebootRun t :=
    ⟨_, rfl, .cons trivial (.cons ⟨⟨rfl, trivial⟩, trivial⟩ (.cons trivial (.nil _)))⟩
  obtain ⟨t, rfl, hpath⟩ := hpath _
  have hoffline := dead_gateway_offline hrun (i := .own) rfl hpath trivial rfl rfl
  exact ⟨_, _, hrun, rfl, hpath, hoffline⟩

/-- What was last announced is retained once it has arrived. -/
lemma arrived_of_serving (hrun : (machine pb node).Run ls s) {i : SessionId}
    (hserving : (s.gw.sessions i).state = .serving)
    (hopen : s.net.session (clientId i) ≠ none) (harrived : (s.net.line i).sent = [])
    {payload : Bytes} (hannounced : announced (s.gw.sessions i).log = some payload) :
    s.net.retained (.status i) = some payload := by
  obtain ⟨⟨-, -, haccepted⟩, hnewest⟩ := alive_of_serving hrun hserving
  have hheld := ((together_of_run hrun).1 i).held
  obtain ⟨conn, hconn⟩ := Option.ne_none_iff_exists'.mp hopen
  have hnumber : conn.number = (s.net.line i).opened := by
    rw [hheld.conn conn hconn]
    exact haccepted
  have hlast := hheld.arrives conn hconn hnumber payload (hnewest.trans hannounced)
  rwa [Line.arriving, harrived] at hlast

/-- **The announcement**: while a session serves and its connection is open, with nothing on
its way, the retained status is what was last announced on this connection, and for the
gateway itself that is that it is online. -/
theorem announced_retained (hrun : (machine pb node).Run ls s) {i : SessionId}
    (hserving : (s.gw.sessions i).state = .serving)
    (hopen : s.net.session (clientId i) ≠ none) (harrived : (s.net.line i).sent = [])
    {payload : Bytes} (hannounced : announced (s.gw.sessions i).log = some payload) :
    s.net.retained (.status i) = some payload ∧ (i = .own → payload = cstr "online") :=
  ⟨arrived_of_serving hrun hserving hopen harrived hannounced, fun hown =>
    ((together_of_run hrun).1 i).online hown payload hannounced⟩

/-- What `announcedRun` announced has arrived. -/
theorem announcedRun_retained : ∃ s,
    (machine Nanopb.proto3 board).Run announcedRun s ∧
    s.net.retained (.status .own) = some (cstr "online") := by
  have hrun : (machine Nanopb.proto3 board).Run announcedRun _ :=
    Machine.run_of_exec rfl
  exact ⟨_, hrun, (announced_retained hrun rfl (by decide) rfl (i := .own) rfl).1⟩

/-- **Nothing else is retained**: no reading, no Ack, and of each node only whether it is
online, on its own topic. -/
theorem retained_is_status (hrun : (machine pb node).Run ls s) {topic : Topic} {payload : Bytes}
    (hretained : s.net.retained topic = some payload) :
    ∃ i : SessionId, topic = .status i ∧ (payload = cstr "online" ∨ payload = cstr "offline") :=
  (together_of_run hrun).2.retained topic payload hretained

/-- What `announcedRun` leaves. -/
theorem announcedRun_status : ∃ s, (machine Nanopb.proto3 board).Run announcedRun s ∧
    s.net.retained (.status .own) = some (cstr "online") ∧
    ∃ i : SessionId, Topic.status .own = .status i ∧
      (cstr "online" = cstr "online" ∨ cstr "online" = cstr "offline") := by
  obtain ⟨s, hrun, hretained⟩ : ∃ s, (machine Nanopb.proto3 board).Run announcedRun s ∧
      s.net.retained (.status .own) = some (cstr "online") := ⟨_, Machine.run_of_exec rfl, rfl⟩
  exact ⟨s, hrun, hretained, retained_is_status hrun hretained⟩

end Runs

end ClimateNode.Gateway.LastWill
