import Mathlib.Data.List.Basic
import Mathlib.Order.Nat
import Mathlib.Logic.Function.Basic

/-!
An MQTT broker, as far as its memory goes: retained messages, and the will that comes with
a connection and is published when the connection is lost.  A client opens one connection
after another under its client id.  What it sends is on the way until the broker receives
it; the broker takes the connections of a client in the order they were opened, and a
CONNECT ends the connection that is open under the same client id.

* `Net`: the lines of the clients, the sessions of the broker and what it retains.
* `Line.send`: what a client does; `Net.act`: what the broker and the network do.
* `Held`: what holds of a client that retains messages on a topic of its own and has its
  will there.  **The will**: unless it said goodbye, it is connected or has been told dead
  (`kept`); **the newest message**: it is what is retained once it has arrived (`arrives`).
* `Held.sends`, `Sound.act`: the client keeps it, and so do the broker and the network.
* `Unclosed`: a connection nobody says goodbye on, after the client is gone.
* `Says`: what is retained is a will or was published.
-/

namespace Mqtt

/-- A message, and whether the broker is to retain it. -/
structure Message (τ β : Type*) where
  topic : τ
  payload : β
  retain : Bool

/-- What a client sends. -/
inductive Packet (τ β : Type*) where
  | connect (will : Message τ β)
  | publish (message : Message τ β)
  | disconnect

/-- The end of a client: how many connections it has opened, the newest of them that the
broker has accepted, whether DISCONNECT was sent on the newest, the newest message to be
retained that was sent on it, and what is on the way, oldest first, each packet with the
number of its connection. -/
structure Line (τ β : Type*) where
  opened : ℕ
  accepted : ℕ
  closed : Bool
  newest : Option β
  sent : List (ℕ × Packet τ β)

/-- A connection the broker has open. -/
structure Conn (κ τ β : Type*) where
  client : κ
  number : ℕ
  will : Message τ β

/-- The clients, and the broker, which knows them by their client ids. -/
structure Net (κ ι τ β : Type*) where
  line : κ → Line τ β
  session : ι → Option (Conn κ τ β)
  retained : τ → Option β

variable {κ ι τ β : Type*}

namespace Line

/-- Nothing opened yet. -/
def initial : Line τ β := ⟨0, 0, false, none, []⟩

/-- A client sends a packet. -/
def send (c : Line τ β) : Packet τ β → Line τ β
  | .connect will =>
      ⟨c.opened + 1, c.accepted, false, none, c.sent ++ [(c.opened + 1, .connect will)]⟩
  | .publish m =>
      { c with
        newest := if m.retain then some m.payload else c.newest
        sent := c.sent ++ [(c.opened, .publish m)] }
  | .disconnect => { c with closed := true, sent := c.sent ++ [(c.opened, .disconnect)] }

lemma mem_sent_send {c : Line τ β} {p : Packet τ β} {x : ℕ × Packet τ β} :
    x ∈ (c.send p).sent ↔ x ∈ c.sent ∨ x = ((c.send p).opened, p) := by
  cases p <;> simp [send]

/-- What a packet on its way makes of a retained message, if it is of connection `k` and
arrives. -/
def arrive (k : ℕ) (r : Option β) : ℕ × Packet τ β → Option β
  | (k', .publish m) => if k' = k ∧ m.retain then some m.payload else r
  | _ => r

/-- What the newest connection's packets on their way make of a retained message. -/
def arriving (c : Line τ β) (r : Option β) : Option β := c.sent.foldl (arrive c.opened) r

end Line

namespace Net

/-- Nobody connected, nothing retained. -/
def initial : Net κ ι τ β := ⟨fun _ => .initial, fun _ => none, fun _ => none⟩

section Steps

variable [DecidableEq κ] [DecidableEq ι] [DecidableEq τ] (clientId : κ → ι) (n : Net κ ι τ β)

/-- The broker is handed a message. -/
def store (m : Message τ β) : Net κ ι τ β :=
  if m.retain then { n with retained := Function.update n.retained m.topic (some m.payload) }
  else n

/-- The connection under a client id is lost, and the broker publishes its will. -/
def lose (id : ι) : Net κ ι τ β :=
  match n.session id with
  | none => n
  | some conn => { n.store conn.will with session := Function.update n.session id none }

/-- Connection `k` is the one open under its client id. -/
def isOpen (i : κ) (k : ℕ) : Bool :=
  (n.session (clientId i)).any fun conn => conn.client = i ∧ conn.number = k

/-- The broker receives a packet of connection `k`. -/
def take (i : κ) (k : ℕ) : Packet τ β → Net κ ι τ β
  | .connect will =>
      { n.lose (clientId i) with
        line := Function.update n.line i { n.line i with accepted := k }
        session := Function.update n.session (clientId i) (some ⟨i, k, will⟩) }
  | .publish m => if n.isOpen clientId i k then n.store m else n
  | .disconnect =>
      if n.isOpen clientId i k then
        { n with session := Function.update n.session (clientId i) none }
      else n

/-- The first packet is no longer on its way. -/
def pop (i : κ) : Net κ ι τ β :=
  { n with line := Function.update n.line i { n.line i with sent := (n.line i).sent.tail } }

/-- What the broker and the network do: the first packet is received; a CONNECT is refused,
or lost with its connection; a connection is lost. -/
inductive Action (κ : Type*) where
  | receive (i : κ)
  | refuse (i : κ)
  | lose (i : κ)
  deriving DecidableEq, Repr

/-- Who the client is. -/
def Action.client : Action κ → κ
  | .receive i | .refuse i | .lose i => i

/-- What an action of the broker or the network does. -/
def act : Action κ → Net κ ι τ β
  | .receive i =>
      match (n.line i).sent with
      | [] => n
      | (k, p) :: _ => (n.pop i).take clientId i k p
  | .refuse i =>
      match (n.line i).sent with
      | (_, .connect _) :: _ => n.pop i
      | _ => n
  | .lose i => n.lose (clientId i)

end Steps

end Net

/-! ### One client -/

/-- A packet of a client whose will is `last` on the topic `own`, and who retains nothing
elsewhere. -/
def Packet.Own (own : τ) (last : β) : Packet τ β → Prop
  | .connect will => will = ⟨own, last, true⟩
  | .publish m => m.retain = true → m.topic = own
  | .disconnect => True

/-- What is on its way: a connection that is still to be accepted begins with its CONNECT,
after all of the one before it. -/
structure OnWay (own : τ) (last : β) (opened accepted : ℕ) (sent : List (ℕ × Packet τ β)) :
    Prop where
  packets : ∀ x ∈ sent, x.2.Own own last
  number_le : ∀ x ∈ sent, x.1 ≤ opened
  accepted_lt : ∀ k will, (k, Packet.connect will) ∈ sent → accepted < k
  order : sent.Pairwise fun a b => ∀ will, b.2 = .connect will → a.1 < b.1

namespace OnWay

variable {own : τ} {last : β} {opened accepted k : ℕ} {p : Packet τ β}
  {sent : List (ℕ × Packet τ β)}

/-- One packet more. -/
lemma snoc (h : OnWay own last opened accepted sent) (hp : p.Own own last) (hk : opened ≤ k)
    (hconnect : ∀ will, p = .connect will → accepted < k ∧ opened < k) :
    OnWay own last k accepted (sent ++ [(k, p)]) where
  packets x hx := by
    rcases List.mem_append.mp hx with hx | hx
    · exact h.packets x hx
    · exact List.mem_singleton.mp hx ▸ hp
  number_le x hx := by
    rcases List.mem_append.mp hx with hx | hx
    · exact (h.number_le x hx).trans hk
    · exact (congrArg Prod.fst (List.mem_singleton.mp hx)).le
  accepted_lt k' will hmem := by
    rcases List.mem_append.mp hmem with hmem | hmem
    · exact h.accepted_lt k' will hmem
    · obtain ⟨rfl, hp⟩ := Prod.mk.inj (List.mem_singleton.mp hmem)
      exact (hconnect will hp.symm).1
  order := by
    refine List.pairwise_append.mpr ⟨h.order, List.pairwise_singleton _ _, ?_⟩
    intro a ha b hb will hwill
    obtain rfl := List.mem_singleton.mp hb
    exact (h.number_le a ha).trans_lt (hconnect will hwill).2

/-- One packet less. -/
lemma tail (h : OnWay own last opened accepted ((k, p) :: sent)) :
    OnWay own last opened accepted sent where
  packets x hx := h.packets x (List.mem_cons_of_mem _ hx)
  number_le x hx := h.number_le x (List.mem_cons_of_mem _ hx)
  accepted_lt k' will hmem := h.accepted_lt k' will (List.mem_cons_of_mem _ hmem)
  order := (List.pairwise_cons.mp h.order).2

/-- A CONNECT is accepted. -/
lemma accept {will : Message τ β}
    (h : OnWay own last opened accepted ((k, .connect will) :: sent)) :
    OnWay own last opened k sent :=
  { h.tail with
    accepted_lt := fun k' will' hmem =>
      (List.pairwise_cons.mp h.order).1 (k', .connect will') hmem will' rfl }

end OnWay

/-- A client, and what the broker has of it: `session` under its client id and `retained` on
its topic. -/
structure Held (own : τ) (last : β) (i : κ) (c : Line τ β) (session : Option (Conn κ τ β))
    (retained : Option β) : Prop where
  onWay : OnWay own last c.opened c.accepted c.sent
  accepted_le : c.accepted ≤ c.opened
  conn : ∀ conn, session = some conn → conn = ⟨i, c.accepted, ⟨own, last, true⟩⟩
  goodbye : c.closed = false → (c.opened, Packet.disconnect) ∉ c.sent
  kept : c.closed = false → c.accepted = c.opened → 0 < c.opened → session = none →
    retained = some last
  fresh : ∀ will, (c.opened, Packet.connect will) ∈ c.sent → ∀ p, c.newest = some p →
    ∀ r, c.arriving r = some p
  arrives : ∀ conn, session = some conn → conn.number = c.opened → ∀ p, c.newest = some p →
    c.arriving retained = some p

namespace Held

variable {own : τ} {last : β} {i : κ} {c : Line τ β} {session : Option (Conn κ τ β)}
  {r : Option β}

lemma initial : Held own last i Line.initial none none where
  onWay := ⟨by simp [Line.initial], by simp [Line.initial], by simp [Line.initial], .nil⟩
  accepted_le := le_rfl
  conn := by simp
  goodbye _ := by simp [Line.initial]
  kept _ _ hpos := absurd hpos (lt_irrefl 0)
  fresh := by simp [Line.initial]
  arrives := by simp

/-! ### What it sends -/

lemma connect (h : Held own last i c session r) :
    Held own last i (c.send (.connect ⟨own, last, true⟩)) session r where
  onWay := h.onWay.snoc rfl (Nat.le_succ _)
    fun _ _ => ⟨Nat.lt_succ_of_le h.accepted_le, Nat.lt_succ_self _⟩
  accepted_le := h.accepted_le.trans (Nat.le_succ _)
  conn := h.conn
  goodbye _ hmem := by
    rcases List.mem_append.mp hmem with hmem | hmem
    · exact absurd (h.onWay.number_le _ hmem) (Nat.not_succ_le_self _)
    · simp at hmem
  kept _ (heq : c.accepted = c.opened + 1) := absurd h.accepted_le (by omega)
  fresh _ _ p hp := absurd hp (by simp [Line.send])
  arrives _ _ _ p hp := absurd hp (by simp [Line.send])

lemma publish (h : Held own last i c session r) (m : Message τ β)
    (hown : m.retain = true → m.topic = own) :
    Held own last i (c.send (.publish m)) session r := by
  have hmem {p : Packet τ β} (hp : p ≠ .publish m)
      (hp' : (c.opened, p) ∈ c.sent ++ [(c.opened, .publish m)]) : (c.opened, p) ∈ c.sent := by
    rcases List.mem_append.mp hp' with hmem | hmem
    · exact hmem
    · exact absurd (Prod.mk.inj (List.mem_singleton.mp hmem)).2 hp
  have harriving : ∀ r : Option β, (c.send (.publish m)).arriving r =
      if m.retain then some m.payload else c.arriving r := fun r => by
    simp [Line.arriving, Line.send, Line.arrive]
  refine ⟨h.onWay.snoc hown le_rfl (by simp), h.accepted_le, h.conn,
    fun hclosed hgone => h.goodbye hclosed (hmem (by simp) hgone), h.kept,
    fun will hconnect p hp r => ?_, fun conn hconn hnumber p hp => ?_⟩
  · rw [harriving]
    simp only [Line.send] at hp
    split_ifs at hp ⊢
    · exact hp
    · exact h.fresh will (hmem (by simp) hconnect) p hp r
  · rw [harriving]
    simp only [Line.send] at hp
    split_ifs at hp ⊢
    · exact hp
    · exact h.arrives conn hconn hnumber p hp

lemma disconnect (h : Held own last i c session r) :
    Held own last i (c.send .disconnect) session r := by
  have harriving : ∀ r : Option β, (c.send .disconnect).arriving r = c.arriving r := fun r => by
    simp [Line.arriving, Line.send, Line.arrive]
  refine ⟨h.onWay.snoc trivial le_rfl (by simp), h.accepted_le, h.conn,
    fun hclosed => absurd hclosed (by simp [Line.send]),
    fun hclosed => absurd hclosed (by simp [Line.send]),
    fun will hconnect p hp r => ?_, fun conn hconn hnumber p hp => ?_⟩
  · rw [harriving]
    rcases List.mem_append.mp hconnect with hconnect | hconnect
    · exact h.fresh will hconnect p hp r
    · simp at hconnect
  · rw [harriving]
    exact h.arrives conn hconn hnumber p hp

/-- **What a client sends** of its own. -/
lemma sends (h : Held own last i c session r) {p : Packet τ β} (hp : p.Own own last) :
    Held own last i (c.send p) session r := by
  cases p with
  | connect will =>
      obtain rfl : will = ⟨own, last, true⟩ := hp
      exact h.connect
  | publish m => exact h.publish m hp
  | disconnect => exact h.disconnect

/-! ### What becomes of it -/

/-- The connection is lost: the will is retained. -/
lemma lost (h : Held own last i c session r) :
    Held own last i c none (some last) :=
  { h with
    conn := by simp
    kept := fun _ _ _ _ => rfl
    arrives := by simp }

variable {k : ℕ} {sent : List (ℕ × Packet τ β)}

/-- What is left when the first packet is gone, and the connection it belongs to is not the
newest. -/
lemma fresh_tail (h : Held own last i c session r) {p : Packet τ β}
    (hsent : c.sent = (k, p) :: sent) (will : Message τ β)
    (hmem : (c.opened, Packet.connect will) ∈ sent) (q : β) (hq : c.newest = some q)
    (r : Option β) : { c with sent := sent }.arriving r = some q := by
  have horder := h.onWay.order
  rw [hsent] at horder
  have hlt : k < c.opened := (List.pairwise_cons.mp horder).1 _ hmem will rfl
  have hall := h.fresh will (hsent ▸ List.mem_cons_of_mem _ hmem) q hq r
  have hskip : Line.arrive c.opened r (k, p) = r := by
    cases p <;> simp [Line.arrive, hlt.ne]
  rw [Line.arriving, hsent, List.foldl_cons, hskip] at hall
  exact hall

/-- What a packet that is received has to show, unless it is a CONNECT that is accepted. -/
lemma popped (h : Held own last i c session r) {p : Packet τ β} (hsent : c.sent = (k, p) :: sent)
    {session' : Option (Conn κ τ β)} {r' : Option β}
    (hsession : ∀ conn, session' = some conn → session = some conn)
    (hkept : c.closed = false → c.accepted = c.opened → session' = none →
      session = none ∧ r' = r ∨ p = .disconnect ∧ k = c.opened)
    (harrives : ∀ conn, session' = some conn → conn.number = c.opened →
      Line.arrive c.opened r (k, p) = r') :
    Held own last i { c with sent := sent } session' r' where
  onWay := (hsent ▸ h.onWay : OnWay own last c.opened c.accepted _).tail
  accepted_le := h.accepted_le
  conn conn hconn := h.conn conn (hsession conn hconn)
  goodbye hclosed hmem := h.goodbye hclosed (hsent ▸ List.mem_cons_of_mem _ hmem)
  kept hclosed heq hpos hnone := by
    rcases hkept hclosed heq hnone with ⟨hold, rfl⟩ | ⟨rfl, rfl⟩
    · exact h.kept hclosed heq hpos hold
    · exact absurd (by simp [hsent]) (h.goodbye hclosed)
  fresh will hmem q hq r := h.fresh_tail hsent will hmem q hq r
  arrives conn hconn hnumber q hq := by
    have hall := h.arrives conn (hsession conn hconn) hnumber q hq
    rw [Line.arriving, hsent, List.foldl_cons, harrives conn hconn hnumber] at hall
    exact hall

/-- A CONNECT is refused. -/
lemma refused (h : Held own last i c session r) {will : Message τ β}
    (hsent : c.sent = (k, .connect will) :: sent) :
    Held own last i { c with sent := sent } session r :=
  h.popped hsent (fun _ hconn => hconn) (fun _ _ hnone => .inl ⟨hnone, rfl⟩) fun _ _ _ => rfl

/-- A CONNECT is accepted; whatever was retained. -/
lemma accepted (h : Held own last i c session r) {will : Message τ β}
    (hsent : c.sent = (k, .connect will) :: sent) (r' : Option β) :
    Held own last i { c with accepted := k, sent := sent } (some ⟨i, k, will⟩) r' where
  onWay := (hsent ▸ h.onWay : OnWay own last c.opened c.accepted _).accept
  accepted_le := h.onWay.number_le (k, .connect will) (by simp [hsent])
  conn conn hconn := by
    obtain rfl := Option.some.inj hconn
    have hwill : will = ⟨own, last, true⟩ :=
      h.onWay.packets (k, .connect will) (by simp [hsent])
    rw [hwill]
  goodbye hclosed hmem := h.goodbye hclosed (hsent ▸ List.mem_cons_of_mem _ hmem)
  kept := by simp
  fresh will hmem q hq r := h.fresh_tail hsent will hmem q hq r
  arrives conn hconn hnumber q hq := by
    obtain rfl := Option.some.inj hconn
    obtain rfl : k = c.opened := hnumber
    have hall := h.fresh will (by simp [hsent]) q hq r'
    rw [Line.arriving, hsent] at hall
    exact hall

/-- A message of the open connection is received. -/
lemma published (h : Held own last i c session r) {m : Message τ β}
    (hsent : c.sent = (k, .publish m) :: sent) {conn : Conn κ τ β} (hconn : session = some conn)
    (hnumber : conn.number = k) :
    Held own last i { c with sent := sent } session (if m.retain then some m.payload else r) := by
  refine h.popped hsent (fun _ hconn => hconn) (fun _ _ hnone => ?_) fun conn' hconn' hnewest => ?_
  · exact absurd (hconn.symm.trans hnone) (by simp)
  · have hk : k = c.opened := by
      rw [← hnumber, ← hnewest, Option.some.inj (hconn.symm.trans hconn')]
    simp [Line.arrive, hk]

/-- DISCONNECT is received on the open connection: then the newest one has said goodbye, or
it is not the open one. -/
lemma disconnected (h : Held own last i c session r)
    (hsent : c.sent = (k, .disconnect) :: sent) {conn : Conn κ τ β} (hconn : session = some conn)
    (hnumber : conn.number = k) : Held own last i { c with sent := sent } none r := by
  refine h.popped hsent (by simp) (fun _ heq _ => .inr ⟨rfl, ?_⟩) (by simp)
  rw [← hnumber, h.conn conn hconn, heq]

/-- A packet of a connection that is not open is received, and is for nobody. -/
lemma ignored (h : Held own last i c session r) {p : Packet τ β} (hsent : c.sent = (k, p) :: sent)
    (hclosed : ∀ conn, session = some conn → conn.number ≠ k) :
    Held own last i { c with sent := sent } session r := by
  refine h.popped hsent (fun _ hconn => hconn) (fun _ _ hnone => .inl ⟨hnone, rfl⟩)
    fun conn hconn hnumber => ?_
  have hk : k ≠ c.opened := fun heq => hclosed conn hconn (hnumber.trans heq.symm)
  cases p <;> simp [Line.arrive, hk]

end Held

/-! ### All of them -/

/-- What holds of every client. -/
def Sound (clientId : κ → ι) (own : κ → τ) (last : β) (n : Net κ ι τ β) : Prop :=
  ∀ i, Held (own i) last i (n.line i) (n.session (clientId i)) (n.retained (own i))

namespace Sound

variable {clientId : κ → ι} {own : κ → τ} {last : β} {n : Net κ ι τ β} {k : ℕ} {i : κ}
  {p : Packet τ β} {sent : List (ℕ × Packet τ β)}

/-- What a step on one client has to show. -/
lemma step (h : Sound clientId own last n) (i : κ) {n' : Net κ ι τ β}
    (hself : Held (own i) last i (n'.line i) (n'.session (clientId i)) (n'.retained (own i)))
    (hother : ∀ j, j ≠ i → n'.line j = n.line j ∧
      n'.session (clientId j) = n.session (clientId j) ∧ n'.retained (own j) = n.retained (own j)) :
    Sound clientId own last n' := by
  intro j
  by_cases hji : j = i
  · exact hji ▸ hself
  · obtain ⟨hline, hsession, hretained⟩ := hother j hji
    rw [hline, hsession, hretained]
    exact h j

section Clients

variable [DecidableEq κ]

/-- Whether it is the open connection. -/
lemma isOpen_iff (h : Sound clientId own last n) {i : κ} {k : ℕ} :
    n.isOpen clientId i k = true ↔
      ∃ conn, n.session (clientId i) = some conn ∧ conn.number = k := by
  rw [Net.isOpen, Option.any_eq_true]
  refine exists_congr fun conn => and_congr_right fun hs => ?_
  have hclient : conn.client = i := by rw [(h i).conn conn hs]
  simp [hclient]

@[simp] lemma pop_session (i : κ) : (n.pop i).session = n.session := rfl
@[simp] lemma pop_retained (i : κ) : (n.pop i).retained = n.retained := rfl
@[simp] lemma pop_isOpen (i : κ) : (n.pop i).isOpen clientId i k = n.isOpen clientId i k := rfl

lemma pop_line_self (hsent : (n.line i).sent = (k, p) :: sent) :
    (n.pop i).line i = { n.line i with sent := sent } := by
  simp [Net.pop, hsent]

lemma pop_line_of_ne {j : κ} (hji : j ≠ i) : (n.pop i).line j = n.line j := by
  simp [Net.pop, hji]

end Clients

section Broker

variable [DecidableEq τ]

/-- What the broker is handed for one topic leaves the others. -/
lemma store_retained (hown : own.Injective) {i j : κ} (hji : j ≠ i) {m : Message τ β}
    (hm : m.retain = true → m.topic = own i) :
    (n.store m).retained (own j) = n.retained (own j) := by
  rw [Net.store]
  split_ifs with hretain
  · have hne : own j ≠ m.topic := fun heq => hji (hown (heq.trans (hm hretain)))
    simp [hne]
  · rfl

lemma store_own {i : κ} {m : Message τ β} (hm : m.retain = true → m.topic = own i) :
    (n.store m).retained (own i) = if m.retain then some m.payload else n.retained (own i) := by
  rw [Net.store]
  split_ifs with hretain
  · simp [hm hretain]
  · rfl

@[simp] lemma store_line (m : Message τ β) : (n.store m).line = n.line := by
  rw [Net.store]; split_ifs <;> rfl

@[simp] lemma store_session (m : Message τ β) : (n.store m).session = n.session := by
  rw [Net.store]; split_ifs <;> rfl

variable [DecidableEq ι]

/-- A connection is lost. -/
lemma lose (h : Sound clientId own last n) (hid : clientId.Injective) (hown : own.Injective)
    (i : κ) : Sound clientId own last (n.lose (clientId i)) := by
  cases hs : n.session (clientId i) with
  | none => simpa [Net.lose, hs] using h
  | some conn =>
      have hwill : conn.will = ⟨own i, last, true⟩ := by rw [(h i).conn conn hs]
      have htopic : conn.will.retain = true → conn.will.topic = own i := fun _ => by rw [hwill]
      have hlast : (n.store conn.will).retained (own i) = some last := by
        rw [store_own htopic]
        simp [hwill]
      have heq : n.lose (clientId i) = { n.store conn.will with
          session := Function.update n.session (clientId i) none } := by simp [Net.lose, hs]
      rw [heq]
      refine h.step i ?_ fun j hji =>
        ⟨by simp, by simp [hid.ne hji], store_retained hown hji htopic⟩
      simpa [hlast] using (h i).lost

/-- Losing one client's connection leaves what is retained for the others. -/
lemma lose_retained (hown : own.Injective) {i j : κ} (hji : j ≠ i)
    (hwill : ∀ conn, n.session (clientId i) = some conn → conn.will.topic = own i) :
    (n.lose (clientId i)).retained (own j) = n.retained (own j) := by
  cases hs : n.session (clientId i) with
  | none => simp [Net.lose, hs]
  | some conn => simpa [Net.lose, hs] using store_retained hown hji fun _ => hwill conn hs

@[simp] lemma lose_line (id : ι) : (n.lose id).line = n.line := by
  rw [Net.lose]
  split
  · rfl
  · exact store_line _

variable [DecidableEq κ]

/-- A packet of one client leaves the others as they are. -/
lemma take_of_ne (h : Sound clientId own last n) (hid : clientId.Injective)
    (hown : own.Injective) {p : Packet τ β} (hsent : (n.line i).sent = (k, p) :: sent) {j : κ}
    (hji : j ≠ i) :
    ((n.pop i).take clientId i k p).line j = n.line j ∧
      ((n.pop i).take clientId i k p).session (clientId j) = n.session (clientId j) ∧
      ((n.pop i).take clientId i k p).retained (own j) = n.retained (own j) := by
  have hpackets : p.Own (own i) last := (h i).onWay.packets (k, p) (by simp [hsent])
  cases p with
  | connect will =>
      refine ⟨by simp [Net.take, hji, pop_line_of_ne hji], by simp [Net.take, hid.ne hji], ?_⟩
      refine lose_retained hown hji fun conn hconn => ?_
      rw [(h i).conn conn hconn]
  | publish m =>
      rw [Net.take]
      split_ifs
      · exact ⟨by simp [pop_line_of_ne hji], by simp, store_retained hown hji hpackets⟩
      · exact ⟨pop_line_of_ne hji, rfl, rfl⟩
  | disconnect =>
      rw [Net.take]
      split_ifs
      · exact ⟨pop_line_of_ne hji, by simp [hid.ne hji], rfl⟩
      · exact ⟨pop_line_of_ne hji, rfl, rfl⟩

/-- A packet is received. -/
lemma take (h : Sound clientId own last n) (hid : clientId.Injective) (hown : own.Injective)
    {p : Packet τ β} (hsent : (n.line i).sent = (k, p) :: sent) :
    Sound clientId own last ((n.pop i).take clientId i k p) := by
  have hself := pop_line_self hsent
  have hpackets : p.Own (own i) last := (h i).onWay.packets (k, p) (by simp [hsent])
  -- what is received on a connection that is not open leaves the broker as it is
  have hignored (hp : n.isOpen clientId i k = false) : Sound clientId own last (n.pop i) := by
    refine h.step i ?_ fun j hji => ⟨pop_line_of_ne hji, rfl, rfl⟩
    rw [hself]
    refine (h i).ignored hsent fun conn hconn hnumber => ?_
    exact absurd (h.isOpen_iff.mpr ⟨conn, hconn, hnumber⟩) (by simp [hp])
  cases p with
  | connect will =>
      refine h.step i ?_ fun j hji => h.take_of_ne hid hown hsent hji
      simpa [Net.take, hself] using (h i).accepted hsent _
  | publish m =>
      by_cases hopen : n.isOpen clientId i k = true
      · obtain ⟨conn, hconn, hnumber⟩ := h.isOpen_iff.mp hopen
        have heq : (n.pop i).take clientId i k (.publish m) = (n.pop i).store m := by
          simp [Net.take, hopen]
        refine h.step i ?_ fun j hji => h.take_of_ne hid hown hsent hji
        rw [heq]
        simpa [hself, store_own hpackets] using (h i).published hsent hconn hnumber
      · simpa [Net.take, hopen] using hignored (by simpa using hopen)
  | disconnect =>
      by_cases hopen : n.isOpen clientId i k = true
      · obtain ⟨conn, hconn, hnumber⟩ := h.isOpen_iff.mp hopen
        refine h.step i ?_ fun j hji => h.take_of_ne hid hown hsent hji
        simpa [Net.take, hopen, hself] using (h i).disconnected hsent hconn hnumber
      · simpa [Net.take, hopen] using hignored (by simpa using hopen)

/-- **The broker and the network keep it.** -/
theorem act (h : Sound clientId own last n) (hid : clientId.Injective) (hown : own.Injective)
    (a : Net.Action κ) : Sound clientId own last (n.act clientId a) := by
  cases a with
  | receive i =>
      rw [Net.act]
      split
      · exact h
      · exact h.take hid hown (by assumption)
  | refuse i =>
      rw [Net.act]
      split
      · rename_i hsent
        refine h.step i ?_ fun j hji => ⟨pop_line_of_ne hji, rfl, rfl⟩
        rw [pop_line_self hsent]
        exact (h i).refused hsent
      · exact h
  | lose i => exact h.lose hid hown i

/-- **What the network and the broker do to a line** is to receive: a CONNECT that is accepted
is a newer one. -/
lemma line_act (h : Sound clientId own last n) (a : Net.Action κ) (i : κ) :
    let c := (n.act clientId a).line i
    c.opened = (n.line i).opened ∧ c.closed = (n.line i).closed ∧
      c.newest = (n.line i).newest ∧ (n.line i).accepted ≤ c.accepted := by
  have hpop (j : κ) : let c := (n.pop j).line i
      c.opened = (n.line i).opened ∧ c.closed = (n.line i).closed ∧
        c.newest = (n.line i).newest ∧ (n.line i).accepted ≤ c.accepted := by
    by_cases hij : i = j
    · subst hij
      simp [Net.pop]
    · simp [Net.pop, hij]
  cases a with
  | receive j =>
      rw [Net.act]
      split
      · simp
      · rename_i k p sent hsent
        cases p with
        | connect will =>
            by_cases hij : i = j
            · subst hij
              have hlt := (h i).onWay.accepted_lt k will (by simp [hsent])
              simp [Net.take, Net.pop, hlt.le]
            · simpa [Net.take, hij] using hpop j
        | publish m =>
            rw [Net.take]
            split_ifs
            · simpa using hpop j
            · exact hpop j
        | disconnect =>
            rw [Net.take]
            split_ifs
            · exact hpop j
            · exact hpop j
  | refuse j =>
      rw [Net.act]
      split
      · exact hpop j
      · simp
  | lose j => simp [Net.act]

/-- What the broker and the network do for one client leaves the others as they are. -/
lemma act_of_ne (h : Sound clientId own last n) (hid : clientId.Injective) (hown : own.Injective)
    {a : Net.Action κ} {j : κ} (hja : j ≠ a.client) :
    (n.act clientId a).line j = n.line j ∧
      (n.act clientId a).session (clientId j) = n.session (clientId j) ∧
      (n.act clientId a).retained (own j) = n.retained (own j) := by
  cases a with
  | receive i =>
      rw [Net.act]
      split
      · exact ⟨rfl, rfl, rfl⟩
      · exact h.take_of_ne hid hown (by assumption) hja
  | refuse i =>
      rw [Net.act]
      split
      · exact ⟨pop_line_of_ne hja, rfl, rfl⟩
      · exact ⟨rfl, rfl, rfl⟩
  | lose i =>
      have hji : j ≠ i := hja
      refine ⟨by simp [Net.act], ?_, lose_retained hown hji fun conn hconn => ?_⟩
      · rw [Net.act, Net.lose]
        split
        · rfl
        · simp [hid.ne hji]
      · rw [(h i).conn conn hconn]

end Broker

end Sound

/-! ### A connection that is never closed -/

/-- Connection `k` of a client is the newest that was accepted, and DISCONNECT is not on its
way on it: it is open, or the client has been told dead. -/
structure Unclosed (last : β) (k : ℕ) (c : Line τ β) (session : Option (Conn κ τ β))
    (r : Option β) : Prop where
  accepted : c.accepted = k
  goodbye : (k, Packet.disconnect) ∉ c.sent
  kept : session = none → r = some last

/-- One packet less on its way, and nothing else. -/
lemma Unclosed.pop {last : β} {k : ℕ} {c : Line τ β} {session : Option (Conn κ τ β)}
    {r : Option β} (h : Unclosed last k c session r) {x : ℕ × Packet τ β}
    {sent : List (ℕ × Packet τ β)} (hsent : c.sent = x :: sent) : Unclosed last k { c with sent := sent } session r :=
  ⟨h.accepted, fun hmem => h.goodbye (hsent ▸ List.mem_cons_of_mem _ hmem), h.kept⟩

section Unclosed

variable [DecidableEq κ] [DecidableEq ι] [DecidableEq τ] {clientId : κ → ι} {own : κ → τ}
  {last : β} {n : Net κ ι τ β} {i : κ} {k : ℕ}

/-- **A connection stays unclosed** while no newer connection of the client is accepted. -/
theorem Unclosed.act
    (h : Unclosed last k (n.line i) (n.session (clientId i)) (n.retained (own i)))
    (hsound : Sound clientId own last n) (hid : clientId.Injective) (hown : own.Injective)
    (a : Net.Action κ) (haccepted : ((n.act clientId a).line i).accepted = k) :
    Unclosed last k ((n.act clientId a).line i) ((n.act clientId a).session (clientId i))
      ((n.act clientId a).retained (own i)) := by
  by_cases hia : i = a.client
  swap
  · obtain ⟨hline, hsession, hretained⟩ := hsound.act_of_ne hid hown hia
    rwa [hline, hsession, hretained]
  cases a with
  | receive j =>
      obtain rfl : i = j := hia
      rw [Net.act] at haccepted ⊢
      split at haccepted
      · exact h
      rename_i k' p sent hsent
      have hpop := Sound.pop_line_self hsent
      have hleft : Unclosed last k ((n.pop i).line i) ((n.pop i).session (clientId i))
          ((n.pop i).retained (own i)) := hpop ▸ h.pop hsent
      cases p with
      | connect will =>
          -- a CONNECT that is accepted is a newer one
          have hlt := (hsound i).onWay.accepted_lt k' will (by simp [hsent])
          have hk' : k' = k := by simpa [Net.take] using haccepted
          exact absurd h.accepted (by omega)
      | publish m =>
          rw [Net.take]
          split_ifs with hopen
          · obtain ⟨conn, hconn, -⟩ := hsound.isOpen_iff.mp hopen
            refine ⟨?_, ?_, fun hnone => ?_⟩
            · simpa using hleft.accepted
            · simpa using hleft.goodbye
            · exact absurd hnone (by simp [hconn])
          · exact hleft
      | disconnect =>
          rw [Net.take]
          split_ifs with hopen
          · -- it would be one on this connection
            obtain ⟨conn, hconn, hnumber⟩ := hsound.isOpen_iff.mp hopen
            have hk' : k' = k := by rw [← hnumber, (hsound i).conn conn hconn, h.accepted]
            exact absurd (by simp [hsent, hk']) h.goodbye
          · exact hleft
  | refuse j =>
      obtain rfl : i = j := hia
      rw [Net.act]
      split
      · rename_i hsent
        rw [Sound.pop_line_self hsent]
        exact h.pop hsent
      · exact h
  | lose j =>
      obtain rfl : i = j := hia
      refine ⟨by simpa [Net.act] using h.accepted, by simpa [Net.act] using h.goodbye,
        fun _ => ?_⟩
      cases hs : n.session (clientId i) with
      | none => simpa [Net.act, Net.lose, hs] using h.kept hs
      | some conn =>
          have hwill : conn.will = ⟨own i, last, true⟩ := by rw [(hsound i).conn conn hs]
          simp [Net.act, Net.lose, hs, Net.store, hwill]

end Unclosed

/-! ### What is retained -/

/-- If a message is retained, it says so. -/
def Message.Says (ok : τ → β → Prop) (m : Message τ β) : Prop :=
  m.retain = true → ok m.topic m.payload

/-- What a packet has retained says so. -/
def Packet.Says (ok : τ → β → Prop) : Packet τ β → Prop
  | .connect m | .publish m => m.Says ok
  | .disconnect => True

/-- All that is retained says so, and all that may come to be. -/
structure Says (ok : τ → β → Prop) (n : Net κ ι τ β) : Prop where
  sent : ∀ i, ∀ x ∈ (n.line i).sent, x.2.Says ok
  will : ∀ id conn, n.session id = some conn → conn.will.Says ok
  retained : ∀ topic payload, n.retained topic = some payload → ok topic payload

namespace Says

variable {ok : τ → β → Prop} {n : Net κ ι τ β}

lemma initial : Says ok (Net.initial : Net κ ι τ β) := ⟨by simp [Net.initial, Line.initial],
  by simp [Net.initial], by simp [Net.initial]⟩

lemma store [DecidableEq τ] (h : Says ok n) {m : Message τ β} (hm : m.Says ok) :
    Says ok (n.store m) := by
  rw [Net.store]
  split_ifs with hretain
  · refine ⟨h.sent, h.will, fun topic payload heq => ?_⟩
    by_cases htopic : topic = m.topic
    · subst htopic
      obtain rfl : m.payload = payload := by simpa using heq
      exact hm hretain
    · exact h.retained topic payload (by simpa [htopic] using heq)
  · exact h

/-- A session less. -/
lemma erase [DecidableEq ι] (h : Says ok n) (id : ι) :
    Says ok { n with session := Function.update n.session id none } := by
  refine ⟨h.sent, fun id' conn heq => ?_, h.retained⟩
  by_cases hid : id' = id
  · subst hid
    simp at heq
  · exact h.will id' conn (by simpa [hid] using heq)

lemma pop [DecidableEq κ] (h : Says ok n) (i : κ) : Says ok (n.pop i) := by
  refine ⟨fun j x hx => ?_, h.will, h.retained⟩
  by_cases hji : j = i
  · subst hji
    exact h.sent j x (List.mem_of_mem_tail (by simpa [Net.pop] using hx))
  · exact h.sent j x (by simpa [Net.pop, hji] using hx)

variable [DecidableEq τ] [DecidableEq ι]

lemma lose (h : Says ok n) (id : ι) : Says ok (n.lose id) := by
  rw [Net.lose]
  split
  · exact h
  · rename_i conn hs
    have hold := (h.store (h.will id conn hs)).erase id
    rwa [Sound.store_session] at hold

variable [DecidableEq κ]

/-- **The broker and the network** retain what they were given. -/
theorem act (h : Says ok n) (clientId : κ → ι) (a : Net.Action κ) : Says ok (n.act clientId a) := by
  cases a with
  | receive i =>
      rw [Net.act]
      split
      · exact h
      · rename_i k p sent hsent
        have hp : p.Says ok := h.sent i (k, p) (by simp [hsent])
        have hpop := h.pop i
        cases p with
        | connect will =>
            refine ⟨fun j x hx => ?_, fun id conn heq => ?_, (hpop.lose _).retained⟩
            · by_cases hji : j = i
              · subst hji
                exact hpop.sent j x (by simpa [Net.take] using hx)
              · exact hpop.sent j x (by simpa [Net.take, hji] using hx)
            · by_cases hid : id = clientId i
              · subst hid
                obtain rfl : (⟨i, k, will⟩ : Conn κ τ β) = conn := by simpa [Net.take] using heq
                exact hp
              · exact hpop.will id conn (by simpa [Net.take, hid] using heq)
        | publish m =>
            rw [Net.take]
            split_ifs
            · exact hpop.store hp
            · exact hpop
        | disconnect =>
            rw [Net.take]
            split_ifs
            · exact hpop.erase _
            · exact hpop
  | refuse i =>
      rw [Net.act]
      split
      · exact h.pop i
      · exact h
  | lose i => exact h.lose _

end Says

end Mqtt
