import ClimateNode.Shared.CanLink
import Mathlib.Data.List.MinMax
import Mathlib.Data.Nat.Bitwise

/-!
The address map of `shared/can_link.h`: five identifiers for each peer.  A controller hands a
frame to the first of its acceptance filters that matches, and of the frames that wait the
bus takes the one with the lowest identifier.

* `Ident`: what an identifier names, a message and the peer it is to or from.
* `route`: which of the filters of a node gets a frame.
* `frames_routed_iff`: **every frame gets where it is meant to**, whatever filters a node
  has installed and in whatever order, exactly up to `kMaxPeerNodeId`.
* `heartbeat_wins`: no transfer keeps a heartbeat off the bus.
-/

namespace ClimateNode

/-! ### The identifiers -/

/-- `kMaxPeerNodeId`. -/
def kMaxPeerNodeId : UInt8 := kFirstPeerNodeId + 3

/-- `kHeartbeatIdBase`. -/
def kHeartbeatIdBase : UInt16 := 0x700

/-- `kIsotpToPeerBase`. -/
def kIsotpToPeerBase : UInt16 := 0x7E0

/-- `kIsotpFcToGatewayBase`. -/
def kIsotpFcToGatewayBase : UInt16 := 0x7E4

/-- `kIsotpToGatewayBase`. -/
def kIsotpToGatewayBase : UInt16 := 0x7E8

/-- `kIsotpFcToPeerBase`. -/
def kIsotpFcToPeerBase : UInt16 := 0x7EC

/-- `heartbeat_id`. -/
def heartbeatId (nodeId : UInt8) : UInt16 := kHeartbeatIdBase + nodeId.toUInt16

/-- The identifier of a peer in an ISO-TP range. -/
def isotpId (base : UInt16) (nodeId : UInt8) : UInt16 :=
  base + (nodeId.toUInt16 - kFirstPeerNodeId.toUInt16)

/-- `isotp_id_to_peer`. -/
def isotpIdToPeer (nodeId : UInt8) : UInt16 := isotpId kIsotpToPeerBase nodeId

/-- `isotp_id_to_gateway`. -/
def isotpIdToGateway (nodeId : UInt8) : UInt16 := isotpId kIsotpToGatewayBase nodeId

/-- `isotp_fc_id_to_gateway`. -/
def isotpFcIdToGateway (nodeId : UInt8) : UInt16 := isotpId kIsotpFcToGatewayBase nodeId

/-- `isotp_fc_id_to_peer`. -/
def isotpFcIdToPeer (nodeId : UInt8) : UInt16 := isotpId kIsotpFcToPeerBase nodeId

/-- A message of the map. -/
inductive MsgKind where
  | heartbeat | toPeer | fcToGateway | toGateway | fcToPeer
  deriving DecidableEq, Repr

/-- What an identifier names. -/
structure Ident where
  kind : MsgKind
  peer : UInt8
  deriving DecidableEq, Repr

/-- A node on the bus. -/
inductive BusNode where
  | gateway
  | peer (nodeId : UInt8)
  deriving DecidableEq, Repr

namespace Ident

/-- The identifier. -/
def id (f : Ident) : UInt16 :=
  match f.kind with
  | .heartbeat => heartbeatId f.peer
  | .toPeer => isotpIdToPeer f.peer
  | .fcToGateway => isotpFcIdToGateway f.peer
  | .toGateway => isotpIdToGateway f.peer
  | .fcToPeer => isotpFcIdToPeer f.peer

/-- Who sends it: the gateway its commands and the flow control of its `isotp_bind`, and a
peer the rest. -/
def sender (f : Ident) : BusNode :=
  match f.kind with
  | .toPeer | .fcToPeer => .gateway
  | .heartbeat | .toGateway | .fcToGateway => .peer f.peer

/-- Who has a filter for it: the gateway for the heartbeat, its `rx_addr` and its
`rx_fc_addr`, and a peer for the two of its own. -/
def receiver (f : Ident) : BusNode :=
  match f.kind with
  | .toPeer | .fcToPeer => .peer f.peer
  | .heartbeat | .toGateway | .fcToGateway => .gateway

/-- The identifier is of one of the peers up to `last`. -/
def upTo (last : UInt8) (f : Ident) : Prop := kFirstPeerNodeId ≤ f.peer ∧ f.peer ≤ last

end Ident

/-! ### Acceptance filters -/

/-- `CAN_STD_ID_MASK`. -/
def canStdIdMask : UInt16 := 0x7FF

/-- The filter for `f` takes a frame with the identifier `id`. -/
def accepts (f : Ident) (id : UInt16) : Bool := id &&& canStdIdMask == f.id &&& canStdIdMask

/-- The filter that gets a frame, of those installed, lowest slot first. -/
def route (installed : List Ident) (id : UInt16) : Option Ident := installed.find? (accepts · id)

/-- With the peers up to `last` on the bus, whatever filters a node has installed: each frame
of another node gets to the filter for it, and to none if there is none. -/
def Routed (last : UInt8) : Prop :=
  ∀ (node : BusNode) (installed : List Ident) (f : Ident),
    (∀ c ∈ installed, c.receiver = node ∧ c.upTo last) → f.upTo last → f.sender ≠ node →
    route installed f.id = if f ∈ installed then some f else none

section Map

variable {f g : Ident}

/-- Where a range begins. -/
def MsgKind.base : MsgKind → ℕ
  | .heartbeat => 0x700
  | .toPeer => 0x7DE
  | .fcToGateway => 0x7E2
  | .toGateway => 0x7E6
  | .fcToPeer => 0x7EA

lemma isotpId_toNat {nodeId : UInt8} (h : kFirstPeerNodeId ≤ nodeId) (base : UInt16)
    (hbase : base.toNat < 2 ^ 15) :
    (isotpId base nodeId).toNat = base.toNat + (nodeId.toNat - 2) := by
  have hle : (2 : ℕ) ≤ nodeId.toNat := h
  have hlt := nodeId.toNat_lt
  have hsub : (nodeId.toUInt16 - kFirstPeerNodeId.toUInt16).toNat = nodeId.toNat - 2 := by
    rw [UInt16.toNat_sub_of_le]
    · rfl
    · exact h
  rw [isotpId, UInt16.toNat_add, hsub]
  omega

/-- The identifiers of the map are standard ones. -/
lemma Ident.id_toNat (h : f.upTo kMaxPeerNodeId) : f.id.toNat = f.kind.base + f.peer.toNat := by
  have hlow : (2 : ℕ) ≤ f.peer.toNat := h.1
  have hhigh : f.peer.toNat ≤ 5 := h.2
  cases hkind : f.kind with
  | heartbeat =>
      rw [id, hkind]
      change (kHeartbeatIdBase + f.peer.toUInt16).toNat = _
      rw [UInt16.toNat_add]
      change (0x700 + f.peer.toNat) % 2 ^ 16 = 0x700 + f.peer.toNat
      omega
  | toPeer =>
      rw [id, hkind]
      refine (isotpId_toNat h.1 kIsotpToPeerBase (by decide)).trans ?_
      change 0x7E0 + (f.peer.toNat - 2) = 0x7DE + f.peer.toNat
      omega
  | fcToGateway =>
      rw [id, hkind]
      refine (isotpId_toNat h.1 kIsotpFcToGatewayBase (by decide)).trans ?_
      change 0x7E4 + (f.peer.toNat - 2) = 0x7E2 + f.peer.toNat
      omega
  | toGateway =>
      rw [id, hkind]
      refine (isotpId_toNat h.1 kIsotpToGatewayBase (by decide)).trans ?_
      change 0x7E8 + (f.peer.toNat - 2) = 0x7E6 + f.peer.toNat
      omega
  | fcToPeer =>
      rw [id, hkind]
      refine (isotpId_toNat h.1 kIsotpFcToPeerBase (by decide)).trans ?_
      change 0x7EC + (f.peer.toNat - 2) = 0x7EA + f.peer.toNat
      omega

lemma Ident.id_le (h : f.upTo kMaxPeerNodeId) : f.id.toNat ≤ 0x7FF := by
  have hhigh : f.peer.toNat ≤ 5 := h.2
  rw [id_toNat h]
  cases f.kind <;> simp only [MsgKind.base] <;> omega

/-- The ranges do not meet. -/
lemma MsgKind.eq_of_base_add {k k' : MsgKind} {a b : ℕ} (ha : 2 ≤ a ∧ a ≤ 5) (hb : 2 ≤ b ∧ b ≤ 5)
    (h : k.base + a = k'.base + b) : k = k' := by
  cases k <;> cases k' <;> simp only [MsgKind.base] at h <;> first | rfl | omega

/-- No two messages share an identifier. -/
lemma Ident.id_injective (hf : f.upTo kMaxPeerNodeId) (hg : g.upTo kMaxPeerNodeId)
    (heq : f.id = g.id) : f = g := by
  have hnat : f.kind.base + f.peer.toNat = g.kind.base + g.peer.toNat := by
    rw [← id_toNat hf, ← id_toNat hg, heq]
  have hkind : f.kind = g.kind := MsgKind.eq_of_base_add ⟨hf.1, hf.2⟩ ⟨hg.1, hg.2⟩ hnat
  obtain ⟨kind, peer⟩ := f
  obtain ⟨kind', peer'⟩ := g
  obtain rfl : kind = kind' := hkind
  obtain rfl : peer = peer' := UInt8.toNat_inj.mp (Nat.add_left_cancel hnat)
  rfl

/-- The mask leaves a standard identifier. -/
lemma accepts_iff (hf : f.upTo kMaxPeerNodeId) (hg : g.upTo kMaxPeerNodeId) :
    accepts f g.id = true ↔ f = g := by
  have hmask {x : UInt16} (hx : x.toNat ≤ 0x7FF) : x &&& canStdIdMask = x := by
    rw [← UInt16.toNat_inj, UInt16.toNat_and]
    change x.toNat &&& (2 ^ 11 - 1) = x.toNat
    rw [Nat.and_two_pow_sub_one_eq_mod]
    omega
  rw [accepts, hmask (Ident.id_le hf), hmask (Ident.id_le hg), beq_iff_eq]
  exact ⟨fun heq => (Ident.id_injective hg hf heq).symm, fun heq => heq ▸ rfl⟩

/-- Whatever the order, the filter for a frame gets it. -/
lemma route_eq {installed : List Ident} (hall : ∀ c ∈ installed, c.upTo kMaxPeerNodeId)
    (hf : f.upTo kMaxPeerNodeId) :
    route installed f.id = if f ∈ installed then some f else none := by
  split_ifs with hmem
  · obtain ⟨c, hc⟩ : ∃ c, route installed f.id = some c :=
      Option.isSome_iff_exists.mp (List.find?_isSome.mpr ⟨f, hmem, (accepts_iff hf hf).mpr rfl⟩)
    have hacc : accepts c f.id = true := List.find?_some (p := (accepts · f.id)) hc
    rw [hc, (accepts_iff (hall c (List.mem_of_find?_eq_some hc)) hf).mp hacc]
  · refine List.find?_eq_none.mpr fun c hc hacc => ?_
    exact hmem ((accepts_iff (hall c hc) hf).mp hacc ▸ hc)

lemma Ident.upTo.mono {last last' : UInt8} (h : f.upTo last) (hle : last ≤ last') : f.upTo last' :=
  ⟨h.1, UInt8.le_trans h.2 hle⟩

/-- A fifth peer is given the data of the first for its flow control. -/
lemma not_routed {last : UInt8} (h : kMaxPeerNodeId < last) : ¬ Routed last := by
  intro hrouted
  have hsix : 6 ≤ last := UInt8.lt_iff_toNat_lt.mp h
  have hfifth : (⟨.fcToGateway, 6⟩ : Ident).upTo last := ⟨by decide, hsix⟩
  have hfirst : (⟨.toGateway, 2⟩ : Ident).upTo last :=
    ⟨by decide, UInt8.le_trans (by decide) hsix⟩
  have hwrong := hrouted .gateway [⟨.toGateway, 2⟩] ⟨.fcToGateway, 6⟩
    (by simpa [Ident.receiver] using hfirst) hfifth (by simp [Ident.sender])
  exact absurd hwrong (by decide)

/-- **Every frame gets where it is meant to**, and nowhere else, whatever filters a node has
installed and in whatever order, with as many peers on the bus as the map can express and
with no more. -/
theorem frames_routed_iff (last : UInt8) : Routed last ↔ last ≤ kMaxPeerNodeId := by
  refine ⟨fun h => ?_, fun hle node installed f hall hf _ => ?_⟩
  · by_contra hgt
    exact not_routed (UInt8.not_le.mp hgt) h
  · exact route_eq (fun c hc => (hall c hc).2.mono hle) (hf.mono hle)

/-! ### Arbitration -/

/-- The frame the bus takes of those that wait. -/
def arbitrate (waiting : List Ident) : Option Ident := waiting.argmin fun f => f.id.toNat

/-- **No transfer keeps a heartbeat off the bus**: while one waits, what is sent is a
heartbeat. -/
theorem heartbeat_wins {waiting : List Ident} (hall : ∀ c ∈ waiting, c.upTo kMaxPeerNodeId)
    (hmem : f ∈ waiting) (hbeat : f.kind = .heartbeat) (hg : arbitrate waiting = some g) :
    g.kind = .heartbeat := by
  have hle : g.id.toNat ≤ f.id.toNat :=
    List.le_of_mem_argmin (f := fun c : Ident => c.id.toNat) hmem hg
  have hgmem := hall g (List.argmin_mem hg)
  have hhigh : f.peer.toNat ≤ 5 := (hall f hmem).2
  rw [Ident.id_toNat hgmem, Ident.id_toNat (hall f hmem), hbeat] at hle
  cases hkind : g.kind <;> simp only [hkind, MsgKind.base] at hle ⊢ <;> omega

end Map

end ClimateNode
