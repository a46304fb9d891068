import ClimateNode.Gateway.RoundTrip

/-!
What the release of `tx_thread` is worth: `handle_relayed` gives `ack_received`
after `publish_up`, whatever became of the publish.

* `releasedOnlyIfStored_iff`: for one payload and one answer of the bus.
* `rxHistory_of_run`: what `rx_thread` did before it stood where it stands; on
  its own it goes round one cycle, with a way out in the middle.
* `AcksKept`: what the release promises over a run; `ack_released_iff`: **it is kept
  exactly when no publish of a peer's Ack fails**.
-/

namespace ClimateNode.RoundTrip

open Automata Wire

/-! ### One payload -/

/-- The wait of `tx_thread` is released only if the Ack in the payload was stored
on `chan_relay_ack` and its listener notified; `rc` is what `zbus_chan_pub`
answers, zero when it did both. -/
def releasedOnlyIfStored (bytes : Bytes) (rc : ℤ) : Prop :=
  (handleRelayed (RelayMsgType.ack.byte :: bytes)).give = true →
    ∃ up, (handleRelayed (RelayMsgType.ack.byte :: bytes)).publish = some (.ack, up) ∧
      up.payload = bytes ∧ rc = 0

/-- Neither way out of `publish_up` is noticed. -/
lemma releasedOnlyIfStored_iff (bytes : Bytes) (rc : ℤ) :
    releasedOnlyIfStored bytes rc ↔ bytes.length ≤ kRelayUpMax ∧ rc = 0 := by
  have htype : RelayMsgType.ofByte RelayMsgType.ack.byte = some .ack := RelayMsgType.ofByte_byte _
  simp only [releasedOnlyIfStored, handleRelayed, htype, publishUp, forall_const]
  split_ifs with hfits
  · simp [hfits]
  · simp [hfits]

/-! ### A run -/

/-- The steps of `rx_thread`. -/
def rxStep : Label → Bool
  | .recv _ _ | .ackStore | .ackNotify | .ackUnlock | .ackFail | .give => true
  | _ => false

/-- What `rx_thread` does in a run. -/
def rxTrace (ls : List Label) : List Label := ls.filter rxStep

/-- An Ack came in, was stored, its listener notified and the channel unlocked. -/
def publishedLast (trace : List Label) : Prop :=
  ∃ before ticket status,
    trace = before ++ [.recv ticket status, .ackStore, .ackNotify, .ackUnlock]

/-- An Ack came in and its publish failed. -/
def failedLast (trace : List Label) : Prop :=
  ∃ before ticket status, trace = before ++ [.recv ticket status, .ackFail]

/-- What `rx_thread` did last, for each place it may stand in. -/
def RxHistory (trace : List Label) : RxPhase → Prop
  | .idle => True
  | .received => ∃ before ticket status, trace = before ++ [.recv ticket status]
  | .stored => ∃ before ticket status, trace = before ++ [.recv ticket status, .ackStore]
  | .notified =>
      ∃ before ticket status, trace = before ++ [.recv ticket status, .ackStore, .ackNotify]
  | .published => publishedLast trace ∨ failedLast trace

/-- The other parties leave `rx_thread` where it stands. -/
lemma next_rx {l : Label} (h : rxStep l = false) (s : State) : (next s l).rx = s.rx := by
  cases l <;> first | rfl | simp [rxStep] at h

lemma rxTrace_concat (ls : List Label) (l : Label) :
    rxTrace (ls ++ [l]) = rxTrace ls ++ if rxStep l then [l] else [] := by
  cases h : rxStep l <;> simp [rxTrace, h]

/-- Where `rx_thread` stands says what it did last. -/
lemma rxHistory_of_run {ls : List Label} {s : State} (h : machine.Run ls s) :
    RxHistory (rxTrace ls) s.rx := by
  induction h with
  | nil => trivial
  | @snoc ls s l _ hl ih =>
      rw [rxTrace_concat]
      cases hrx : rxStep l with
      | false =>
          simpa [machine, next_rx hrx] using ih
      | true =>
          cases l with
          | recv ticket status => exact ⟨_, ticket, status, rfl⟩
          | ackStore =>
              rw [show s.rx = .received from hl.1] at ih
              obtain ⟨before, ticket, status, htrace⟩ := ih
              exact ⟨before, ticket, status, by rw [htrace]; simp⟩
          | ackNotify =>
              rw [show s.rx = .stored from hl] at ih
              obtain ⟨before, ticket, status, htrace⟩ := ih
              exact ⟨before, ticket, status, by rw [htrace]; simp⟩
          | ackUnlock =>
              rw [show s.rx = .notified from hl] at ih
              obtain ⟨before, ticket, status, htrace⟩ := ih
              exact .inl ⟨before, ticket, status, by rw [htrace]; simp⟩
          | ackFail =>
              rw [show s.rx = .received from hl] at ih
              obtain ⟨before, ticket, status, htrace⟩ := ih
              exact .inr ⟨before, ticket, status, by rw [htrace]; simp⟩
          | give => trivial
          | _ => simp [rxStep] at hrx

/-- Every give is for an Ack that was stored and its listener notified. -/
def givesStored (ls : List Label) : Prop :=
  ∀ pre post, ls = pre ++ .give :: post → publishedLast (rxTrace pre)

/-- `tx_thread` is done with a command: it waits for the next, or has it. -/
def doneWith (s : State) (c : Ticket) : Prop := s.tx = .idle ∨ s.cmd ≠ c

/-- A command whose Ack could not be published is answered with a synthesized one, which
is on the channel by the time `tx_thread` is done with the command. -/
def failuresAnswered (ls : List Label) : Prop :=
  ∀ pre mid post s t, ls = pre ++ .ackFail :: mid ++ post → machine.Run pre s →
    machine.Run (pre ++ .ackFail :: mid) t → doneWith t s.ack.ticket →
    ∃ a ∈ t.chan.history, a.ticket = s.ack.ticket ∧ a.synthesized = true

/-- The wait of `tx_thread` is released by stored Acks only, and a publish that fails
leaves no command without an Ack. -/
structure AcksKept (ls : List Label) : Prop where
  stored : givesStored ls
  answered : failuresAnswered ls

/-- A publish that failed is followed by its give before `rx_thread` does anything
else. -/
lemma failedLast_of_givesStored {ls : List Label} {s : State} (h : machine.Run ls s)
    (hgood : givesStored ls) (hmem : .ackFail ∈ ls) :
    s.rx = .published ∧ failedLast (rxTrace ls) := by
  induction h with
  | nil => simp at hmem
  | @snoc ls s l hrun hl ih =>
      have hgood' : givesStored ls := fun pre post heq =>
        hgood pre (post ++ [l]) (by rw [heq]; simp)
      have htrace := rxTrace_concat ls l
      cases hrx : rxStep l with
      | false =>
          have hmem' : .ackFail ∈ ls := by
            refine (List.mem_append.mp hmem).resolve_right fun hl' => ?_
            rw [← List.mem_singleton.mp hl'] at hrx
            simp [rxStep] at hrx
          rw [htrace, hrx]
          simpa [machine, next_rx hrx] using ih hgood' hmem'
      | true =>
          by_cases hlast : l = .ackFail
          · subst hlast
            have hhist := rxHistory_of_run hrun
            rw [show s.rx = .received from hl] at hhist
            obtain ⟨before, ticket, status, heq⟩ := hhist
            exact ⟨rfl, before, ticket, status, by rw [htrace, hrx, heq]; simp⟩
          · -- with the publish behind it `rx_thread` can only give
            have hmem' : .ackFail ∈ ls := (List.mem_append.mp hmem).resolve_right fun hl' =>
              hlast (List.mem_singleton.mp hl').symm
            obtain ⟨hpub, before, ticket, status, hbad⟩ := ih hgood' hmem'
            obtain rfl : l = .give := by
              cases l <;> simp_all [machine, enabled, rxStep]
            obtain ⟨before', ticket', status', hstored⟩ := hgood ls [] rfl
            have hend := congrArg List.getLast? (hbad.symm.trans hstored)
            simp at hend

/-- **The release**: for one payload, `tx_thread` is released only if its Ack was
stored exactly when the payload fits its message and the publish succeeds.  Over a run in
which no publish of a peer's Ack fails, every give is for a stored Ack and no such failure
leaves a command without one; and a run that leaves `rx_thread` between two payloads keeps
that only so. -/
theorem ack_released_iff (bytes : Bytes) (rc : ℤ) (ls : List Label) (s : State) :
    (releasedOnlyIfStored bytes rc ↔ bytes.length ≤ kRelayUpMax ∧ rc = 0) ∧
    (machine.Run ls s →
      (.ackFail ∉ ls → AcksKept ls) ∧ (s.rx = .idle → (AcksKept ls ↔ .ackFail ∉ ls))) := by
  refine ⟨releasedOnlyIfStored_iff bytes rc, fun hrun => ?_⟩
  have hkept : .ackFail ∉ ls → AcksKept ls := by
    refine fun hnone => ⟨fun pre post hls => ?_, fun pre mid post s t hls => ?_⟩
    · obtain ⟨t, ht, hgive⟩ := (hls ▸ hrun).split
      have hhist := rxHistory_of_run ht
      rw [show t.rx = .published from hgive] at hhist
      refine hhist.resolve_right fun hfailed => hnone ?_
      obtain ⟨before, ticket, status, heq⟩ := hfailed
      have hmem : .ackFail ∈ rxTrace pre := by simp [heq]
      rw [hls]
      exact List.mem_append_left _ (List.mem_of_mem_filter hmem)
    · exact absurd (by simp [hls]) hnone
  refine ⟨hkept, fun hidle => ⟨fun h hmem => ?_, hkept⟩⟩
  obtain ⟨hpub, -⟩ := failedLast_of_givesStored hrun h.stored hmem
  simp [hidle] at hpub

/-- The Ack of the only command is published before it is given. -/
theorem answeredRun_kept : ∃ s, machine.Run answeredRun s ∧ s.rx = .idle ∧
    AcksKept answeredRun := by
  have hrun : machine.Run answeredRun _ := Machine.run_of_exec rfl
  exact ⟨_, hrun, rfl, ((ack_released_iff [] 0 answeredRun _).2 hrun).1 (by simp [answeredRun])⟩

/-- A command whose Ack comes in while the bus is out of buffers. -/
def lostAckRun : List Label :=
  [.take 1, .reset, .deliver, .sendOk, .recv ⟨0, 1⟩ .ok, .ackFail, .give, .semTake]

/-- `-ENOMEM` for the Ack of the only command: the wait is released all the same,
and no Ack of any kind is on the channel when `tx_thread` is done. -/
theorem failed_publish_releases :
    ¬ releasedOnlyIfStored [0x08, 0x01] (-12) ∧
    ∃ s, machine.Run lostAckRun s ∧ ¬ givesStored lostAckRun ∧ ¬ failuresAnswered lostAckRun ∧
      s.tx = .idle ∧ s.taken ≠ [] ∧ s.chan.history = [] := by
  constructor
  · intro h
    obtain ⟨up, -, -, hrc⟩ := h rfl
    exact absurd hrc (by decide)
  · have hrun : machine.Run lostAckRun _ := Machine.run_of_exec rfl
    refine ⟨_, hrun, ?_, ?_, rfl, by decide, rfl⟩
    · intro h
      obtain ⟨before, ticket, status, htrace⟩ := h
        [.take 1, .reset, .deliver, .sendOk, .recv ⟨0, 1⟩ .ok, .ackFail] [.semTake] rfl
      have hlast := congrArg List.getLast? htrace
      simp [rxTrace, rxStep] at hlast
    · intro h
      obtain ⟨a, ha, -⟩ := h [.take 1, .reset, .deliver, .sendOk, .recv ⟨0, 1⟩ .ok]
        [.give, .semTake] [] _ _ rfl (Machine.run_of_exec rfl) hrun (.inl rfl)
      cases ha

end ClimateNode.RoundTrip
