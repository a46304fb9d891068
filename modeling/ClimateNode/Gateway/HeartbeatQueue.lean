import ClimateNode.Automata.Machine
import ClimateNode.Gateway.Liveness
import ClimateNode.Shared.Heartbeat

/-!
The heartbeat queue of `gateway/src/relay.cpp`: `heartbeat_isr` fills it, in the
interrupt, and `drain_heartbeats` empties it before each step of the liveness machine,
one frame at a time, so that frames may arrive while it does.

* `CanFrame`: a frame, and the bytes of it that are its own.
* `queue`: the machine, with the frames queued since the last drain was over.
* `seen_iff`: **what a drain answers**: whether any of these was a heartbeat.
* `packed_online`, `otherLayout_silent`: a beat the peer packed brings it online,
  whatever else was queued; frames of another layout are silence.
-/

namespace ClimateNode.HeartbeatQueue

open Automata

/-- `struct can_frame`, as `drain_heartbeats` looks at it: the data, and how much of it
the DLC announces. -/
structure CanFrame where
  data : List UInt8
  len : ℕ
  len_le : len ≤ data.length
  deriving DecidableEq, Repr

/-- What the frame says. -/
def CanFrame.bytes (frame : CanFrame) : List UInt8 := frame.data.take frame.len

/-- The frame the peer sends for a heartbeat. -/
def CanFrame.ofHeartbeat (hb : Heartbeat) : CanFrame := ⟨heartbeatPack hb, kHeartbeatLen, le_rfl⟩

/-- The length of `heartbeat_q`. -/
def kHeartbeatQueueLen : ℕ := 4

/-- Where `rx_thread` stands: outside of `drain_heartbeats`, in its loop, or past the
end of a frame. -/
inductive Pc where
  | outside
  | draining (seen : Bool)
  | faulted
  deriving DecidableEq, Repr

/-- The queue, oldest frame first. -/
structure State where
  pc : Pc
  frames : List CanFrame
  deriving DecidableEq, Repr

/-- `put` is `heartbeat_isr`; `get` is one turn of the loop, with what `hb` holds before
it is written. -/
inductive Label where
  | put (frame : CanFrame)
  | call
  | get (seen : Bool) (uninit : Heartbeat)
  | done (seen : Bool)
  deriving DecidableEq, Repr

/-- Which actions may fire. -/
def enabled (s : State) : Label → Prop
  | .put _ => True
  | .call => s.pc = .outside
  | .get seen _ => s.pc = .draining seen ∧ s.frames ≠ []
  | .done seen => s.pc = .draining seen ∧ s.frames = []

instance (s : State) (l : Label) : Decidable (enabled s l) := by
  cases l <;> dsimp only [enabled] <;> infer_instance

/-- What becomes of `seen` when a frame is read. -/
def read (frame : CanFrame) (seen : Bool) (uninit : Heartbeat) : Pc :=
  match heartbeatUnpack frame.data frame.len uninit with
  | none => .faulted
  | some (true, _) => .draining true
  | some (false, _) => .draining seen

/-- What each action does; a frame that finds the queue full is dropped. -/
def next (s : State) : Label → State
  | .put frame =>
      if s.frames.length < kHeartbeatQueueLen then { s with frames := s.frames ++ [frame] } else s
  | .call => { s with pc := .draining false }
  | .get seen uninit =>
      match s.frames with
      | [] => s
      | frame :: later => ⟨read frame seen uninit, later⟩
  | .done _ => { s with pc := .outside }

/-- What a step adds to the frames queued since the last drain was over. -/
def arrived (s : State) (frames : List CanFrame) : Label → List CanFrame
  | .put frame => if s.frames.length < kHeartbeatQueueLen then frames ++ [frame] else frames
  | .done _ => []
  | _ => frames

/-- The queue, and the frames queued since the last drain was over. -/
def queue : Machine (State × List CanFrame) Label :=
  (⟨⟨.outside, []⟩, enabled, next⟩ : Machine State Label).annotate [] arrived

instance (s : State × List CanFrame) (l : Label) : Decidable (queue.enabled s l) :=
  inferInstanceAs (Decidable (enabled s.1 l))

/-- A frame is read to its end and no further. -/
lemma read_eq (frame : CanFrame) (seen : Bool) (uninit : Heartbeat) :
    read frame seen uninit = .draining (seen || decide (IsHeartbeat frame.bytes)) := by
  have hlen : frame.bytes.length = frame.len := by
    rw [CanFrame.bytes, List.length_take, Nat.min_eq_left frame.len_le]
  have hdata : heartbeatUnpack frame.data frame.len uninit =
      heartbeatUnpack (frame.bytes ++ frame.data.drop frame.len) frame.bytes.length uninit := by
    rw [hlen, CanFrame.bytes, List.take_append_drop]
  rw [read, hdata]
  by_cases h : IsHeartbeat frame.bytes
  · obtain ⟨hb, hunpack, -, -⟩ := h.unpack
    simp [hunpack, h]
  · simp [heartbeatUnpack_of_not h, h]

/-- The frames queued since the last drain are those it has read and those still
queued, and it has seen a beat if one of those it has read is one. -/
structure Accounted (s : State × List CanFrame) : Prop where
  noFault : s.1.pc ≠ .faulted
  bounded : s.1.frames.length ≤ kHeartbeatQueueLen
  waiting : s.1.pc = .outside → s.2 = s.1.frames
  draining : ∀ seen, s.1.pc = .draining seen → ∃ taken, s.2 = taken ++ s.1.frames ∧
    (seen = true ↔ ∃ frame ∈ taken, IsHeartbeat frame.bytes)

/-- A frame arrives. -/
lemma Accounted.put {s : State × List CanFrame} (h : Accounted s) (frame : CanFrame) :
    Accounted (next s.1 (.put frame), arrived s.1 s.2 (.put frame)) := by
  by_cases hroom : s.1.frames.length < kHeartbeatQueueLen
  · simp only [next, arrived, if_pos hroom]
    refine ⟨h.noFault, ?_, fun hpc => ?_, fun seen hpc => ?_⟩
    · rw [List.length_append, List.length_singleton]
      exact hroom
    · rw [h.waiting hpc]
    · obtain ⟨taken, heq, hseen⟩ := h.draining seen hpc
      exact ⟨taken, by rw [heq, List.append_assoc], hseen⟩
  · simp only [next, arrived, if_neg hroom]
    exact h

/-- A frame is read. -/
lemma Accounted.get {s : State × List CanFrame} (h : Accounted s) {seen : Bool}
    (hpc : s.1.pc = .draining seen) (hne : s.1.frames ≠ []) (uninit : Heartbeat) :
    Accounted (next s.1 (.get seen uninit), s.2) := by
  obtain ⟨frame, later, hframes⟩ := List.exists_cons_of_ne_nil hne
  obtain ⟨taken, heq, hseen⟩ := h.draining seen hpc
  have hbound := h.bounded
  rw [hframes] at heq hbound
  simp only [next, hframes, read_eq]
  refine ⟨by simp, (Nat.le_succ _).trans hbound, by simp, fun seen' hseen' => ?_⟩
  obtain rfl : (seen || decide (IsHeartbeat frame.bytes)) = seen' := by simpa using hseen'
  refine ⟨taken ++ [frame], by rw [heq, List.append_assoc]; rfl, ?_⟩
  simp [hseen, or_and_right, exists_or]

/-- **The step lemma of the queue.** -/
theorem accounted_inductive : queue.Inductive Accounted where
  init := by
    refine ⟨?_, Nat.zero_le _, fun _ => rfl, ?_⟩ <;> simp [queue, Machine.annotate]
  step s l h hen := by
    cases l with
    | put frame => exact h.put frame
    | call =>
        have hpc : s.1.pc = .outside := hen
        refine ⟨Pc.noConfusion, h.bounded, Pc.noConfusion, fun seen hseen => ?_⟩
        obtain rfl : false = seen := Pc.draining.inj hseen
        exact ⟨[], h.waiting hpc, by simp⟩
    | get seen uninit => exact h.get hen.1 hen.2 uninit
    | done seen =>
        have hnone : s.1.frames = [] := hen.2
        exact ⟨Pc.noConfusion, h.bounded, fun _ => hnone.symm, fun _ => Pc.noConfusion⟩

/-- A drain that has emptied the queue has seen a beat if one of the frames was one. -/
lemma Accounted.seen_iff {s : State × List CanFrame} (h : Accounted s) {seen : Bool}
    (hpc : s.1.pc = .draining seen) (hnone : s.1.frames = []) :
    seen = true ↔ ∃ frame ∈ s.2, IsHeartbeat frame.bytes := by
  obtain ⟨taken, heq, hseen⟩ := h.draining seen hpc
  rw [hseen, heq, hnone, List.append_nil]

/-- The frames in the queue are some of those queued. -/
lemma Accounted.frames_subset {s : State × List CanFrame} (h : Accounted s) :
    s.1.frames ⊆ s.2 := by
  cases hpc : s.1.pc with
  | outside => rw [h.waiting hpc]; exact List.Subset.refl _
  | faulted => exact absurd hpc h.noFault
  | draining seen =>
      obtain ⟨taken, heq, -⟩ := h.draining seen hpc
      rw [heq]
      exact List.subset_append_right _ _

section Runs

variable {ls : List Label} {s : State × List CanFrame} {seen : Bool}

/-- **What a drain answers**: whether one of the frames queued since the last one was
over, those that arrived while it ran included, was a heartbeat. -/
theorem seen_iff (hrun : queue.Run ls s) (hen : queue.enabled s (.done seen)) :
    seen = true ↔ ∃ frame ∈ s.2, IsHeartbeat frame.bytes :=
  (hrun.invariant accounted_inductive).seen_iff hen.1 hen.2

/-- No frame is read past its end, whatever its DLC says. -/
theorem never_faulted (hrun : queue.Run ls s) : s.1.pc ≠ .faulted :=
  (hrun.invariant accounted_inductive).noFault

lemma CanFrame.isHeartbeat_ofHeartbeat (hb : Heartbeat) :
    IsHeartbeat (CanFrame.ofHeartbeat hb).bytes :=
  ⟨rfl, rfl, hb.state.byte, rfl, UInt8.not_lt.mp hb.state.byte_le⟩

/-- **A packed beat brings the peer online**, whatever else was queued and wherever the
liveness machine stands. -/
theorem packed_online (hrun : queue.Run ls s) (hen : queue.enabled s (.done seen))
    {hb : Heartbeat} (hmem : CanFrame.ofHeartbeat hb ∈ s.2) (l : Liveness) (nowMs timeoutMs : ℤ) :
    (livenessStep l seen nowMs timeoutMs).1.state = .online := by
  have hseen : seen = true :=
    (seen_iff hrun hen).mpr ⟨_, hmem, CanFrame.isHeartbeat_ofHeartbeat hb⟩
  rw [livenessStep, if_pos hseen]
  split_ifs with hstate
  · rfl
  · exact not_not.mp hstate

/-- **Another layout is silence**: frames the gateway does not understand do not count
as a sign of life. -/
theorem otherLayout_silent (hrun : queue.Run ls s) (hen : queue.enabled s (.done seen))
    (hnone : ∀ frame ∈ s.2, ¬ IsHeartbeat frame.bytes) (l : Liveness) (nowMs timeoutMs : ℤ) :
    livenessStep l seen nowMs timeoutMs = livenessStep l false nowMs timeoutMs := by
  have hseen : seen = false := by
    by_contra hne
    obtain ⟨frame, hmem, hframe⟩ := (seen_iff hrun hen).mp (by simpa using hne)
    exact hnone frame hmem hframe
  rw [hseen]

end Runs

end ClimateNode.HeartbeatQueue
