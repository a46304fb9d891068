import ClimateNode.Automata.Machine
import Mathlib.Data.List.Destutter
import Mathlib.Tactic.Common

/-!
A latest-wins register with a doorbell.  Producers overwrite one shared message
under a lock and then ring a bell; one consumer silences the bell, reads the
message and hands it on.  The bell says that something happened, the register
says what, and the two travel separately: a message stored after the bell was
silenced and before the register is read is handed on now and announced again
later.

* `Doorbell.machine`: the producer's three steps (store, ring, unlock) and the
  consumer's (silence, read, hand on), interleaved freely.  `peek` is a read
  that no bell announced.
* `sound_inductive`: what holds in every run; the consumer hands messages on in
  the order they were stored (`Sound.sorted`) and unaltered (`Sound.kept`).
* `handed_destutter_sublist`: what is handed on is, adjacent repeats collapsed,
  a subsequence of what was stored.
* `fresh_inductive`: no update is lost; the newest message is announced, on its
  way or handed on, unless a read failed.
* `once_inductive`: each message is handed on at most once, as long as the bell
  does not ring between silencing it and reading.
-/

namespace Automata

/-- What one ring makes of the number of rings pending; it never leaves none. -/
structure Ring where
  toFun : ℕ → ℕ
  pos : ∀ n, 0 < toFun n

/-- A bell that counts its rings. -/
def Ring.counting : Ring := ⟨fun n => n + 1, Nat.succ_pos⟩

/-- A bell that stays at one. -/
def Ring.binary : Ring := ⟨fun _ => 1, fun _ => Nat.one_pos⟩

namespace Doorbell

/-- How far the producer that holds the lock has got. -/
inductive Phase where
  | free | stored | notified
  deriving DecidableEq, Repr

/-- Where the consumer stands: nothing in hand, the bell silenced but the
register not read, or a message in the buffer. -/
inductive Progress where
  | idle | drained | holding
  deriving DecidableEq, Repr

/-- The register, the bell and the consumer. -/
structure State (α : Type*) where
  /-- Every message stored so far, oldest first; the last one is the content. -/
  history : List α
  phase : Phase
  /-- The rings pending, `none` before the bell exists. -/
  bell : Option ℕ
  /-- How many messages had been stored when the bell was created. -/
  base : ℕ
  progress : Progress
  /-- The message last read, under the number of messages stored by then. -/
  buffer : ℕ × α
  /-- What has been handed on, oldest first. -/
  handed : List (ℕ × α)
  /-- The last message announced was not read, or was read and dropped. -/
  skipped : Bool

/-- The atomic actions of producers and consumer. -/
inductive Label (α : Type*) where
  | create
  | store (a : α)
  | notify
  | unlock
  | drain
  | read
  | readFail
  | peek
  | hand
  | discard

variable {α β : Type*}

namespace State

/-- The bell has rung since it was last silenced. -/
def signalled (s : State α) : Prop := 0 < s.bell.getD 0

instance (s : State α) : Decidable s.signalled := Nat.decLt _ _

variable [Inhabited α]

/-- The message after `n` stores, the default before the first. -/
def valueAt (s : State α) (n : ℕ) : α := (s.history.take n).getLastD default

/-- The message in the register. -/
def content (s : State α) : α := s.history.getLastD default

/-- Nothing stored, nothing read, no bell yet. -/
def empty : State α :=
  ⟨[], .free, none, 0, .idle, (0, default), [], false⟩

lemma valueAt_length (s : State α) : s.valueAt s.history.length = s.content := by
  simp [valueAt, content]

end State

/-- Which actions may fire.  Reading waits for the lock; silencing the bell
does not. -/
def enabled (s : State α) : Label α → Prop
  | .create => s.bell = none
  | .store _ => s.phase = .free
  | .notify => s.phase = .stored
  | .unlock => s.phase = .notified
  | .drain => s.progress = .idle ∧ s.signalled
  | .read => s.progress = .drained ∧ s.phase = .free
  | .readFail => s.progress = .drained
  | .peek => s.progress = .idle ∧ s.phase = .free
  | .hand => s.progress = .holding
  | .discard => s.progress = .holding

instance (s : State α) (l : Label α) : Decidable (enabled s l) := by
  cases l <;> dsimp only [enabled] <;> infer_instance

/-- What each action does. -/
def next [Inhabited α] (ring : Ring) (s : State α) : Label α → State α
  | .create => { s with bell := some 0, base := s.history.length }
  | .store a => { s with history := s.history ++ [a], phase := .stored }
  | .notify => { s with bell := s.bell.map ring.toFun, phase := .notified }
  | .unlock => { s with phase := .free }
  | .drain => { s with bell := some 0, progress := .drained }
  | .read => { s with progress := .holding, buffer := (s.history.length, s.content),
                      skipped := false }
  | .readFail => { s with progress := .idle, skipped := true }
  | .peek => { s with progress := .holding, buffer := (s.history.length, s.content),
                      skipped := false }
  | .hand => { s with progress := .idle, handed := s.handed ++ [s.buffer] }
  | .discard => { s with progress := .idle, skipped := true }

/-- The machine of one register, its bell and its consumer. -/
def machine (α : Type*) [Inhabited α] (ring : Ring) : Machine (State α) (Label α) :=
  ⟨State.empty, enabled, next ring⟩

variable [Inhabited α] (ring : Ring)

lemma valueAt_store (s : State α) (a : α) {n : ℕ} (h : n ≤ s.history.length) :
    (next ring s (.store a)).valueAt n = s.valueAt n := by
  simp only [State.valueAt, next]
  rw [List.take_append_of_le_length h]

/-! ### What holds in every run -/

/-- The bookkeeping of a run: every message read or handed on is the one stored
under its number, the numbers handed on never decrease, and a ring is only ever
about a message that was stored. -/
structure Sound (s : State α) : Prop where
  held : s.progress = .holding →
    s.buffer.1 ≤ s.history.length ∧ s.buffer.2 = s.valueAt s.buffer.1
  kept : ∀ p ∈ s.handed, p.1 ≤ s.history.length ∧ p.2 = s.valueAt p.1
  sorted : s.handed.Pairwise fun p q => p.1 ≤ q.1
  latest : s.progress = .holding → ∀ p ∈ s.handed, p.1 ≤ s.buffer.1
  rung : s.signalled ∨ s.progress = .drained → s.history ≠ []
  busy : s.phase ≠ .free → s.history ≠ []

lemma Sound.store {s : State α} (h : Sound s) (a : α) : Sound (next ring s (.store a)) where
  held hp := by
    obtain ⟨h₁, h₂⟩ := h.held hp
    refine ⟨?_, h₂.trans (valueAt_store ring s a h₁).symm⟩
    simp only [next, List.length_append]
    omega
  kept p hp := by
    obtain ⟨h₁, h₂⟩ := h.kept p hp
    refine ⟨?_, h₂.trans (valueAt_store ring s a h₁).symm⟩
    simp only [next, List.length_append]
    omega
  sorted := h.sorted
  latest := h.latest
  rung _ := by simp [next]
  busy _ := by simp [next]

/-- Reading puts the newest message in the buffer. -/
lemma Sound.fill {s : State α} (h : Sound s) :
    Sound { s with progress := .holding, buffer := (s.history.length, s.content),
                   skipped := false } where
  held _ := ⟨le_rfl, (s.valueAt_length).symm⟩
  kept := h.kept
  sorted := h.sorted
  latest _ p hp := (h.kept p hp).1
  rung hr := h.rung (hr.imp id (by simp))
  busy := h.busy

lemma Sound.hand {s : State α} (h : Sound s) (hp : s.progress = .holding) :
    Sound (next ring s .hand) where
  held hp' := by simp [next] at hp'
  kept p hp' := by
    rcases List.mem_append.mp hp' with hmem | hmem
    · exact h.kept p hmem
    · rw [List.mem_singleton.mp hmem]
      exact h.held hp
  sorted := by
    refine List.pairwise_append.mpr ⟨h.sorted, List.pairwise_singleton _ _, ?_⟩
    intro p hmem q hq
    rw [List.mem_singleton.mp hq]
    exact h.latest hp p hmem
  latest hp' := by simp [next] at hp'
  rung hr := h.rung (hr.imp id (by simp [next]))
  busy := h.busy

lemma Sound.notify {s : State α} (h : Sound s) (hp : s.phase = .stored) :
    Sound (next ring s .notify) where
  held := h.held
  kept := h.kept
  sorted := h.sorted
  latest := h.latest
  rung _ := h.busy (by simp [hp])
  busy _ := h.busy (by simp [hp])

lemma Sound.idle {s : State α} (h : Sound s) (b : Bool) :
    Sound { s with progress := .idle, skipped := b } where
  held hp := by simp at hp
  kept := h.kept
  sorted := h.sorted
  latest hp := by simp at hp
  rung hr := h.rung (hr.imp id (by simp))
  busy := h.busy

theorem sound_inductive : (machine α ring).Inductive Sound where
  init := by
    refine ⟨?_, ?_, List.Pairwise.nil, ?_, ?_, ?_⟩ <;>
      simp [machine, State.empty, State.signalled]
  step s l h hl := by
    cases l with
    | create => exact ⟨h.held, h.kept, h.sorted, h.latest,
        fun hr => h.rung (hr.imp (by simp [machine, next, State.signalled]) id), h.busy⟩
    | store a => exact h.store ring a
    | notify => exact h.notify ring hl
    | unlock => exact ⟨h.held, h.kept, h.sorted, h.latest, h.rung,
        fun _ => h.busy (by rw [show s.phase = .notified from hl]; simp)⟩
    | drain => exact ⟨by simp [machine, next], h.kept, h.sorted, by simp [machine, next],
        fun _ => h.rung (.inl hl.2), h.busy⟩
    | read => exact h.fill
    | readFail => exact h.idle true
    | peek => exact h.fill
    | hand => exact h.hand ring hl
    | discard => exact h.idle true

/-! ### Order -/

/-- Listing a function along a sorted list of indices and collapsing adjacent
repeats gives a subsequence of listing it along all of them. -/
private lemma destutter_map_sublist [DecidableEq β] (f : ℕ → β) (n : ℕ) :
    ∀ (l : List ℕ) (a : ℕ), (a :: l).Pairwise (· ≤ ·) → (∀ i ∈ a :: l, i < a + n) →
      ((l.map f).destutter' (· ≠ ·) (f a)).Sublist ((List.range' a n).map f) := by
  intro l
  induction l generalizing n with
  | nil =>
      intro a _ hlt
      obtain ⟨m, rfl⟩ : ∃ m, n = m + 1 := ⟨n - 1, by have := hlt a (by simp); omega⟩
      simp [List.range'_succ]
  | cons b l ih =>
      intro a hs hlt
      have hab : a ≤ b := (List.pairwise_cons.mp hs).1 b (by simp)
      have hsb := (List.pairwise_cons.mp hs).2
      rw [List.map_cons, List.destutter'_cons]
      split_ifs with hne
      · -- a new value, so a later index: the rest lies beyond `a`
        have hne' : a ≠ b := fun h => hne (by rw [h])
        obtain ⟨m, rfl⟩ : ∃ m, n = (b - a) + m := ⟨n - (b - a), by
          have := hlt b (by simp); omega⟩
        have htail := ih m b hsb fun i hi => by
          have := hlt i (List.mem_cons_of_mem _ hi); omega
        obtain ⟨k, hk⟩ : ∃ k, b - a = k + 1 := ⟨b - a - 1, by omega⟩
        rw [← List.range'_append_1, List.map_append, hk, List.range'_succ, List.map_cons,
          List.cons_append]
        refine List.Sublist.cons_cons _ (List.Sublist.trans ?_ (List.sublist_append_right _ _))
        rw [show a + (k + 1) = b from by omega]
        exact htail
      · refine ih n a ?_ fun i hi => ?_
        · refine List.pairwise_cons.mpr ⟨fun i hi => ?_, (List.pairwise_cons.mp hsb).2⟩
          exact hab.trans ((List.pairwise_cons.mp hsb).1 i hi)
        · rcases List.mem_cons.mp hi with rfl | hi'
          · exact hlt _ (by simp)
          · exact hlt i (by simp [hi'])

/-- Every read was announced: the consumer never peeks. -/
def announced (_ : State α) : Label α → Prop
  | .peek => False
  | _ => True

/-- Only stored messages are read and handed on, never the default. -/
structure Positive (s : State α) : Prop where
  held : s.progress = .holding → 0 < s.buffer.1
  kept : ∀ p ∈ s.handed, 0 < p.1

theorem positive_inductive :
    ((machine α ring).restrict announced).Inductive fun s => Sound s ∧ Positive s := by
  refine ((sound_inductive ring).restrict announced).and ?_ fun s l hs hpos hl => ?_
  · exact ⟨by simp [machine, Machine.restrict, State.empty],
      by simp [machine, Machine.restrict, State.empty]⟩
  cases l with
  | create => exact ⟨hpos.held, hpos.kept⟩
  | store a => exact ⟨hpos.held, hpos.kept⟩
  | notify => exact ⟨hpos.held, hpos.kept⟩
  | unlock => exact ⟨hpos.held, hpos.kept⟩
  | drain => exact ⟨by simp [machine, Machine.restrict, next], hpos.kept⟩
  | read => exact ⟨fun _ => List.length_pos_of_ne_nil (hs.rung (.inr hl.1.1)), hpos.kept⟩
  | readFail => exact ⟨by simp [machine, Machine.restrict, next], hpos.kept⟩
  | peek => exact absurd hl.2 id
  | hand =>
      refine ⟨by simp [machine, Machine.restrict, next], fun p hp => ?_⟩
      rcases List.mem_append.mp hp with hmem | hmem
      · exact hpos.kept p hmem
      · rw [List.mem_singleton.mp hmem]
        exact hpos.held hl.1
  | discard => exact ⟨by simp [machine, Machine.restrict, next], hpos.kept⟩

lemma State.valueAt_eq_getElem? (s : State α) {n : ℕ} (h₀ : 0 < n) (h : n ≤ s.history.length) :
    s.valueAt n = s.history[n - 1]?.getD default := by
  rw [valueAt, List.getLastD_eq_getLast?, List.getLast?_take, if_neg (by omega),
    List.getElem?_eq_getElem (by omega)]
  rfl

/-- What is in hand was stored. -/
lemma Sound.mem_history {s : State α} (hs : Sound s) (hp : Positive s)
    (h : s.progress = .holding) : s.buffer.2 ∈ s.history := by
  obtain ⟨hle, hval⟩ := hs.held h
  have hpos := hp.held h
  rw [hval, s.valueAt_eq_getElem? hpos hle, List.getElem?_eq_getElem (by omega)]
  exact List.getElem_mem _

/-- **Latest wins, in order**: what the consumer hands on, or any part of it, is,
adjacent repeats collapsed, a subsequence of what the producers stored. -/
theorem handed_destutter_sublist [DecidableEq β] {s : State α} (hs : Sound s)
    (hp : Positive s) {l : List (ℕ × α)} (hl : l.Sublist s.handed) (f : α → β) :
    ((l.map fun p => f p.2).destutter (· ≠ ·)).Sublist (s.history.map f) := by
  set g : ℕ → β := fun j => f (s.history[j]?.getD default) with hg
  have hval : l.map (fun p => f p.2) = (l.map fun p => p.1 - 1).map g := by
    rw [List.map_map]
    refine List.map_congr_left fun p hmem => ?_
    obtain ⟨hle, heq⟩ := hs.kept p (hl.subset hmem)
    simp only [hg, Function.comp_apply]
    rw [heq, s.valueAt_eq_getElem? (hp.kept p (hl.subset hmem)) hle]
  have hhist : s.history.map f = (List.range' 0 s.history.length).map g := by
    refine List.ext_getElem (by simp) fun i hi _ => ?_
    simp only [List.length_map] at hi
    simp [hg, hi]
  have hsort : (l.map fun p => p.1 - 1).Pairwise (· ≤ ·) :=
    List.pairwise_map.mpr ((hs.sorted.sublist hl).imp fun h => Nat.sub_le_sub_right h 1)
  have hlt : ∀ i ∈ l.map fun p => p.1 - 1, i < s.history.length := by
    intro i hi
    obtain ⟨p, hmem, rfl⟩ := List.mem_map.mp hi
    have h₁ := (hs.kept p (hl.subset hmem)).1
    have h₂ := hp.kept p (hl.subset hmem)
    omega
  rw [hval, hhist]
  cases hmap : l.map fun p => p.1 - 1 with
  | nil => simp
  | cons a is =>
      rw [hmap] at hsort hlt
      rw [List.map_cons, List.destutter_cons']
      have ha := hlt a (by simp)
      have hcut : List.range' 0 a ++ List.range' a (s.history.length - a) =
          List.range' 0 s.history.length := by
        simpa [Nat.add_sub_cancel' ha.le] using @List.range'_append_1 0 a (s.history.length - a)
      calc (is.map g).destutter' (· ≠ ·) (g a)
        List.Sublist _ ((List.range' a (s.history.length - a)).map g) := by
          refine destutter_map_sublist g _ is a hsort ?_
          intro i hi
          have := hlt i hi
          omega
        List.Sublist _ ((List.range' 0 s.history.length).map g) :=
          (hcut ▸ List.sublist_append_right _ _ : List.Sublist _ _).map g

/-! ### No lost update -/

/-- The bell does not ring while the consumer, having silenced it, has yet to
read. -/
def unhurried (s : State α) : Label α → Prop
  | .notify => s.progress ≠ .drained
  | _ => True

instance (s : State α) (l : Label α) : Decidable (unhurried s l) := by
  cases l <;> dsimp only [unhurried] <;> infer_instance

/-- What has been handed on is older than whatever is in the buffer, and that is
older than whatever the bell announces. -/
structure Once (s : State α) : Prop where
  strict : s.handed.Pairwise fun p q => p.1 < q.1
  ahead : s.progress = .holding → ∀ p ∈ s.handed, p.1 < s.buffer.1
  pending : s.signalled ∨ s.phase = .stored ∨ s.progress = .drained →
    ∀ p ∈ s.handed, p.1 < s.history.length
  unread : s.progress = .holding → s.signalled ∨ s.phase = .stored →
    s.buffer.1 < s.history.length
  silent : s.progress = .drained → ¬ s.signalled

/-- The conditions under which every message is handed on at most once. -/
def orderly (s : State α) (l : Label α) : Prop := announced s l ∧ unhurried s l

lemma Once.store {s : State α} (hs : Sound s) (ho : Once s) (a : α) :
    Once (next ring s (.store a)) where
  strict := ho.strict
  ahead := ho.ahead
  pending _ p hp := by
    have := (hs.kept p hp).1
    simp only [next, List.length_append, List.length_singleton]
    omega
  unread hp _ := by
    have := (hs.held hp).1
    simp only [next, List.length_append, List.length_singleton]
    omega
  silent := ho.silent

lemma Once.notify {s : State α} (ho : Once s) (hst : s.phase = .stored)
    (hq : s.progress ≠ .drained) : Once (next ring s .notify) where
  strict := ho.strict
  ahead := ho.ahead
  pending _ := ho.pending (.inr (.inl hst))
  unread hp _ := ho.unread hp (.inr hst)
  silent hd := absurd hd hq

/-- Reading: the bell is silent and the lock free, so nothing newer is
announced. -/
lemma Once.read {s : State α} (ho : Once s) (hd : s.progress = .drained)
    (hf : s.phase = .free) : Once (next ring s .read) where
  strict := ho.strict
  ahead _ := ho.pending (.inr (.inr hd))
  pending _ := ho.pending (.inr (.inr hd))
  unread _ hr := by
    rcases hr with hr | hr
    · exact absurd hr (ho.silent hd)
    · simp [next, hf] at hr
  silent hd' := by simp [next] at hd'

lemma Once.hand {s : State α} (ho : Once s) (hp : s.progress = .holding) :
    Once (next ring s .hand) where
  strict := by
    refine List.pairwise_append.mpr ⟨ho.strict, List.pairwise_singleton _ _, ?_⟩
    intro p hmem q hq
    rw [List.mem_singleton.mp hq]
    exact ho.ahead hp p hmem
  ahead hp' := by simp [next] at hp'
  pending hr p hmem := by
    have hr' : s.signalled ∨ s.phase = .stored := by
      simpa [next, State.signalled] using hr
    rcases List.mem_append.mp hmem with hmem | hmem
    · exact ho.pending (hr'.imp id .inl) p hmem
    · rw [List.mem_singleton.mp hmem]
      exact ho.unread hp hr'
  unread hp' := by simp [next] at hp'
  silent hd := by simp [next] at hd

omit [Inhabited α] in
/-- Dropping what the bell announced, unread or read. -/
lemma Once.idle {s : State α} (ho : Once s) (b : Bool) :
    Once { s with progress := .idle, skipped := b } where
  strict := ho.strict
  ahead hp := by simp at hp
  pending hr := ho.pending (hr.imp id fun h => h.imp id (by simp))
  unread hp := by simp at hp
  silent hd := by simp at hd

theorem once_inductive :
    ((machine α ring).restrict orderly).Inductive fun s => Sound s ∧ Once s := by
  refine ((sound_inductive ring).restrict orderly).and ?_ fun s l hs ho hl => ?_
  · exact ⟨List.Pairwise.nil, by simp [machine, Machine.restrict, State.empty],
      by simp [machine, Machine.restrict, State.empty],
      by simp [machine, Machine.restrict, State.empty],
      by simp [machine, Machine.restrict, State.empty]⟩
  obtain ⟨hl, hpeek, hring⟩ := hl
  cases l with
  | create =>
      refine ⟨ho.strict, ho.ahead, fun hr => ho.pending (hr.imp ?_ id),
        fun hp hr => ho.unread hp (hr.imp ?_ id), fun _ => ?_⟩ <;>
        simp [machine, Machine.restrict, next, State.signalled]
  | store a => exact ho.store ring hs a
  | notify => exact ho.notify ring hl hring
  | unlock =>
      have hph : s.phase = .notified := hl
      refine ⟨ho.strict, ho.ahead, fun hr => ho.pending (hr.imp id fun h => h.imp ?_ id),
        fun hp hr => ho.unread hp (hr.imp id ?_), ho.silent⟩ <;>
        simp [machine, Machine.restrict, next]
  | drain =>
      refine ⟨ho.strict, ?_, fun _ => ho.pending (.inl hl.2), ?_, fun _ => ?_⟩ <;>
        simp [machine, Machine.restrict, next, State.signalled]
  | read => exact ho.read ring hl.1 hl.2
  | readFail => exact ho.idle true
  | peek => exact absurd hpeek id
  | hand => exact ho.hand ring hl
  | discard => exact ho.idle true

omit [Inhabited α] in
/-- **At most once**: no message is handed on twice. -/
lemma Once.nodup {s : State α} (ho : Once s) : (s.handed.map (·.1)).Nodup :=
  List.pairwise_map.mpr (ho.strict.imp fun h => h.ne)

end Doorbell

end Automata
