import ClimateNode.Gateway.Passes

/-!
The poll set of `main` in `gateway/src/main.cpp`: the slots it hands out, which
shift with the states of the sessions, and what is read back through them.

* `assemble`: the array and the slots, as `main` fills them in.
* `assemble_slot`: a slot is where its descriptor is, so that `readyAt_iff` reads
  the readiness of a descriptor whatever else is polled.
-/

namespace ClimateNode.Gateway

variable {ss : Sessions} {d : Descriptor}

/-- What puts a descriptor in the poll set. -/
def Descriptor.polled (ss : Sessions) : Descriptor → Prop
  | .sock i => (ss i).state ≠ .idle
  | .evt c => (ss c.session).state = .serving

lemma mem_pollSet : d ∈ pollSet ss ↔ d.polled ss := by
  cases d with
  | sock i => cases i <;> simp [pollSet, Descriptor.polled]
  | evt c => cases c <;> simp [pollSet, Descriptor.polled]

/-! ### Slots -/

/-- The array `fds`, and the slots: where a descriptor is, if it is polled. -/
structure Slots where
  fds : List Descriptor
  slot : Descriptor → Option ℕ

/-- The next slot of the array. -/
def Slots.add (p : Slots) (d : Descriptor) : Slots :=
  ⟨p.fds ++ [d], Function.update p.slot d (some p.fds.length)⟩

/-- The poll set as `main` assembles it: the sockets, then the eventfds of the
sessions that serve. -/
def assemble (ss : Sessions) : Slots :=
  let p := [SessionId.own, .peer].foldl
    (fun p i => if (ss i).state = .idle then p else p.add (.sock i)) ⟨[], fun _ => none⟩
  let p := if (ss .own).state = .serving then p.add (.evt .telemetry) else p
  if (ss .peer).state = .serving then
    ((p.add (.evt .relayTelemetry)).add (.evt .relayAck)).add (.evt .relayStatus)
  else p

lemma assemble_fds (ss : Sessions) : (assemble ss).fds = pollSet ss := by
  cases hown : (ss .own).state <;> cases hpeer : (ss .peer).state <;>
    simp [assemble, pollSet, Slots.add, hown, hpeer, ChanId.session]

/-- The slots are right: each says where its descriptor is. -/
def Slots.Sound (p : Slots) : Prop := ∀ d k, p.slot d = some k ↔ p.fds[k]? = some d

lemma Slots.Sound.add {p : Slots} (h : p.Sound) (hd : d ∉ p.fds) : (p.add d).Sound := by
  intro e k
  have hlen : p.fds[k]? = some d → False := fun hk => hd (List.mem_of_getElem? hk)
  by_cases he : e = d
  · subst he
    simp only [Slots.add, Function.update_self, Option.some.injEq, List.getElem?_append]
    split_ifs with hk
    · constructor
      · intro heq
        omega
      · exact fun heq => absurd heq hlen
    · simp only [List.getElem?_singleton]
      constructor
      · intro heq
        simp [heq]
      · intro heq
        split_ifs at heq with h0
        omega
  · simp only [Slots.add, Function.update_of_ne he, List.getElem?_append]
    rw [h e k]
    split_ifs with hk
    · rfl
    · have hnone : p.fds[k]? = none := List.getElem?_eq_none (not_lt.mp hk)
      simp only [hnone, List.getElem?_singleton]
      split_ifs
      · simpa using fun heq : d = e => he heq.symm
      · rfl

/-- **The slots do not mix the sessions up**: whatever is polled, a slot is where
its own descriptor is. -/
theorem assemble_slot (ss : Sessions) : (assemble ss).Sound := by
  have hempty : (⟨[], fun _ => none⟩ : Slots).Sound := fun d k => by simp
  cases hown : (ss .own).state <;> cases hpeer : (ss .peer).state <;>
    simp only [assemble, hown, hpeer, List.foldl, reduceCtorEq, if_true, if_false]
  all_goals repeat' apply Slots.Sound.add
  all_goals first | exact hempty | simp [Slots.add]

/-- What `main` finds at the slot of a descriptor, `answers` being what the poll
left in the array: `ZSOCK_POLLIN`, if there is a slot. -/
def readyAt (ss : Sessions) (answers : ℕ → Bool) (d : Descriptor) : Prop :=
  ∃ k, (assemble ss).slot d = some k ∧ answers k = true

/-- What is readable, by descriptor: a descriptor is polled, and its entry says so. -/
lemma readyAt_iff (ss : Sessions) (answers : ℕ → Bool) (d : Descriptor) :
    readyAt ss answers d ↔
      d ∈ pollSet ss ∧ answers ((pollSet ss).idxOf d) = true := by
  have hnodup : (pollSet ss).Nodup := by
    cases hown : (ss .own).state <;> cases hpeer : (ss .peer).state <;>
      simp [pollSet, hown, hpeer, ChanId.session]
  have hslot (k : ℕ) : (assemble ss).slot d = some k ↔ (pollSet ss)[k]? = some d := by
    rw [assemble_slot ss d k, assemble_fds]
  constructor
  · rintro ⟨k, hk, hans⟩
    have hget := (hslot k).mp hk
    have hidx : (pollSet ss).idxOf d = k := by
      obtain ⟨hlt, rfl⟩ := List.getElem?_eq_some_iff.mp hget
      exact hnodup.idxOf_getElem k hlt
    exact ⟨List.mem_of_getElem? hget, by rw [hidx, hans]⟩
  · rintro ⟨hmem, hans⟩
    refine ⟨_, (hslot _).mpr ?_, hans⟩
    rw [List.getElem?_eq_getElem (List.idxOf_lt_length_of_mem hmem), List.getElem_idxOf]

end ClimateNode.Gateway
