import TraceRelay.Shutdown

/-!
# What the handles of a shutdown latch see

A latch has fired when its trigger was used before it was dropped (`HasFired`). Every handle sees
that and nothing else: neither when it was cloned, nor which waits were polled, suspended or given
up, nor whether the trigger still exists makes a difference. This holds over every channel that is
as `Watch.Lawful` says.

The invariant is `LatchOn.Shows`, which says of every handle what it has still to learn
(`Handle.Sees`): a suspended wait of a latch that has fired has not seen the value yet, and only a
latch that can no longer fire has told a wait that the trigger is gone.
-/

namespace TraceRelay

theorem Watch.versioned_lawful (α : Type) : (Watch.versioned α).Lawful where
  borrow_shared _ _ := rfl
  belongs_create _ := Nat.le_refl 0
  borrow_create _ := rfl
  isClosed_create _ := rfl
  belongs_send _ h := Nat.le_succ_of_le h
  borrow_send _ _ := rfl
  isClosed_send _ _ := rfl
  unseen_send {_ _} _ h := bne_iff_ne.mpr (Nat.ne_of_lt (Nat.lt_succ_of_le h))
  belongs_close h := h
  borrow_close _ := rfl
  isClosed_close _ := rfl
  unseen_close _ := rfl
  belongs_clone h := h
  unseen_clone _ := rfl
  poll_answer _ _ _ := rfl
  belongs_poll {channel _} _ _ _ := Nat.le_refl channel.version
  unseen_poll {channel _} _ _ _ := bne_self_eq_false channel.version

namespace Shutdown

variable {w : Watch Bool} {channel : w.Channel} {handle : Handle w} {latch : LatchOn w}
  {fired : Bool} {operations : List Operation} {i : Nat}

/-! ## Specification vocabulary -/

/-- The trigger was used before it was dropped. -/
def HasFired (operations : List Operation) : Prop :=
  .fire ∈ operations.takeWhile (· ≠ .disarm)

instance : Decidable (HasFired operations) :=
  inferInstanceAs (Decidable (_ ∈ _))

/-- The number of handles after an operation: a clone of a handle that exists is one more. -/
def countAfter (count : Nat) : Operation → Nat
  | .clone i => if i < count then count + 1 else count
  | _ => count

/-- The latch after operations in order. -/
def LatchOn.run (latch : LatchOn w) (operations : List Operation) : LatchOn w :=
  operations.foldl (fun latch operation => (latch.step operation).2) latch

/-- The answer that every poll gives. -/
def Readiness.ofFired (fired : Bool) : Readiness :=
  if fired then .ready else .pending

/-! ## What operations leave as it was -/

@[simp] theorem step_latch (latch : LatchOn w) (operation : Operation) :
    (latch.step operation).2 = (latch.apply operation).2 := rfl

namespace LatchOn

@[simp] theorem armed_clone (latch : LatchOn w) (i : Nat) : (latch.clone i).armed = latch.armed :=
  rfl

@[simp] theorem armed_fire (latch : LatchOn w) : latch.fire.armed = latch.armed := by
  unfold fire
  split <;> rfl

@[simp] theorem handles_fire (latch : LatchOn w) : latch.fire.handles = latch.handles := by
  unfold fire
  split <;> rfl

@[simp] theorem armed_disarm (latch : LatchOn w) : latch.disarm.armed = false := by
  unfold disarm
  split
  · rfl
  · exact eq_false_of_ne_true ‹_›

@[simp] theorem handles_disarm (latch : LatchOn w) : latch.disarm.handles = latch.handles := by
  unfold disarm
  split <;> rfl

@[simp] theorem armed_abandon (latch : LatchOn w) (i : Nat) :
    (latch.abandon i).armed = latch.armed := rfl

@[simp] theorem length_handles_abandon (latch : LatchOn w) (i : Nat) :
    (latch.abandon i).handles.length = latch.handles.length :=
  List.length_modify ..

@[simp] theorem armed_await (latch : LatchOn w) (i : Nat) :
    (latch.await i).2.armed = latch.armed := by
  unfold await
  split <;> rfl

@[simp] theorem length_handles_await (latch : LatchOn w) (i : Nat) :
    (latch.await i).2.handles.length = latch.handles.length := by
  unfold await
  split
  · rfl
  · exact List.length_set

@[simp] theorem armed_poll (latch : LatchOn w) (i : Nat) :
    (latch.poll i).2.armed = latch.armed := by
  simp [poll]

@[simp] theorem length_handles_poll (latch : LatchOn w) (i : Nat) :
    (latch.poll i).2.handles.length = latch.handles.length := by
  simp [poll]

theorem length_handles_clone (latch : LatchOn w) (i : Nat) :
    (latch.clone i).handles.length = countAfter latch.handles.length (.clone i) := by
  by_cases hi : i < latch.handles.length
  · simp [clone, countAfter, hi]
  · simp [clone, countAfter, hi]

end LatchOn

/-! ## One handle -/

/-- What a handle has seen of a latch, and what it has still to see. -/
structure Handle.Sees (channel : w.Channel) (fired : Bool) (handle : Handle w) : Prop where
  belongs : w.Belongs channel handle.receiver
  value : w.borrow channel handle.receiver = fired
  suspended : handle.waiting = .suspended → fired = true →
    w.unseen channel handle.receiver = true
  endless : handle.waiting = .endless → fired = false ∧ w.isClosed channel = true

namespace Handle.Sees

theorem create (lawful : w.Lawful) :
    Handle.Sees (w.create false).1 false { receiver := (w.create false).2 } where
  belongs := lawful.belongs_create false
  value := lawful.borrow_create false
  suspended := nofun
  endless := nofun

theorem send (lawful : w.Lawful) (h : handle.Sees channel fired)
    (hopen : w.isClosed channel = false) : handle.Sees (w.send channel true) true where
  belongs := lawful.belongs_send true h.belongs
  value := lawful.borrow_send true h.belongs
  suspended _ _ := lawful.unseen_send true h.belongs
  endless hwaiting := by
    have hclosed := (h.endless hwaiting).2
    rw [hopen] at hclosed
    exact nomatch hclosed

theorem close (lawful : w.Lawful) (h : handle.Sees channel fired) :
    handle.Sees (w.close channel) fired where
  belongs := lawful.belongs_close h.belongs
  value := (lawful.borrow_close h.belongs).trans h.value
  suspended hwaiting hfired :=
    (lawful.unseen_close h.belongs).trans (h.suspended hwaiting hfired)
  endless hwaiting := ⟨(h.endless hwaiting).1, lawful.isClosed_close channel⟩

theorem clone (lawful : w.Lawful) (h : handle.Sees channel fired) :
    handle.clone.Sees channel fired where
  belongs := lawful.belongs_clone h.belongs
  value := (lawful.borrow_shared (lawful.belongs_clone h.belongs) h.belongs).trans h.value
  suspended := nofun
  endless := nofun

theorem abandon (h : handle.Sees channel fired) : handle.abandon.Sees channel fired where
  belongs := h.belongs
  value := h.value
  suspended := nofun
  endless := nofun

/-- A wait is answered by the value alone, if one that is under way has not seen that the latch
fired. -/
theorem ask (lawful : w.Lawful) (h : handle.Sees channel fired) (underWay : Bool)
    (hunseen : underWay = true → fired = true → w.unseen channel handle.receiver = true) :
    (handle.ask channel underWay).1 = .ofFired fired ∧
      (handle.ask channel underWay).2.Sees channel fired := by
  have hanswer := lawful.poll_answer underWay id h.belongs
  have hbelongs := lawful.belongs_poll underWay id h.belongs
  have hvalue := (lawful.borrow_shared hbelongs h.belongs).trans h.value
  rw [h.value] at hanswer
  unfold Handle.ask
  cases fired with
  | true =>
    -- Either the wait is new, or the value is: it is tested in both cases.
    have htested : (!underWay || w.unseen channel handle.receiver) = true := by
      cases underWay with
      | false => rfl
      | true => exact hunseen rfl rfl
    simp only [htested, id_eq, Bool.and_self, if_true] at hanswer
    simp only [hanswer]
    exact ⟨rfl, ⟨hbelongs, hvalue, nofun, nofun⟩⟩
  | false =>
    simp only [id_eq, Bool.and_false, Bool.false_eq_true, if_false] at hanswer
    cases hclosed : w.isClosed channel with
    | true =>
      simp only [hclosed, if_true] at hanswer
      simp only [hanswer]
      exact ⟨rfl, ⟨hbelongs, hvalue, nofun, fun _ => ⟨rfl, hclosed⟩⟩⟩
    | false =>
      simp only [hclosed, Bool.false_eq_true, if_false] at hanswer
      simp only [hanswer]
      exact ⟨rfl, ⟨hbelongs, hvalue, nofun, nofun⟩⟩

theorem await (lawful : w.Lawful) (h : handle.Sees channel fired) :
    (handle.await channel).1 = .ofFired fired ∧ (handle.await channel).2.Sees channel fired := by
  unfold Handle.await
  cases hwaiting : handle.waiting with
  | idle => exact h.ask lawful false nofun
  | suspended => exact h.ask lawful true fun _ => h.suspended hwaiting
  | endless =>
    obtain ⟨rfl, -⟩ := h.endless hwaiting
    exact ⟨rfl, h⟩

end Handle.Sees

/-! ## All handles of a latch -/

/-- All handles of a latch see the same, and its channel is closed once the trigger is gone. -/
structure LatchOn.Shows (latch : LatchOn w) (fired : Bool) : Prop where
  sees : ∀ handle ∈ latch.handles, handle.Sees latch.channel fired
  closed : w.isClosed latch.channel = !latch.armed

namespace LatchOn.Shows

theorem create (lawful : w.Lawful) : LatchOn.Shows ({} : LatchOn w) false where
  sees handle hmem := by
    obtain rfl := List.mem_singleton.mp hmem
    exact .create lawful
  closed := lawful.isClosed_create false

theorem fire (lawful : w.Lawful) (h : latch.Shows fired) :
    latch.fire.Shows (fired || latch.armed) := by
  cases harmed : latch.armed with
  | false => simpa [LatchOn.fire, harmed] using h
  | true =>
    have hopen : w.isClosed latch.channel = false := by simp [h.closed, harmed]
    simp only [LatchOn.fire, harmed, if_true, Bool.or_true]
    exact ⟨fun handle hmem => (h.sees handle hmem).send lawful hopen,
      (lawful.isClosed_send _ _).trans hopen⟩

theorem disarm (lawful : w.Lawful) (h : latch.Shows fired) : latch.disarm.Shows fired := by
  unfold LatchOn.disarm
  split
  · exact ⟨fun handle hmem => (h.sees handle hmem).close lawful, lawful.isClosed_close _⟩
  · exact h

theorem clone (lawful : w.Lawful) (h : latch.Shows fired) (i : Nat) :
    (latch.clone i).Shows fired := by
  refine ⟨fun handle hmem => ?_, h.closed⟩
  rcases List.mem_append.mp hmem with hold | hnew
  · exact h.sees handle hold
  · obtain ⟨source, hsource, rfl⟩ : ∃ source, latch.handles[i]? = some source ∧
        source.clone = handle := by simpa using hnew
    exact (h.sees source (List.mem_of_getElem? hsource)).clone lawful

theorem abandon (h : latch.Shows fired) (i : Nat) : (latch.abandon i).Shows fired := by
  refine ⟨fun handle hmem => ?_, h.closed⟩
  obtain ⟨j, hj⟩ := List.getElem?_of_mem hmem
  simp only [LatchOn.abandon, List.getElem?_modify, Option.map_eq_map,
    Option.map_eq_some_iff] at hj
  obtain ⟨source, hsource, rfl⟩ := hj
  have hsees := h.sees source (List.mem_of_getElem? hsource)
  split
  · exact hsees.abandon
  · exact hsees

theorem await (lawful : w.Lawful) (h : latch.Shows fired) (i : Nat) :
    (latch.await i).2.Shows fired := by
  unfold LatchOn.await
  cases hget : latch.handles[i]? with
  | none => exact h
  | some handle =>
    refine ⟨fun other hmem => ?_, h.closed⟩
    rcases List.mem_or_eq_of_mem_set hmem with hold | rfl
    · exact h.sees other hold
    · exact ((h.sees handle (List.mem_of_getElem? hget)).await lawful).2

theorem poll (lawful : w.Lawful) (h : latch.Shows fired) (i : Nat) :
    (latch.poll i).2.Shows fired :=
  ((h.abandon i).await lawful i).abandon i

theorem await_answer (lawful : w.Lawful) (h : latch.Shows fired) (hi : i < latch.handles.length) :
    (latch.await i).1 = some (.ofFired fired) := by
  have hget := List.getElem?_eq_getElem hi
  simp only [LatchOn.await, hget]
  exact congrArg some ((h.sees _ (List.getElem_mem hi)).await lawful).1

theorem poll_answer (lawful : w.Lawful) (h : latch.Shows fired) (hi : i < latch.handles.length) :
    (latch.poll i).1 = some (.ofFired fired) :=
  (h.abandon i).await_answer lawful (by simpa using hi)

theorem step (lawful : w.Lawful) (h : latch.Shows fired) (operation : Operation) :
    (latch.step operation).2.Shows (fired || latch.armed && operation = .fire) := by
  cases operation with
  | fire => simpa [LatchOn.apply] using h.fire lawful
  | disarm => simpa [LatchOn.apply] using h.disarm lawful
  | clone i => simpa [LatchOn.apply] using h.clone lawful i
  | poll i => simpa [LatchOn.apply] using h.poll lawful i
  | await i => simpa [LatchOn.apply] using h.await lawful i
  | abandon i => simpa [LatchOn.apply] using h.abandon i

end LatchOn.Shows

/-! ## Any order of operations -/

theorem armed_step (latch : LatchOn w) (operation : Operation) :
    (latch.step operation).2.armed = (latch.armed && operation ≠ .disarm) := by
  cases operation <;> simp [LatchOn.apply]

theorem length_handles_step (latch : LatchOn w) (operation : Operation) :
    (latch.step operation).2.handles.length = countAfter latch.handles.length operation := by
  cases operation with
  | clone i => exact latch.length_handles_clone i
  | _ => simp [LatchOn.apply, countAfter]

theorem hasFired_cons {operation : Operation} :
    HasFired (operation :: operations) ↔
      operation ≠ .disarm ∧ (operation = .fire ∨ HasFired operations) := by
  by_cases hdisarm : operation = .disarm
  · simp [HasFired, hdisarm]
  · simp [HasFired, hdisarm, eq_comm]

/-- What the handles see after operations is what they saw before, or a use of the trigger while
there was one. -/
theorem LatchOn.Shows.run (lawful : w.Lawful) (h : latch.Shows fired)
    (operations : List Operation) :
    (latch.run operations).Shows (fired || latch.armed && HasFired operations) := by
  -- Over every latch, not the new one alone: what holds from some point on follows from this too.
  induction operations generalizing latch fired with
  | nil => simpa [LatchOn.run, HasFired] using h
  | cons operation operations ih =>
    have hrun := ih (h.step lawful operation)
    rw [armed_step] at hrun
    have hfired : (fired || latch.armed && HasFired (operation :: operations)) =
        ((fired || latch.armed && operation = .fire) ||
          (latch.armed && operation ≠ .disarm) && HasFired operations) := by
      simp only [hasFired_cons]
      cases fired <;> cases latch.armed <;> cases operation <;> simp
    rw [hfired]
    exact hrun

theorem armed_run (latch : LatchOn w) (operations : List Operation) :
    (latch.run operations).armed = (latch.armed && .disarm ∉ operations) := by
  induction operations generalizing latch with
  | nil => simp [LatchOn.run]
  | cons operation operations ih =>
    have hrun := ih (latch.step operation).2
    rw [armed_step] at hrun
    refine hrun.trans ?_
    by_cases hdisarm : operation = .disarm <;> simp [hdisarm, eq_comm]

theorem length_handles_run (latch : LatchOn w) (operations : List Operation) :
    (latch.run operations).handles.length = operations.foldl countAfter latch.handles.length := by
  induction operations generalizing latch with
  | nil => rfl
  | cons operation operations ih =>
    rw [List.foldl_cons, ← length_handles_step]
    exact ih _

/-- A poll of a wait, of a new one or of one that is kept, is answered by what the handles see. -/
theorem LatchOn.Shows.readiness (lawful : w.Lawful) (h : latch.Shows fired)
    (hi : i < latch.handles.length) {operation : Operation}
    (hpoll : operation ∈ [.poll i, .await i]) :
    (latch.step operation).1.readiness = some (.ofFired fired) := by
  obtain rfl | rfl : operation = .poll i ∨ operation = .await i := by simpa using hpoll
  · exact h.poll_answer lawful hi
  · exact h.await_answer lawful hi

/-- **The handles agree.** After any operations on a latch and its handles, every handle, the first
and every clone, sees that the latch has fired iff the trigger was used before it was dropped, and
sees it from then on; any poll of a wait of any handle, whatever became of the waits before, is
ready iff it was; and once the trigger was dropped unused, every wait stays pending for ever. -/
theorem handles_agree_on_latch (w : Watch Bool) (lawful : w.Lawful)
    (operations : List Operation) :
    let latch := ({} : LatchOn w).run operations
    (latch.handles.length = operations.foldl countAfter 1 ∧
      ∀ handle ∈ latch.handles, handle.isFired latch.channel = true ↔ HasFired operations) ∧
    (HasFired operations → ∀ more, ∀ handle ∈ (latch.run more).handles,
      handle.isFired (latch.run more).channel = true) ∧
    (∀ i < latch.handles.length, ∀ operation ∈ [Operation.poll i, .await i],
      (latch.step operation).1.readiness =
        some (if HasFired operations then .ready else .pending)) ∧
    (.disarm ∈ operations → ¬ HasFired operations → ∀ more,
      ∀ i < (latch.run more).handles.length, ∀ operation ∈ [Operation.poll i, .await i],
        ((latch.run more).step operation).1.readiness = some .pending) := by
  intro latch
  have hshows : latch.Shows (HasFired operations) := by
    simpa using (LatchOn.Shows.create lawful).run lawful operations
  have harmed : latch.armed = (.disarm ∉ operations : Bool) := by
    simpa using armed_run ({} : LatchOn w) operations
  refine ⟨⟨length_handles_run _ operations, fun handle hmem => ?_⟩, ?_, ?_, ?_⟩
  · rw [Handle.isFired, (hshows.sees handle hmem).value, decide_eq_true_iff]
  · intro hfired more handle hmem
    have hmore := hshows.run lawful more
    simp only [hfired, decide_true, Bool.true_or] at hmore
    exact (hmore.sees handle hmem).value
  · intro i hi operation hpoll
    rw [hshows.readiness lawful hi hpoll, Readiness.ofFired]
    simp only [decide_eq_true_iff]
  · intro hdisarm hunfired more i hi operation hpoll
    have hmore := hshows.run lawful more
    simp only [hunfired, harmed, hdisarm, not_true, decide_false, Bool.false_and,
      Bool.or_false] at hmore
    exact hmore.readiness lawful hi hpoll

/-- A wait that was polled before the latch fired, a clone made afterwards, and a latch that was
dropped unused, over channels that number their values. -/
theorem handles_agree_on_latch_versioned :
    let fired : List Operation := [.clone 0, .await 1, .fire, .clone 1, .disarm]
    let unused : List Operation := [.clone 0, .await 1, .disarm, .await 1, .fire]
    (Watch.versioned Bool).Lawful ∧ HasFired fired ∧ ¬ HasFired unused ∧
      (({} : Latch).run fired).handles.length = 3 ∧
      ((({} : Latch).run fired).step (.await 1)).1.readiness = some .ready ∧
      ((({} : Latch).run fired).step (.poll 2)).1.readiness = some .ready ∧
      ((({} : Latch).run unused).step (.await 1)).1.readiness = some .pending := by
  intro fired unused
  obtain ⟨⟨hcount, -⟩, -, hready, -⟩ :=
    handles_agree_on_latch (Watch.versioned Bool) (Watch.versioned_lawful Bool) fired
  obtain ⟨-, -, -, hpending⟩ :=
    handles_agree_on_latch (Watch.versioned Bool) (Watch.versioned_lawful Bool) unused
  have hthree : (({} : Latch).run fired).handles.length = 3 := hcount.trans (by decide)
  exact ⟨Watch.versioned_lawful Bool, by decide, by decide, hthree,
    hready 1 (hthree ▸ by decide) _ (by simp), hready 2 (hthree ▸ by decide) _ (by simp),
    hpending (by decide) (by decide) [] 1 (by decide) _ (by simp)⟩

end Shutdown

end TraceRelay
