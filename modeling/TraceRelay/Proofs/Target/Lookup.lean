import TraceRelay.Proofs.Journal
import TraceRelay.Target.Attempts
import TraceRelay.Target.Resolve

/-!
# What a lookup does

A lookup starts its command, or finds that it cannot, and otherwise only logs something. It finds
the process id that its command lists first. Counting a failed one logs at most.
-/

namespace TraceRelay.Target

variable (settings : LookupSettings) (name : String)

/-- The first step of a lookup: its command is started, or refused. -/
def Outcome.attempt : Outcome → Action
  | .refused cause => .refused ⟨.lookup, arguments settings name⟩ cause
  | .ended _ _ => .started ⟨.lookup, arguments settings name⟩

/-- Whether the lookup comes to nothing. -/
def Outcome.fails (outcome : Outcome) : Bool :=
  match (resolve settings name outcome).value with
  | .error _ => true
  | .ok _ => false

/-- The command succeeds, and the process id is the first entry of what it lists. -/
def Outcome.Lists (outcome : Outcome) (pid : UInt32) : Prop :=
  ∃ stdout first others, outcome = .ended (.exited 0) stdout ∧
    entries (Text.decodeLossy stdout) = first :: others ∧ Text.uint32? first = some pid ∧ 0 < pid

theorem Outcome.Lists.unique {outcome : Outcome} {pid pid' : UInt32} (h : outcome.Lists pid)
    (h' : outcome.Lists pid') : pid = pid' := by
  obtain ⟨stdout, first, others, rfl, hentries, hpid, -⟩ := h
  obtain ⟨_, _, _, heq, hentries', hpid', -⟩ := h'
  cases heq
  cases hentries.symm.trans hentries'
  exact Option.some.inj (hpid.symm.trans hpid')

/-- What a listing begins with is the target, unless it is no process id. -/
theorem readListing_cons {stdout first : List Char} {others : List (List Char)}
    (h : entries stdout = first :: others) : (readListing stdout name).value =
      match (Text.uint32? first).filter (0 < ·) with
      | none => .error (.parse (String.ofList first))
      | some pid => .ok pid := by
  unfold readListing
  simp only [h]
  cases (Text.uint32? first).filter (0 < ·) with
  | none => rfl
  | some pid => by_cases hothers : others = [] <;> simp [hothers]

theorem readListing_eq_ok_iff (stdout : List Char) (pid : UInt32) :
    (readListing stdout name).value = .ok pid ↔ ∃ first others,
      entries stdout = first :: others ∧ Text.uint32? first = some pid ∧ 0 < pid := by
  cases hentries : entries stdout with
  | nil => simp [readListing, hentries]
  | cons first others =>
    have hlists : (∃ first' others', first :: others = first' :: others' ∧
        Text.uint32? first' = some pid ∧ 0 < pid) ↔
          (Text.uint32? first).filter (0 < ·) = some pid := by
      simp [Option.filter_eq_some_iff]
    rw [readListing_cons name hentries, hlists]
    cases (Text.uint32? first).filter (0 < ·) <;> simp

/-- **A lookup finds what its command lists.** -/
theorem resolve_eq_ok_iff (outcome : Outcome) (pid : UInt32) :
    (resolve settings name outcome).value = .ok pid ↔ outcome.Lists pid := by
  cases outcome with
  | refused cause => simp [resolve, Outcome.Lists]
  | ended status stdout =>
    cases status with
    | killed => simp [resolve, ExitStatus.code?, Outcome.Lists]
    | exited code =>
      by_cases hzero : code = 0
      · subst hzero
        simpa [resolve, ExitStatus.code?, Outcome.Lists] using
          readListing_eq_ok_iff name (Text.decodeLossy stdout) pid
      · by_cases hone : code = 1 <;>
          simp_all [resolve, ExitStatus.code?, Outcome.Lists]

theorem readListing_isLog (stdout : List Char) :
    ∀ a ∈ (readListing stdout name).journal, a.isLog = true := by
  unfold readListing
  split
  · simp
  · next first others _ =>
    split
    · simp
    · by_cases hothers : others = [] <;> simp [hothers, Action.isLog]

theorem resolve_journal (outcome : Outcome) : ∃ notes, (∀ a ∈ notes, a.isLog = true) ∧
    (resolve settings name outcome).journal = outcome.attempt settings name :: notes := by
  cases outcome with
  | refused cause => exact ⟨[], by simp, rfl⟩
  | ended status stdout =>
    simp only [resolve, Outcome.attempt]
    split
    · exact ⟨_, readListing_isLog name (Text.decodeLossy stdout), rfl⟩
    · exact ⟨[], by simp, rfl⟩
    · exact ⟨[], by simp, rfl⟩

theorem countFailure_isLog (attempts : Attempts) :
    ∀ a ∈ attempts.countFailure.journal, a.isLog = true := by
  unfold Attempts.countFailure
  dsimp only
  split
  · split <;> simp [Action.isLog]
  · simp

theorem toNat_saturatingSucc (n : UInt32) :
    (saturatingSucc n).toNat = min (n.toNat + 1) (UInt32.size - 1) := by
  have hn := n.toNat_lt
  unfold saturatingSucc UInt32.size
  split
  · next hsmall =>
    rw [UInt32.toNat_add]
    show (n.toNat + 1) % 2 ^ 32 = _
    omega
  · omega

/-- The search is given up when the count, with the lookup that failed, has reached the limit. -/
theorem countFailure_value (attempts : Attempts) :
    let counted := { attempts with count := saturatingSucc attempts.count }
    attempts.countFailure.value =
      (if ∃ limit, attempts.limit = some limit ∧ limit ≤ counted.count then .giveUp
        else .wait counted.count attempts.interval, counted) := by
  unfold Attempts.countFailure
  cases hlimit : attempts.limit with
  | none => simp
  | some limit => by_cases hle : limit ≤ saturatingSucc attempts.count <;> simp [hle]

/-- The delay before the next lookup is always the same. -/
theorem delay_of_wait {attempts counted : Attempts} {attempt : UInt32} {delay : Duration}
    (h : attempts.countFailure.value = (.wait attempt delay, counted)) :
    delay = attempts.interval := by
  rw [countFailure_value] at h
  obtain ⟨hverdict, -⟩ := Prod.mk.inj h
  split at hverdict
  · cases hverdict
  · cases hverdict
    rfl

end TraceRelay.Target
