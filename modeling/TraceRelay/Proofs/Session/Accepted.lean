import TraceRelay.Proofs.Session.Whole

/-!
# What the system accepted of a call

A call may move only the first bytes of its payload, and the caller then issues the rest anew. The
accepted bytes of such calls are the bytes of the stream, each of them once. What a session relays
is every payload as a whole: the same bytes just when no call was a short one, and too many
otherwise, since the rest of a short call is relayed with it and once more when it is issued anew.
-/

namespace TraceRelay

namespace TracedWrite

/-- The bytes of the payload that the call moved. All of them may have been moved if its result is
not known. -/
def accepted (call : TracedWrite) : List UInt8 :=
  match call.result with
  | .written count => call.payload.take count.toNat
  | .failed _ => []
  | .unknown => call.payload

/-- Whether the call moved only a part of the payload that is shown. -/
def isShort (call : TracedWrite) : Bool :=
  match call.result with
  | .written count => count.toNat < call.payload.length
  | _ => false

variable {call : TracedWrite}

theorem accepted_append_drop (call : TracedWrite) :
    call.accepted ++ call.payload.drop call.accepted.length = call.payload := by
  cases hresult : call.result with
  | written count =>
    simp only [accepted, hresult, List.length_take]
    rcases Nat.le_total count.toNat call.payload.length with hle | hle
    · rw [Nat.min_eq_left hle, List.take_append_drop]
    · rw [Nat.min_eq_right hle, List.take_of_length_le hle, List.drop_length, List.append_nil]
  | failed errno => simp [accepted, hresult]
  | unknown => simp [accepted, hresult]

/-- A call that did not fail moved all of its payload unless it was a short one. -/
theorem accepted_eq_payload_iff (h : call.succeeded = true) :
    call.accepted = call.payload ↔ call.isShort = false := by
  cases hresult : call.result with
  | written count =>
    simp only [accepted, isShort, hresult, decide_eq_false_iff_not, Nat.not_lt]
    constructor
    · intro htake
      rw [← htake]
      exact List.length_take_le ..
    · exact List.take_of_length_le
  | failed errno => simp [succeeded, hresult] at h
  | unknown => simp [accepted, isShort, hresult]

theorem length_accepted_le (call : TracedWrite) : call.accepted.length ≤ call.payload.length := by
  rw [← congrArg List.length call.accepted_append_drop, List.length_append]
  exact Nat.le_add_right ..

end TracedWrite

/-- Calls that move the bytes of a stream: after one that moved only a part of its payload, the rest
is the payload of the next. -/
inductive Carries : List UInt8 → List TracedWrite → Prop
  | nothing : Carries [] []
  | whole {call bytes calls} (moved : call.accepted = call.payload) (later : Carries bytes calls) :
      Carries (call.payload ++ bytes) (call :: calls)
  | short {call next bytes calls} (moved : call.isShort = true)
      (reissued : next.payload = call.payload.drop call.accepted.length)
      (later : Carries (next.payload ++ bytes) (next :: calls)) :
      Carries (call.payload ++ bytes) (call :: next :: calls)

/-- **The accepted bytes of calls that carry a stream are the stream**, each byte once. -/
theorem Carries.flatten_accepted {bytes : List UInt8} {calls : List TracedWrite}
    (h : Carries bytes calls) : (calls.map (·.accepted)).flatten = bytes := by
  induction h with
  | nothing => rfl
  | whole moved later ih => rw [List.map_cons, List.flatten_cons, ih, moved]
  | @short call next bytes calls moved reissued later ih =>
    rw [List.map_cons, List.flatten_cons, ih, reissued, ← List.append_assoc,
      call.accepted_append_drop]

theorem length_flatten_accepted_le (calls : List TracedWrite) :
    (calls.map (·.accepted)).flatten.length ≤ (calls.map (·.payload)).flatten.length := by
  induction calls with
  | nil => exact Nat.le_refl _
  | cons call calls ih =>
    simp only [List.map_cons, List.flatten_cons, List.length_append]
    exact Nat.add_le_add call.length_accepted_le ih

/-- Whole payloads are as many bytes as the accepted ones only if they are the accepted ones. -/
theorem map_payload_eq_of_length {calls : List TracedWrite}
    (h : (calls.map (·.payload)).flatten.length = (calls.map (·.accepted)).flatten.length) :
    ∀ call ∈ calls, call.accepted = call.payload := by
  induction calls with
  | nil => simp
  | cons call calls ih =>
    have hrest := length_flatten_accepted_le calls
    have hcall := call.length_accepted_le
    simp only [List.map_cons, List.flatten_cons, List.length_append] at h
    have hdrop := call.accepted_append_drop
    rw [List.drop_of_length_le (by omega), List.append_nil] at hdrop
    exact List.forall_mem_cons.mpr ⟨hdrop, ih (by omega)⟩

theorem succeeded_of_mem_relayedCalls {settings : Settings} {lines : List String}
    {call : TracedWrite} (h : call ∈ relayedCalls settings lines) : call.succeeded = true := by
  obtain ⟨line, -, hline⟩ := List.mem_filterMap.mp h
  have hread := ofLine_of_relayed hline
  unfold relayed? at hline
  simp only [hread, Option.ite_none_right_eq_some] at hline
  exact hline.1.1

/-- **Payloads are relayed whole**, whatever the calls report to have moved. That is what the calls
moved just when none of them was a short one; and of calls that carry a stream, the output is that
stream under the same condition. -/
theorem payloads_relayed_whole (settings : Settings) (lines : List String) (pid : UInt32)
    (sink : Sink)
    (hdone : (Relay.handleLines settings lines (freshRelay pid sink)).value.failure = none) :
    let out := Journal.output (Relay.handleLines settings lines (freshRelay pid sink)).journal
    let calls := relayedCalls settings lines
    out = ⟨calls.map (·.payload), []⟩ ∧
    (out.flushed = calls.map (·.accepted) ↔ ∀ call ∈ calls, call.isShort = false) ∧
    ∀ bytes, Carries bytes calls → (calls.map (·.accepted)).flatten = bytes ∧
      (out.flushed.flatten = bytes ↔ ∀ call ∈ calls, call.isShort = false) := by
  obtain ⟨-, -, houtput⟩ :=
    (Relay.handles_lines settings lines (freshRelay pid sink)).relayed hdone
  have hout : Journal.output (Relay.handleLines settings lines (freshRelay pid sink)).journal =
      ⟨(relayedCalls settings lines).map (·.payload), []⟩ := houtput []
  have hshort : (∀ call ∈ relayedCalls settings lines, call.isShort = false) ↔
      ∀ call ∈ relayedCalls settings lines, call.accepted = call.payload :=
    forall₂_congr fun call hcall =>
      (TracedWrite.accepted_eq_payload_iff (succeeded_of_mem_relayedCalls hcall)).symm
  dsimp only
  rw [hout, hshort]
  refine ⟨rfl, ?_, ?_⟩
  · rw [List.map_inj_left]
    exact forall₂_congr fun _ _ => eq_comm
  · intro bytes hcarries
    have haccepted := hcarries.flatten_accepted
    refine ⟨haccepted, ?_, ?_⟩
    · intro heq
      exact map_payload_eq_of_length (by rw [heq, haccepted])
    · intro hall
      rw [← haccepted]
      exact congrArg List.flatten (List.map_congr_left fun call hcall => (hall call hcall).symm)

/-- Two calls for five bytes, of which the first moves only two. -/
def shortWrite : List String :=
  ["write(1, \"hello\", 5) = 2", "write(1, \"llo\", 3) = 3"]

/-- The first of these calls. -/
def shortCall : TracedWrite :=
  ⟨1, [104, 101, 108, 108, 111], 5, false, .written 2⟩

/-- The call that is issued for the rest. -/
def reissuedCall : TracedWrite :=
  ⟨1, [108, 108, 111], 3, false, .written 3⟩

theorem payloads_relayed_whole_shortWrite :
    (Relay.handleLines {} shortWrite
        (freshRelay 7 ⟨({ maxWrite := some 1 } : Faults).behaviour, 0, 0⟩)).value.failure = none ∧
      Journal.output (Relay.handleLines {} shortWrite
        (freshRelay 7 ⟨({ maxWrite := some 1 } : Faults).behaviour, 0, 0⟩)).journal =
          ⟨[[104, 101, 108, 108, 111], [108, 108, 111]], []⟩ := by
  have hdone : (Relay.handleLines {} shortWrite
      (freshRelay 7 ⟨({ maxWrite := some 1 } : Faults).behaviour, 0, 0⟩)).value.failure = none := by
    decide +kernel
  have hcalls : relayedCalls {} shortWrite = [shortCall, reissuedCall] := by decide +kernel
  refine ⟨hdone, ?_⟩
  have hout := (payloads_relayed_whole {} shortWrite 7 _ hdone).1
  rw [hcalls] at hout
  exact hout

/-- **The rest of a short call is relayed twice**: the calls carry five bytes, and eight reach the
output. -/
theorem rest_of_short_call_relayed_twice :
    Carries [104, 101, 108, 108, 111] (relayedCalls {} shortWrite) ∧
    (Journal.output (Relay.handleLines {} shortWrite
      (freshRelay 7 ⟨({} : Faults).behaviour, 0, 0⟩)).journal).flushed.flatten =
        [104, 101, 108, 108, 111, 108, 108, 111] ∧
    (relayedCalls {} shortWrite).map (·.accepted) ≠ (Journal.output (Relay.handleLines {} shortWrite
      (freshRelay 7 ⟨({} : Faults).behaviour, 0, 0⟩)).journal).flushed := by
  have hcalls : relayedCalls {} shortWrite = [shortCall, reissuedCall] := by decide +kernel
  have hrest : Carries (reissuedCall.payload ++ []) [reissuedCall] := .whole rfl .nothing
  have hcarries : Carries (shortCall.payload ++ []) [shortCall, reissuedCall] :=
    .short rfl rfl hrest
  rw [hcalls]
  exact ⟨hcarries, by decide +kernel, by decide +kernel⟩

end TraceRelay
