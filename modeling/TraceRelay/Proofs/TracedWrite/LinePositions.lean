import TraceRelay.Proofs.TracedWrite.PayloadPositions
import TraceRelay.Proofs.TracedWrite.Read

/-!
# Lines by positions

A line can be read by positions as well: its payload is the part of the line from behind the opening
quote on, and the words after the payload are the part from where its bytes end. No line makes such
a reader halt with a fault, and otherwise it is the same as reading from the front.
-/

namespace TraceRelay.TracedWrite

open Text

/-- The result of a call, with the number of bytes taken over into 64 bits without sign. -/
def resultAt (word : List Char) (errno : Option (List Char)) : Except (Halt Error) WriteResult := do
  if word = ['?'] then reported (readResult word errno)
  else
    let value ← reported (number int64? word)
    if value < 0 then return .failed (String.ofList (errno.getD []))
    else return .written (← countOf value)

/-- A call whose payload begins at a position of its line. -/
def quotedAt (fd line : List Char) (position : Nat) : Except (Halt Error) TracedWrite := do
  let fd ← reported (number uint32? fd)
  let body ← partOf line position (byteLength line)
  let (payload, consumed) ← (decodeAt position body 0 []).mapError (Halt.map Error.ofPayload)
  let rest ← partOf line (position + consumed) (byteLength line)
  if contains "<unfinished ...>".toList rest then throw (.reported .unfinished)
  let (truncated, rest) :=
    match after? "...".toList rest with
    | some rest => (true, rest)
    | none => (false, rest)
  match tail? rest with
  | none => throw (.reported .missingTail)
  | some tail =>
    let length ← reported (number uint64? tail.length)
    let result ← resultAt tail.result tail.errno
    return ⟨fd, payload, length, truncated, result⟩

/-- A call whose buffer is shown as an address. -/
def addressedAt (fd rest : List Char) : Except (Halt Error) TracedWrite := do
  match (address? rest).bind tail? with
  | none => throw (.reported .missingHead)
  | some tail =>
    match ← resultAt tail.result tail.errno with
    | .failed errno =>
      let fd ← reported (number uint32? fd)
      let length ← reported (number uint64? tail.length)
      return ⟨fd, [], length, false, .failed errno⟩
    | _ => throw (.reported .missingHead)

/-- The call that a line without white space around it is about. -/
def callAt (line : List Char) : Except (Halt Error) TracedWrite :=
  match opening? line with
  | none => .error (.reported .missingHead)
  | some (fd, rest) =>
    match after? ['"'] rest with
    | some body => quotedAt fd line (byteLength line - byteLength body)
    | none => addressedAt fd rest

/-- The call that a line is about, if it is about one. -/
def lineAt (line : String) : Except (Halt Error) (Option TracedWrite) :=
  let line := trim line.toList
  if contains marker line then (callAt line).map some else .ok none

/-! ## Reading by positions and from the front -/

theorem resultAt_eq (word : List Char) (errno : Option (List Char)) :
    resultAt word errno = reported (readResult word errno) := by
  by_cases hword : word = ['?']
  · rw [resultAt, if_pos hword]
  · unfold resultAt readResult number
    rw [if_neg hword, if_neg hword]
    cases hvalue : int64? word with
    | none => rfl
    | some value =>
      by_cases hneg : value < 0
      · show (if value < 0 then _ else _) = reported (if value < 0 then _ else _)
        rw [if_pos hneg, if_pos hneg]
        rfl
      · show (if value < 0 then _ else countOf value >>= _) = reported (if value < 0 then _ else _)
        rw [if_neg hneg, if_neg hneg, countOf_of_int64? hvalue (Int.not_lt.mp hneg)]
        rfl

/-- The words behind a payload are not read by positions, but for the number of bytes written. -/
theorem reported_closing (fd : UInt32) (payload : List UInt8) (truncated : Bool)
    (rest : List Char) :
    (match tail? rest with
      | none => throw (Halt.reported Error.missingTail)
      | some tail => do
        let length ← reported (number uint64? tail.length)
        let result ← resultAt tail.result tail.errno
        return (⟨fd, payload, length, truncated, result⟩ : TracedWrite)) =
      reported (match tail? rest with
        | none => throw Error.missingTail
        | some tail => do
          let length ← number uint64? tail.length
          let result ← readResult tail.result tail.errno
          return ⟨fd, payload, length, truncated, result⟩) := by
  cases tail? rest with
  | none => rfl
  | some tail =>
    dsimp only
    rw [reported_bind]
    congr 1
    funext length
    rw [reported_bind, resultAt_eq]
    rfl

/-- The text behind a payload is what begins where its bytes end. -/
theorem partOf_rest {ε : Type} (before text rest : List Char) :
    (partOf (before ++ (text ++ '"' :: rest))
      (byteLength before + (byteLength (text ++ '"' :: rest) - byteLength rest))
      (byteLength (before ++ (text ++ '"' :: rest))) : Except (Halt ε) (List Char)) = .ok rest := by
  have hend := @partOf_end ε (before ++ (text ++ ['"'])) rest
  rwa [byteLength_append, byteLength_closed, ← byteLength_sub_rest text rest, List.append_assoc,
    List.append_assoc, List.singleton_append] at hend

theorem quotedAt_eq (fd before body : List Char) :
    quotedAt fd (before ++ body) (byteLength before) =
      reported (readQuoted fd (byteLength before) body) := by
  unfold quotedAt readQuoted
  rw [reported_bind]
  congr 1
  funext fd
  rw [partOf_end, ok_bind, decodeAt_start]
  cases hread : readPayload (byteLength before) body with
  | error e => rfl
  | ok read =>
    obtain ⟨payload, rest⟩ := read
    obtain ⟨text, -, rfl⟩ := readPayload_eq_ok_iff.mp hread
    show (partOf (before ++ (text ++ '"' :: rest))
      (byteLength before + (byteLength (text ++ '"' :: rest) - byteLength rest)) _ >>= _) =
        reported (Except.ok (payload, rest) >>= _)
    rw [partOf_rest, ok_bind, ok_bind]
    dsimp only
    cases contains "<unfinished ...>".toList rest with
    | true => rfl
    | false =>
      cases after? "...".toList rest with
      | none => exact reported_closing fd payload false rest
      | some rest => exact reported_closing fd payload true rest

theorem addressedAt_eq (fd rest : List Char) :
    addressedAt fd rest = reported (readAddressed fd rest) := by
  unfold addressedAt readAddressed
  cases (address? rest).bind tail? with
  | none => rfl
  | some tail =>
    dsimp only
    rw [resultAt_eq, reported_bind]
    congr 1
    funext result
    cases result with
    | failed errno =>
      dsimp only
      rw [reported_bind]
      congr 1
      funext fd
      rw [reported_bind]
      rfl
    | written count => rfl
    | unknown => rfl

theorem callAt_eq (line : List Char) : callAt line = reported (readCall line) := by
  unfold callAt readCall
  cases hopening : opening? line with
  | none => rfl
  | some opening =>
    obtain ⟨fd, rest⟩ := opening
    dsimp only
    cases hbody : after? ['"'] rest with
    | some body =>
      obtain rfl := after?_eq_some_iff.mp hbody
      -- What stands in front of the payload ends with the quote.
      obtain ⟨thread, -, -, hline⟩ := opening?_eq_some_iff.mp hopening
      obtain ⟨before, rfl⟩ : ∃ before, line = before ++ body :=
        ⟨thread ++ marker ++ fd ++ ", ".toList ++ ['"'], by
          rw [hline]
          simp only [List.append_assoc]⟩
      show quotedAt fd (before ++ body) (byteLength (before ++ body) - byteLength body) =
        reported (readQuoted fd (byteLength (before ++ body) - byteLength body) body)
      rw [byteLength_append, Nat.add_sub_cancel]
      exact quotedAt_eq fd before body
    | none =>
      dsimp only
      split
      · next body =>
        have hquote := after?_append ['"'] body
        rw [List.singleton_append, hbody] at hquote
        cases hquote
      · exact addressedAt_eq fd rest

/-- **A line is read by positions as it is from the front.** -/
theorem lineAt_eq (line : String) : lineAt line = reported (ofLine line) := by
  unfold lineAt ofLine
  dsimp only
  rw [callAt_eq]
  split
  · cases readCall (trim line.toList) <;> rfl
  · rfl

/-- **No line makes a reader by positions go out of range**: every byte, part and number that it
takes is there, so that it halts with no fault, neither on a line nor on any text taken for a
payload, and comes to what reading from the front comes to. A payload that is closed ends behind a
quote. -/
theorem positions_stay_in_range :
    (∀ line : String, (∀ access, lineAt line ≠ .error (.fault access)) ∧
      lineAt line = reported (ofLine line)) ∧
    ∀ (base : Nat) (text : List Char),
      (∀ access, decodeAt base text 0 [] ≠ .error (.fault access)) ∧
      (decodeAt base text 0 [] = reported ((readPayload base text).map fun (bytes, rest) =>
        (bytes, byteLength text - byteLength rest))) ∧
      ∀ bytes consumed, decodeAt base text 0 [] = .ok (bytes, consumed) →
        0 < consumed ∧ consumed ≤ byteLength text ∧ (encode text)[consumed - 1]? = some 0x22 ∧
          IsBoundary text consumed := by
  constructor
  · intro line
    have hline := lineAt_eq line
    refine ⟨fun access => ?_, hline⟩
    rw [hline]
    exact reported_ne_fault _ access
  · intro base text
    have hstart := decodeAt_start base text
    refine ⟨fun access => ?_, hstart, fun bytes consumed => decodeAt_closed⟩
    rw [hstart]
    exact reported_ne_fault _ access

end TraceRelay.TracedWrite
