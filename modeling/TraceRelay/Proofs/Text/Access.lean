import TraceRelay.Proofs.Except
import TraceRelay.Proofs.Text.Numeral
import TraceRelay.Proofs.Text.Positions

/-!
# Accesses by position

A reader that goes by positions takes bytes by their index, parts of a text from one position to
another, and numbers that have to fit a type without sign. Each of these is an `Access`, which may
be out of range. Then the reader halts with a fault, which is told apart from the errors that it
reports.
-/

namespace TraceRelay.Text

/-- Something that a reader by positions takes. -/
inductive Access
  /-- The byte at an index. -/
  | byte (bytes : List UInt8) (index : Nat)
  /-- The part of a text from one position to another. -/
  | part (text : List Char) (first last : Nat)
  /-- A number of an unsigned type that holds the numbers below the bound. -/
  | number (value : Int) (bound : Nat)
deriving DecidableEq

/-- Whether there is what the access takes. A part of a text begins and ends between characters. -/
def Access.Allowed : Access → Prop
  | .byte bytes index => index < bytes.length
  | .part text first last => first ≤ last ∧ last ≤ byteLength text ∧
      IsBoundary text first ∧ IsBoundary text last
  | .number value bound => 0 ≤ value ∧ value < bound

instance : DecidablePred Access.Allowed
  | .byte _ _ => inferInstanceAs (Decidable (_ < _))
  | .part _ _ _ => inferInstanceAs (Decidable (_ ∧ _))
  | .number _ _ => inferInstanceAs (Decidable (_ ∧ _))

/-- Why a reader by positions halts: an access that is not allowed, or an error that it reports. -/
inductive Halt (ε : Type)
  | fault (access : Access)
  | reported (error : ε)

/-- A fault, or an error with something done to it. -/
def Halt.map {ε ε' : Type} (f : ε → ε') : Halt ε → Halt ε'
  | .fault access => .fault access
  | .reported error => .reported (f error)

section Accesses

variable {ε α : Type}

/-- What an access takes, if it is allowed. -/
def Access.take (access : Access) (value : α) : Except (Halt ε) α :=
  if access.Allowed then .ok value else .error (.fault access)

/-- The byte at an index. -/
def byteAt (bytes : List UInt8) (index : Nat) : Except (Halt ε) UInt8 :=
  (Access.byte bytes index).take (bytes.getD index 0)

/-- The part of a text from one position to another. -/
def partOf (text : List Char) (first last : Nat) : Except (Halt ε) (List Char) :=
  (Access.part text first last).take ((slice? first last text).getD [])

/-- A number as a byte. -/
def byteOf (n : Nat) : Except (Halt ε) UInt8 :=
  (Access.number n 256).take (UInt8.ofNat n)

/-- A number as one of 64 bits without sign. -/
def countOf (n : Int) : Except (Halt ε) UInt64 :=
  (Access.number n UInt64.size).take (UInt64.ofNat n.toNat)

/-- What is reported by a reader that makes no access. -/
def reported (x : Except ε α) : Except (Halt ε) α :=
  x.mapError .reported

end Accesses

/-! ## What is taken -/

section Taken

variable {ε : Type}

theorem Access.take_of_allowed {α : Type} {access : Access} (h : access.Allowed) (value : α) :
    (access.take value : Except (Halt ε) α) = .ok value :=
  if_pos h

theorem byteAt_of_getElem? {bytes : List UInt8} {index : Nat} {b : UInt8}
    (h : bytes[index]? = some b) : (byteAt bytes index : Except (Halt ε) UInt8) = .ok b := by
  have hallowed : (Access.byte bytes index).Allowed := (List.getElem?_eq_some_iff.mp h).1
  rw [byteAt, Access.take_of_allowed hallowed, List.getD_eq_getElem?_getD, h]
  rfl

theorem partOf_append (before part rest : List Char) :
    (partOf (before ++ (part ++ rest)) (byteLength before) (byteLength before + byteLength part) :
      Except (Halt ε) (List Char)) = .ok part := by
  have hfirst := isBoundary_append before (part ++ rest)
  have hlast := isBoundary_append (before ++ part) rest
  rw [List.append_assoc, byteLength_append] at hlast
  have hallowed : (Access.part (before ++ (part ++ rest)) (byteLength before)
      (byteLength before + byteLength part)).Allowed := by
    refine ⟨Nat.le_add_right .., ?_, hfirst, hlast⟩
    rw [byteLength_append, byteLength_append]
    omega
  rw [partOf, Access.take_of_allowed hallowed, slice?_append]
  rfl

theorem partOf_end (before rest : List Char) :
    (partOf (before ++ rest) (byteLength before) (byteLength (before ++ rest)) :
      Except (Halt ε) (List Char)) = .ok rest := by
  have h := @partOf_append ε before rest []
  rwa [List.append_nil, ← byteLength_append] at h

/-- No part begins inside a character. -/
example : (partOf ['é', '1'] 1 3 : Except (Halt Empty) (List Char)) =
    .error (.fault (.part ['é', '1'] 1 3)) := rfl

theorem byteOf_of_lt {n : Nat} (h : n < 256) :
    (byteOf n : Except (Halt ε) UInt8) = .ok (UInt8.ofNat n) := by
  have hallowed : (Access.number n 256).Allowed := ⟨Int.natCast_nonneg n, Int.ofNat_lt.mpr h⟩
  rw [byteOf, Access.take_of_allowed hallowed]

/-- A number that is not negative and fits 64 bits with a sign fits them without. -/
theorem countOf_of_int64? {word : List Char} {n : Int} (h : int64? word = some n) (hn : 0 ≤ n) :
    (countOf n : Except (Halt ε) UInt64) = .ok (UInt64.ofNat n.toNat) := by
  obtain ⟨-, -, hlt⟩ := int64?_eq_some_iff.mp h
  have hallowed : (Access.number n UInt64.size).Allowed := by
    refine ⟨hn, ?_⟩
    unfold UInt64.size
    omega
  rw [countOf, Access.take_of_allowed hallowed]

end Taken

/-! ## What is reported -/

section Reported

variable {ε α β : Type}

theorem reported_bind (x : Except ε α) (f : α → Except ε β) :
    reported (x >>= f) = reported x >>= fun a => reported (f a) :=
  mapError_bind x f Halt.reported

/-- A reader that makes no access halts with no fault. -/
theorem reported_ne_fault (x : Except ε α) (access : Access) :
    reported x ≠ .error (.fault access) := by
  cases x with
  | error e => exact fun h => nomatch h
  | ok a => exact fun h => nomatch h

end Reported

end TraceRelay.Text
