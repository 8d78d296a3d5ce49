import Mathlib.Tactic.IntervalCases
import TraceRelay.Text.Utf8

/-!
# Decoding what was encoded

The bytes of a text are well-formed and decode to the text. A character of several bytes opens a
sequence, and each byte but the last leaves it open; the range that the second byte has to lie in is
that of the characters which are neither overlong nor surrogates.
-/

namespace TraceRelay.Text

section Sequences

variable {s : OpenSequence} {low : Nat}

theorem toNat_continuation (hlow : low < 64) : (UInt8.ofNat (low + 0x80)).toNat = low + 0x80 := by
  rw [UInt8.toNat_ofNat']
  omega

/-- A byte in the range of an open sequence adds six bits. -/
theorem decodeByte_continuation (hlow : low < 64) (hbegin : s.low.toNat ≤ low + 0x80)
    (hend : low + 0x80 ≤ s.high.toNat) :
    decodeByte (some s) (UInt8.ofNat (low + 0x80)) =
      if s.owed ≤ 1 then ([some (Char.ofNat (s.bits * 64 + low))], none)
      else ([], some ⟨s.bits * 64 + low, s.owed - 1, 0x80, 0xBF⟩) := by
  have hbyte := toNat_continuation hlow
  have hrange : s.low ≤ UInt8.ofNat (low + 0x80) ∧ UInt8.ofNat (low + 0x80) ≤ s.high := by
    rw [UInt8.le_iff_toNat_le, UInt8.le_iff_toNat_le, hbyte]
    exact ⟨hbegin, hend⟩
  rw [decodeByte, if_pos hrange, hbyte, Nat.add_sub_cancel]

theorem decodePieces_more (hlow : low < 64) (howed : 1 < s.owed)
    (hbegin : s.low.toNat ≤ low + 0x80) (hend : low + 0x80 ≤ s.high.toNat) (bytes : List UInt8) :
    decodePieces (some s) (UInt8.ofNat (low + 0x80) :: bytes) =
      decodePieces (some ⟨s.bits * 64 + low, s.owed - 1, 0x80, 0xBF⟩) bytes := by
  rw [decodePieces, decodeByte_continuation hlow hbegin hend, if_neg (by omega)]
  rfl

theorem decodePieces_last (hlow : low < 64) (howed : s.owed = 1)
    (hbegin : s.low.toNat ≤ low + 0x80) (hend : low + 0x80 ≤ s.high.toNat) (bytes : List UInt8) :
    decodePieces (some s) (UInt8.ofNat (low + 0x80) :: bytes) =
      some (Char.ofNat (s.bits * 64 + low)) :: decodePieces none bytes := by
  rw [decodePieces, decodeByte_continuation hlow hbegin hend, if_pos (by omega)]
  rfl

end Sequences

section Leads

variable {high : Nat}

/-- The bytes that open a sequence of two. -/
theorem beginSequence_two (hlow : 2 ≤ high) (hhigh : high < 32) :
    beginSequence (UInt8.ofNat (high + 0xC0)) = ([], some ⟨high, 1, 0x80, 0xBF⟩) := by
  interval_cases high <;> rfl

/-- The bytes that open a sequence of three. -/
theorem beginSequence_three (hhigh : high < 16) :
    beginSequence (UInt8.ofNat (high + 0xE0)) =
      ([], some ⟨high, 2, if high = 0 then 0xA0 else 0x80, if high = 13 then 0x9F else 0xBF⟩) := by
  interval_cases high <;> rfl

/-- The bytes that open a sequence of four. -/
theorem beginSequence_four (hhigh : high < 5) :
    beginSequence (UInt8.ofNat (high + 0xF0)) =
      ([], some ⟨high, 3, if high = 0 then 0x90 else 0x80, if high = 4 then 0x8F else 0xBF⟩) := by
  interval_cases high <;> rfl

theorem decodePieces_of_begin {b : UInt8} {s : OpenSequence} (h : beginSequence b = ([], some s))
    (bytes : List UInt8) : decodePieces none (b :: bytes) = decodePieces (some s) bytes := by
  rw [decodePieces, decodeByte, h]
  rfl

end Leads

/-! ## Characters -/

/-- The bytes of a code point. -/
def pointBytes (v : Nat) : List UInt8 :=
  if v ≤ 0x7F then [UInt8.ofNat v]
  else if v ≤ 0x7FF then [UInt8.ofNat (v / 64 % 32 + 0xC0), UInt8.ofNat (v % 64 + 0x80)]
  else if v ≤ 0xFFFF then
    [UInt8.ofNat (v / 4096 % 16 + 0xE0), UInt8.ofNat (v / 64 % 64 + 0x80),
      UInt8.ofNat (v % 64 + 0x80)]
  else
    [UInt8.ofNat (v / 262144 % 8 + 0xF0), UInt8.ofNat (v / 4096 % 64 + 0x80),
      UInt8.ofNat (v / 64 % 64 + 0x80), UInt8.ofNat (v % 64 + 0x80)]

theorem utf8EncodeChar_eq (c : Char) : String.utf8EncodeChar c = pointBytes c.toNat := rfl

section Points

variable {v : Nat} (bytes : List UInt8)

theorem decodePieces_one (h : v ≤ 0x7F) :
    decodePieces none (UInt8.ofNat v :: bytes) =
      some (Char.ofNat v) :: decodePieces none bytes := by
  have hbyte : (UInt8.ofNat v).toNat = v := by
    rw [UInt8.toNat_ofNat']
    omega
  have hlt : UInt8.ofNat v < 0x80 := by
    rw [UInt8.lt_iff_toNat_lt, hbyte]
    exact Nat.lt_succ_of_le h
  rw [decodePieces, decodeByte, beginSequence, if_pos hlt, hbyte]
  rfl

theorem decodePieces_two (hlow : 0x7F < v) (hhigh : v ≤ 0x7FF) :
    decodePieces none
        (UInt8.ofNat (v / 64 % 32 + 0xC0) :: UInt8.ofNat (v % 64 + 0x80) :: bytes) =
      some (Char.ofNat v) :: decodePieces none bytes := by
  have hbits : v / 64 % 32 * 64 + v % 64 = v := by omega
  rw [decodePieces_of_begin (beginSequence_two (by omega) (by omega)),
    decodePieces_last (by omega) rfl (Nat.le_add_left ..) (by simp; omega), hbits]

theorem decodePieces_three (hlow : 0x7FF < v) (hhigh : v ≤ 0xFFFF)
    (hvalid : v < 0xD800 ∨ 0xDFFF < v) :
    decodePieces none (UInt8.ofNat (v / 4096 % 16 + 0xE0) ::
        UInt8.ofNat (v / 64 % 64 + 0x80) :: UInt8.ofNat (v % 64 + 0x80) :: bytes) =
      some (Char.ofNat v) :: decodePieces none bytes := by
  have hbits : (v / 4096 % 16 * 64 + v / 64 % 64) * 64 + v % 64 = v := by omega
  rw [decodePieces_of_begin (beginSequence_three (by omega)),
    decodePieces_more (by omega) (by simp) ?_ ?_, decodePieces_last (by omega) rfl
      (Nat.le_add_left ..) (by simp; omega), hbits]
  -- The first byte says whether the range of the second one begins late or ends early.
  · dsimp only
    split
    · change 160 ≤ _
      omega
    · exact Nat.le_add_left ..
  · dsimp only
    split
    · change _ ≤ 159
      omega
    · change _ ≤ 191
      omega

theorem decodePieces_four (hlow : 0xFFFF < v) (hhigh : v < 0x110000) :
    decodePieces none (UInt8.ofNat (v / 262144 % 8 + 0xF0) ::
        UInt8.ofNat (v / 4096 % 64 + 0x80) :: UInt8.ofNat (v / 64 % 64 + 0x80) ::
          UInt8.ofNat (v % 64 + 0x80) :: bytes) =
      some (Char.ofNat v) :: decodePieces none bytes := by
  have hbits : ((v / 262144 % 8 * 64 + v / 4096 % 64) * 64 + v / 64 % 64) * 64 + v % 64 = v := by
    omega
  rw [decodePieces_of_begin (beginSequence_four (by omega)),
    decodePieces_more (by omega) (by simp) ?_ ?_,
    decodePieces_more (by omega) (by simp) (Nat.le_add_left ..) (by simp; omega),
    decodePieces_last (by omega) rfl (Nat.le_add_left ..) (by simp; omega), hbits]
  · dsimp only
    split
    · change 144 ≤ _
      omega
    · exact Nat.le_add_left ..
  · dsimp only
    split
    · change _ ≤ 143
      omega
    · change _ ≤ 191
      omega

end Points

/-- The bytes of a character complete it. -/
theorem decodePieces_encodeChar (c : Char) (bytes : List UInt8) :
    decodePieces none (String.utf8EncodeChar c ++ bytes) = some c :: decodePieces none bytes := by
  have hvalid : c.toNat < 0xD800 ∨ 0xDFFF < c.toNat ∧ c.toNat < 0x110000 := c.valid
  have hchar := Char.ofNat_toNat c
  rw [utf8EncodeChar_eq]
  generalize c.toNat = v at hvalid hchar
  subst hchar
  unfold pointBytes
  split
  · next hone => exact decodePieces_one bytes hone
  · split
    · next htwo => exact decodePieces_two bytes (by omega) htwo
    · split
      · next hthree => exact decodePieces_three bytes (by omega) hthree (by omega)
      · exact decodePieces_four bytes (by omega) (by omega)

theorem mapM_map_some {α : Type} (xs : List α) : (xs.map some).mapM id = some xs := by
  induction xs with
  | nil => rfl
  | cons x xs ih => simp [ih]

/-- **What was encoded decodes to itself.** -/
theorem decodeStrict?_encode (cs : List Char) : decodeStrict? (encode cs) = some cs := by
  have hpieces : decodePieces none (encode cs) = cs.map some := by
    induction cs with
    | nil => rfl
    | cons c cs ih =>
      rw [encode, List.flatMap_cons, decodePieces_encodeChar, List.map_cons, ← ih]
      rfl
  rw [decodeStrict?, hpieces, mapM_map_some]

end TraceRelay.Text
