import TraceRelay.Proofs.Text.Utf8
import TraceRelay.Text.Scan

/-!
# Positions in a text

A position counts the bytes in front of it. It is a boundary if it lies between two characters; a
text can be cut there and nowhere else. Only an ASCII character has a byte below 0x80, and it has no
other: a byte that spells an ASCII character is that character wherever it stands.
-/

namespace TraceRelay.Text

/-- A position that lies inside no character. -/
def IsBoundary (cs : List Char) (position : Nat) : Prop :=
  ∃ front rest, cs = front ++ rest ∧ byteLength front = position

variable {cs front rest : List Char}

theorem isBoundary_append (front rest : List Char) :
    IsBoundary (front ++ rest) (byteLength front) :=
  ⟨front, rest, rfl, rfl⟩

theorem byteLength_pos (h : cs ≠ []) : 0 < byteLength cs := by
  obtain ⟨c, cs, rfl⟩ := List.exists_cons_of_ne_nil h
  rw [byteLength_cons]
  exact Nat.add_pos_left c.utf8Size_pos _

/-! ## Cutting at boundaries -/

theorem dropBytes?_cons (c : Char) (cs : List Char) (n : Nat) :
    dropBytes? (c.utf8Size + n) (c :: cs) = dropBytes? n cs := by
  obtain ⟨size, hsize⟩ := Nat.exists_eq_succ_of_ne_zero (Nat.ne_of_gt c.utf8Size_pos)
  rw [hsize, Nat.succ_add, dropBytes?, if_pos (by omega)]
  congr 1
  omega

theorem takeBytes?_cons (c : Char) (cs : List Char) (n : Nat) :
    takeBytes? (c.utf8Size + n) (c :: cs) = (takeBytes? n cs).map (c :: ·) := by
  obtain ⟨size, hsize⟩ := Nat.exists_eq_succ_of_ne_zero (Nat.ne_of_gt c.utf8Size_pos)
  rw [hsize, Nat.succ_add, takeBytes?, if_pos (by omega)]
  congr 2
  omega

theorem dropBytes?_append (front rest : List Char) :
    dropBytes? (byteLength front) (front ++ rest) = some rest := by
  induction front with
  | nil => cases rest <;> rfl
  | cons c front ih => rw [byteLength_cons, List.cons_append, dropBytes?_cons, ih]

theorem takeBytes?_append (front rest : List Char) :
    takeBytes? (byteLength front) (front ++ rest) = some front := by
  induction front with
  | nil => cases rest <;> rfl
  | cons c front ih =>
    rw [byteLength_cons, List.cons_append, takeBytes?_cons, ih]
    rfl

theorem slice?_append (front part rest : List Char) :
    slice? (byteLength front) (byteLength front + byteLength part) (front ++ (part ++ rest)) =
      some part := by
  rw [slice?, dropBytes?_append, Nat.add_sub_cancel_left]
  exact takeBytes?_append part rest

/-- A text can be cut at the boundaries and nowhere else. -/
theorem isBoundary_iff {n : Nat} : IsBoundary cs n ↔ (dropBytes? n cs).isSome = true := by
  constructor
  · rintro ⟨front, rest, rfl, rfl⟩
    rw [dropBytes?_append]
    rfl
  · intro h
    induction cs generalizing n with
    | nil =>
      cases n with
      | zero => exact ⟨[], [], rfl, rfl⟩
      | succ n => cases h
    | cons c cs ih =>
      cases n with
      | zero => exact ⟨[], c :: cs, rfl, rfl⟩
      | succ n =>
        rw [dropBytes?] at h
        split at h
        · next hle =>
          obtain ⟨front, rest, rfl, hfront⟩ := ih h
          exact ⟨c :: front, rest, rfl, by rw [byteLength_cons, hfront]; omega⟩
        · cases h

instance (cs : List Char) (n : Nat) : Decidable (IsBoundary cs n) :=
  decidable_of_iff' _ isBoundary_iff

/-! ## Bytes -/

theorem length_encode (cs : List Char) : (encode cs).length = byteLength cs := by
  induction cs with
  | nil => rfl
  | cons c cs ih =>
    rw [encode, List.flatMap_cons, List.length_append, String.length_utf8EncodeChar,
      byteLength_cons, ← ih]
    rfl

theorem encode_append (front rest : List Char) :
    encode (front ++ rest) = encode front ++ encode rest :=
  List.flatMap_append ..

/-- The bytes from a boundary on are those of the text behind it. -/
theorem getElem?_encode_append (front rest : List Char) (n : Nat) :
    (encode (front ++ rest))[byteLength front + n]? = (encode rest)[n]? := by
  rw [encode_append, ← length_encode front, List.getElem?_append_right (Nat.le_add_right ..),
    Nat.add_sub_cancel_left]

theorem encode_cons {c : Char} {b : UInt8} {bytes : List UInt8}
    (h : String.utf8EncodeChar c = b :: bytes) (cs : List Char) :
    encode (c :: cs) = b :: (bytes ++ encode cs) := by
  rw [encode, List.flatMap_cons, h]
  rfl

theorem getElem?_encode_cons {c : Char} {b : UInt8} {bytes : List UInt8}
    (h : String.utf8EncodeChar c = b :: bytes) (front cs : List Char) :
    (encode (front ++ c :: cs))[byteLength front]? = some b := by
  have hbyte := getElem?_encode_append front (c :: cs) 0
  rwa [Nat.add_zero, encode_cons h] at hbyte

theorem utf8EncodeChar_of_lt {c : Char} (h : c.toNat < 0x80) :
    String.utf8EncodeChar c = [UInt8.ofNat c.toNat] := by
  rw [utf8EncodeChar_eq, pointBytes, if_pos (Nat.le_of_lt_succ h)]

/-- The bytes of a character that is not ASCII are those of no ASCII one. -/
theorem le_of_mem_utf8EncodeChar {c : Char} (h : 0x80 ≤ c.toNat) {b : UInt8}
    (hb : b ∈ String.utf8EncodeChar c) : 0x80 ≤ b.toNat := by
  rw [utf8EncodeChar_eq, pointBytes, if_neg (by omega)] at hb
  generalize c.toNat = v at hb
  -- A leading byte says how many follow, all of which have the highest bit set.
  split at hb
  · simp only [List.mem_cons, List.not_mem_nil, or_false] at hb
    rcases hb with rfl | rfl <;> rw [UInt8.toNat_ofNat'] <;> omega
  · split at hb
    · simp only [List.mem_cons, List.not_mem_nil, or_false] at hb
      rcases hb with rfl | rfl | rfl <;> rw [UInt8.toNat_ofNat'] <;> omega
    · simp only [List.mem_cons, List.not_mem_nil, or_false] at hb
      rcases hb with rfl | rfl | rfl | rfl <;> rw [UInt8.toNat_ofNat'] <;> omega

/-- The first byte of a character is that of an ASCII one just if it is one. -/
theorem exists_utf8EncodeChar_eq (c : Char) : ∃ b bytes, String.utf8EncodeChar c = b :: bytes ∧
    (c.toNat < 0x80 ∧ b = UInt8.ofNat c.toNat ∧ bytes = [] ∨
      0x80 ≤ c.toNat ∧ ∀ x ∈ b :: bytes, 0x80 ≤ x.toNat) := by
  rcases Nat.lt_or_ge c.toNat 0x80 with hlt | hge
  · exact ⟨_, [], utf8EncodeChar_of_lt hlt, .inl ⟨hlt, rfl, rfl⟩⟩
  · cases hbytes : String.utf8EncodeChar c with
    | nil =>
      have hsize := c.utf8Size_pos
      rw [← String.length_utf8EncodeChar, hbytes] at hsize
      exact absurd hsize (by simp)
    | cons b bytes =>
      exact ⟨b, bytes, rfl, .inr ⟨hge, fun x hx => le_of_mem_utf8EncodeChar hge (hbytes ▸ hx)⟩⟩

theorem utf8Size_of_lt {c : Char} (h : c.toNat < 0x80) : c.utf8Size = 1 := by
  rw [← String.length_utf8EncodeChar, utf8EncodeChar_of_lt h]
  rfl

/-! ## Bytes as characters -/

/-- The character whose code point is the byte, which is the one that the byte spells if it is
ASCII.
-/
def byteChar (b : UInt8) : Char :=
  Char.ofNat b.toNat

theorem toNat_byteChar (b : UInt8) : (byteChar b).toNat = b.toNat := by
  have hlt := b.toNat_lt
  have hvalid : b.toNat.isValidChar := .inl (by omega)
  rw [byteChar, Char.ofNat, dif_pos hvalid]
  rfl

theorem byteChar_of_lt {c : Char} (h : c.toNat < 0x80) : byteChar (UInt8.ofNat c.toNat) = c := by
  have hbyte : (UInt8.ofNat c.toNat).toNat = c.toNat := by
    rw [UInt8.toNat_ofNat']
    omega
  rw [byteChar, hbyte, Char.ofNat_toNat]

theorem toNat_lt_of_ne {α : Type} {f : Char → α} {other : α}
    (hf : ∀ c : Char, 0x80 ≤ c.toNat → f c = other) {c : Char} (h : f c ≠ other) :
    c.toNat < 0x80 :=
  Nat.lt_of_not_le fun hle => h (hf c hle)

/-- What is the same for all characters that are not ASCII is for the first byte of a character what
it is for the character. -/
theorem apply_byteChar {α : Type} {f : Char → α} {other : α}
    (hf : ∀ c : Char, 0x80 ≤ c.toNat → f c = other) {c : Char} {b : UInt8} {bytes : List UInt8}
    (h : String.utf8EncodeChar c = b :: bytes) : f (byteChar b) = f c := by
  obtain ⟨_, _, heq, hascii | ⟨hc, hbytes⟩⟩ := exists_utf8EncodeChar_eq c
  · obtain ⟨hc, rfl, -⟩ := hascii
    cases h.symm.trans heq
    rw [byteChar_of_lt hc]
  · cases h.symm.trans heq
    have hb : 0x80 ≤ (byteChar b).toNat := by
      rw [toNat_byteChar]
      exact hbytes b (by simp)
    rw [hf _ hb, hf c hc]

/-- The text of the first byte of a character. -/
theorem decodeLossy_first {c : Char} {b : UInt8} {bytes : List UInt8}
    (h : String.utf8EncodeChar c = b :: bytes) :
    decodeLossy [b] = [if c.toNat < 0x80 then c else replacement] := by
  obtain ⟨_, _, heq, hascii | ⟨hc, hbytes⟩⟩ := exists_utf8EncodeChar_eq c
  · obtain ⟨hc, rfl, -⟩ := hascii
    cases h.symm.trans heq
    have hb : UInt8.ofNat c.toNat < 0x80 := by
      rw [UInt8.lt_iff_toNat_lt, UInt8.toNat_ofNat']
      exact Nat.lt_of_le_of_lt (Nat.mod_le ..) hc
    rw [if_pos hc, decodeLossy, decodePieces, decodeByte, beginSequence, if_pos hb]
    exact congrArg (fun c => [c]) (byteChar_of_lt hc)
  · cases h.symm.trans heq
    have hb : ¬ b < 0x80 := by
      rw [UInt8.lt_iff_toNat_lt]
      exact Nat.not_lt.mpr (hbytes b (by simp))
    have hpieces : decodePieces none [b] = [none] := by
      rw [decodePieces, decodeByte, beginSequence, if_neg hb]
      split_ifs <;> rfl
    rw [if_neg (Nat.not_lt.mpr hc), decodeLossy, hpieces]
    rfl

end TraceRelay.Text
