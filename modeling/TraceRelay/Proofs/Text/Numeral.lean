import Mathlib.Data.List.Induction
import Mathlib.Data.Nat.Digits.Defs
import Mathlib.Tactic.IntervalCases
import TraceRelay.Proofs.Text.Scan
import TraceRelay.Text.Numeral

/-!
# What numerals denote

A digit's value is its place in `0123456789abcdef`, a numeral's value the positional sum. The
readers of a fixed width accept exactly the numerals whose value fits, with the signs they allow.
-/

namespace TraceRelay.Text

/-! ## Characters by code point -/

/-- A fact on every character below a code point, from the finitely many there are. -/
theorem forall_char_lt {bound : Nat} {P : Char → Prop} (h : ∀ n < bound, P (Char.ofNat n)) :
    ∀ c : Char, c.toNat < bound → P c := by
  intro c hc
  have hp := h c.toNat hc
  rwa [Char.ofNat_toNat] at hp

theorem isDigit_iff {c : Char} : isDigit c = true ↔ 48 ≤ c.toNat ∧ c.toNat ≤ 57 := by
  simp only [isDigit, Bool.and_eq_true, decide_eq_true_eq, Char.le_def, UInt32.le_iff_toNat_le]
  rfl

theorem isOctalDigit_iff {c : Char} : isOctalDigit c = true ↔ 48 ≤ c.toNat ∧ c.toNat ≤ 55 := by
  simp only [isOctalDigit, Bool.and_eq_true, decide_eq_true_eq, Char.le_def,
    UInt32.le_iff_toNat_le]
  rfl

theorem isHexDigit_of_isDigit {c : Char} (h : isDigit c = true) : isHexDigit c = true := by
  have hlt : c.toNat < 58 := by have := (isDigit_iff.mp h).2; omega
  exact forall_char_lt (P := fun c => isDigit c = true → isHexDigit c = true)
    (by decide +kernel) c hlt h

theorem isHexDigit_of_isOctalDigit {c : Char} (h : isOctalDigit c = true) :
    isHexDigit c = true := by
  obtain ⟨hlow, hhigh⟩ := isOctalDigit_iff.mp h
  exact isHexDigit_of_isDigit (isDigit_iff.mpr ⟨hlow, by omega⟩)

theorem toNat_lt_of_isHexDigit {c : Char} (h : isHexDigit c = true) : c.toNat < 128 := by
  unfold isHexDigit hexValue? at h
  simp only [Char.le_def, UInt32.le_iff_toNat_le] at h
  have h9 : ('9' : Char).val.toNat = 57 := rfl
  have hf : ('f' : Char).val.toNat = 102 := rfl
  have hF : ('F' : Char).val.toNat = 70 := rfl
  show c.val.toNat < 128
  split at h
  · omega
  · split at h
    · omega
    · split at h
      · omega
      · simp at h

/-- An ASCII digit is a decimal digit of some script. -/
theorem isDecimalDigit_of_isDigit {c : Char} (h : isDigit c = true) : isDecimalDigit c = true := by
  obtain ⟨hlow, hhigh⟩ := isDigit_iff.mp h
  rw [isDecimalDigit, List.any_eq_true]
  exact ⟨0x30, by simp [digitZeros], by simp; omega⟩

/-- The code points of white space. -/
def spaces : List Nat :=
  [0x9, 0xA, 0xB, 0xC, 0xD, 0x20, 0x85, 0xA0, 0x1680, 0x2000, 0x2001, 0x2002, 0x2003, 0x2004,
    0x2005, 0x2006, 0x2007, 0x2008, 0x2009, 0x200A, 0x2028, 0x2029, 0x202F, 0x205F, 0x3000]

theorem mem_spaces_of_isSpace {c : Char} (h : isSpace c = true) : c.toNat ∈ spaces := by
  simp only [isSpace, Bool.or_eq_true, Bool.and_eq_true, decide_eq_true_eq, beq_iff_eq] at h
  simp only [spaces, List.mem_cons, List.not_mem_nil, or_false]
  omega

/-- No decimal digit of any script is white space. -/
theorem isSpace_of_isDecimalDigit {c : Char} (h : isDecimalDigit c = true) :
    isSpace c = false := by
  have key : ∀ n ∈ spaces, (digitZeros.any fun z => z ≤ n && n < z + 10) = false := by decide
  by_contra hspace
  rw [Bool.not_eq_false] at hspace
  have hnot := key c.toNat (mem_spaces_of_isSpace hspace)
  rw [← isDecimalDigit, h] at hnot
  exact absurd hnot (by decide)

/-! ## Values -/

/-- The value of a digit: its place among the digits. -/
def digitValue (c : Char) : Nat :=
  "0123456789abcdef".toList.idxOf c.toLower

/-- The number that digits denote in a base, the most significant one first. -/
def numeral (base : Nat) (digits : List Char) : Nat :=
  Nat.ofDigits base (digits.reverse.map digitValue)

theorem hexValue?_eq {c : Char} (h : isHexDigit c = true) : hexValue? c = some (digitValue c) :=
  forall_char_lt (P := fun c => isHexDigit c = true → hexValue? c = some (digitValue c))
    (by decide +kernel) c (toNat_lt_of_isHexDigit h) h

theorem ofDigits_concat (base : Nat) (digits : List Char) (c : Char) :
    ofDigits base (digits ++ [c]) = ofDigits base digits * base + (hexValue? c).getD 0 := by
  simp [ofDigits]

theorem hexValue?_lt (c : Char) : (hexValue? c).getD 0 < 16 := by
  by_cases hdigit : isHexDigit c = true
  · exact forall_char_lt (P := fun c => (hexValue? c).getD 0 < 16) (by decide +kernel) c
      (toNat_lt_of_isHexDigit hdigit)
  · rw [isHexDigit, Option.not_isSome_iff_eq_none] at hdigit
    rw [hdigit]
    decide

theorem ofDigits_lt_pow (digits : List Char) : ofDigits 16 digits < 16 ^ digits.length := by
  induction digits using List.reverseRecOn with
  | nil => decide
  | append_singleton digits c ih =>
    have hlt := hexValue?_lt c
    rw [ofDigits_concat, List.length_append, List.length_singleton, Nat.pow_succ]
    omega

/-- Reading digits from the left gives their positional sum. -/
theorem ofDigits_eq_numeral {base : Nat} {digits : List Char}
    (h : ∀ c ∈ digits, isHexDigit c = true) : ofDigits base digits = numeral base digits := by
  induction digits using List.reverseRecOn with
  | nil => simp [ofDigits, numeral]
  | append_singleton digits c ih =>
    have hc := hexValue?_eq (h c (by simp))
    have hdigits := ih fun d hd => h d (by simp [hd])
    rw [ofDigits_concat, hc, hdigits]
    simp [numeral, Nat.ofDigits_cons, Nat.mul_comm, Nat.add_comm]

/-- A nonempty run of ASCII digits and the number it denotes. -/
def IsNumeral (cs : List Char) (n : Nat) : Prop :=
  IsRun isDigit cs ∧ numeral 10 cs = n

/-- An integer: a numeral with a sign or without. -/
def IsInteger (cs : List Char) (v : Int) : Prop :=
  ∃ digits n, IsNumeral digits n ∧
    ((cs = digits ∨ cs = '+' :: digits) ∧ v = n ∨ cs = '-' :: digits ∧ v = -n)

theorem natural?_eq_some_iff {cs : List Char} {n : Nat} :
    natural? cs = some n ↔ IsNumeral cs n := by
  have hvalue (h : ∀ c ∈ cs, isDigit c = true) : ofDigits 10 cs = numeral 10 cs :=
    ofDigits_eq_numeral fun c hc => isHexDigit_of_isDigit (h c hc)
  rw [natural?, IsNumeral, IsRun]
  split
  · next h =>
    rw [List.all_eq_true] at h
    rw [hvalue h.2, Option.some.injEq]
    exact ⟨fun hn => ⟨h, hn⟩, fun hn => hn.2⟩
  · next h =>
    rw [List.all_eq_true] at h
    exact ⟨fun hn => by simp at hn, fun hn => absurd hn.1 h⟩

theorem IsNumeral.digits {cs : List Char} {n : Nat} (h : IsNumeral cs n) : IsRun isDigit cs :=
  h.1

/-- No numeral begins with a sign. -/
theorem not_isNumeral_cons {c : Char} (hc : isDigit c = false) (cs : List Char) (n : Nat) :
    ¬ IsNumeral (c :: cs) n := by
  intro h
  have := h.digits.2 c (by simp)
  rw [hc] at this
  exact absurd this (by decide)

/-- Decimal digits are read as an unsigned number exactly if they are ASCII digits. -/
theorem isNumeral_of_digits {digits : List Char} {n : Nat} (h : IsRun isDecimalDigit digits) :
    (∃ ds, (digits = ds ∨ digits = '+' :: ds) ∧ IsNumeral ds n) ↔ IsNumeral digits n := by
  constructor
  · intro hnumeral
    obtain ⟨ds, rfl | hplus, hds⟩ := hnumeral
    · exact hds
    · have := h.2 '+' (by simp [hplus])
      exact absurd this (by decide)
  · exact fun hnumeral => ⟨digits, .inl rfl, hnumeral⟩

theorem IsNumeral.isRun_isDecimalDigit {digits : List Char} {n : Nat} (h : IsNumeral digits n) :
    IsRun isDecimalDigit digits :=
  ⟨h.digits.1, fun c hc => isDecimalDigit_of_isDigit (h.digits.2 c hc)⟩

theorem unsigned?_eq_some_iff {cs : List Char} {n : Nat} :
    unsigned? cs = some n ↔ ∃ digits, (cs = digits ∨ cs = '+' :: digits) ∧ IsNumeral digits n := by
  unfold unsigned?
  split
  · next digits =>
    rw [natural?_eq_some_iff]
    constructor
    · exact fun h => ⟨digits, .inr rfl, h⟩
    · intro h
      obtain ⟨ds, rfl | hds, h⟩ := h
      · exact absurd h (not_isNumeral_cons (by decide) digits n)
      · cases hds
        exact h
  · next hplus =>
    rw [natural?_eq_some_iff]
    constructor
    · exact fun h => ⟨cs, .inl rfl, h⟩
    · intro h
      obtain ⟨ds, rfl | hds, h⟩ := h
      · exact h
      · exact absurd hds (hplus ds)

theorem signed?_eq_some_iff {cs : List Char} {v : Int} : signed? cs = some v ↔ IsInteger cs v := by
  have hsome (digits : List Char) (f : Nat → Int) :
      (natural? digits).map f = some v ↔ ∃ n, IsNumeral digits n ∧ v = f n := by
    rw [Option.map_eq_some_iff]
    constructor
    · exact fun ⟨n, hn, hv⟩ => ⟨n, natural?_eq_some_iff.mp hn, hv.symm⟩
    · exact fun ⟨n, hn, hv⟩ => ⟨n, natural?_eq_some_iff.mpr hn, hv.symm⟩
  have hneg (digits : List Char) :
      ((natural? digits).map fun n => -(n : Int)) =
        (natural? digits).map fun n => -Int.ofNat n := by
    cases natural? digits <;> rfl
  unfold signed?
  split
  · next digits =>
    rw [hsome]
    constructor
    · exact fun ⟨n, h, hv⟩ => ⟨digits, n, h, .inl ⟨.inr rfl, hv⟩⟩
    · intro h
      obtain ⟨ds, n, h, ⟨rfl | hds, hv⟩ | ⟨hds, hv⟩⟩ := h
      · exact absurd h (not_isNumeral_cons (by decide) digits n)
      · cases hds
        exact ⟨n, h, hv⟩
      · cases hds
  · next digits =>
    rw [hneg, hsome]
    constructor
    · exact fun ⟨n, h, hv⟩ => ⟨digits, n, h, .inr ⟨rfl, hv⟩⟩
    · intro h
      obtain ⟨ds, n, h, ⟨rfl | hds, hv⟩ | ⟨hds, hv⟩⟩ := h
      · exact absurd h (not_isNumeral_cons (by decide) digits n)
      · cases hds
      · cases hds
        exact ⟨n, h, hv⟩
  · next hplus hminus =>
    rw [hsome]
    constructor
    · exact fun ⟨n, h, hv⟩ => ⟨cs, n, h, .inl ⟨.inl rfl, hv⟩⟩
    · intro h
      obtain ⟨ds, n, h, ⟨rfl | hds, hv⟩ | ⟨hds, hv⟩⟩ := h
      · exact ⟨n, h, hv⟩
      · exact absurd hds (hplus ds)
      · exact absurd hds (hminus ds)

/-! ## The digits of a number -/

theorem digitChar_eq {d : Nat} (h : d < 10) : isDigit (Nat.digitChar d) = true ∧
    hexValue? (Nat.digitChar d) = some d ∧ (Nat.digitChar d = '0' → d = 0) := by
  interval_cases d <;> decide

/-- The digits of a number, by recursion on their count. -/
theorem toDigits_cases (n : Nat) :
    (n < 10 ∧ Nat.toDigits 10 n = [Nat.digitChar n]) ∨
      (10 ≤ n ∧ Nat.toDigits 10 n = Nat.toDigits 10 (n / 10) ++ [Nat.digitChar (n % 10)]) := by
  rcases Nat.lt_or_ge n 10 with hlt | hle
  · exact .inl ⟨hlt, Nat.toDigits_of_lt_base hlt⟩
  · exact .inr ⟨hle, Nat.toDigits_of_base_le (by decide) hle⟩

theorem isRun_toDigits (n : Nat) : IsRun isDigit (Nat.toDigits 10 n) := by
  induction n using Nat.strongRecOn with
  | _ n ih =>
    rcases toDigits_cases n with ⟨hlt, hdigits⟩ | ⟨hle, hdigits⟩
    · rw [hdigits]
      exact ⟨by simp, by simpa using (digitChar_eq hlt).1⟩
    · obtain ⟨-, hall⟩ := ih (n / 10) (by omega)
      rw [hdigits]
      refine ⟨by simp, List.forall_mem_append.mpr ⟨hall, ?_⟩⟩
      simpa using (digitChar_eq (Nat.mod_lt n (by decide))).1

/-- The digits of a number denote it. -/
theorem ofDigits_toDigits (n : Nat) : ofDigits 10 (Nat.toDigits 10 n) = n := by
  induction n using Nat.strongRecOn with
  | _ n ih =>
    rcases toDigits_cases n with ⟨hlt, hdigits⟩ | ⟨hle, hdigits⟩
    · rw [hdigits, ← List.nil_append [_], ofDigits_concat, (digitChar_eq hlt).2.1]
      simp [ofDigits]
    · rw [hdigits, ofDigits_concat, ih (n / 10) (by omega),
        (digitChar_eq (Nat.mod_lt n (by decide))).2.1]
      exact Nat.div_add_mod' n 10

theorem isNumeral_repr (n : Nat) : IsNumeral n.repr.toList n := by
  rw [Nat.toList_repr]
  have hrun := isRun_toDigits n
  refine ⟨hrun, ?_⟩
  rw [← ofDigits_eq_numeral fun c hc => isHexDigit_of_isDigit (hrun.2 c hc), ofDigits_toDigits]

/-! ## Widths -/

theorem uint32?_eq_some_iff {cs : List Char} {n : UInt32} :
    uint32? cs = some n ↔
      ∃ digits, (cs = digits ∨ cs = '+' :: digits) ∧ IsNumeral digits n.toNat := by
  rw [← unsigned?_eq_some_iff, uint32?, Option.bind_eq_some_iff]
  constructor
  · intro h
    obtain ⟨m, hm, h⟩ := h
    split at h
    · next hlt =>
      cases h
      rw [hm, UInt32.toNat_ofNat_of_lt' hlt]
    · simp at h
  · intro h
    exact ⟨n.toNat, h, by simp [UInt32.toNat_lt n]⟩

theorem uint64?_eq_some_iff {cs : List Char} {n : UInt64} :
    uint64? cs = some n ↔
      ∃ digits, (cs = digits ∨ cs = '+' :: digits) ∧ IsNumeral digits n.toNat := by
  rw [← unsigned?_eq_some_iff, uint64?, Option.bind_eq_some_iff]
  constructor
  · intro h
    obtain ⟨m, hm, h⟩ := h
    split at h
    · next hlt =>
      cases h
      rw [hm, UInt64.toNat_ofNat_of_lt' hlt]
    · simp at h
  · intro h
    exact ⟨n.toNat, h, by simp [UInt64.toNat_lt n]⟩

theorem fits_int64_iff (v : Int) :
    Int64.minValue.toInt ≤ v ∧ v ≤ Int64.maxValue.toInt ↔ -2 ^ 63 ≤ v ∧ v < 2 ^ 63 := by
  rw [Int64.toInt_minValue, Int64.toInt_maxValue]
  omega

theorem int64?_eq_some_iff {cs : List Char} {v : Int} :
    int64? cs = some v ↔ IsInteger cs v ∧ -2 ^ 63 ≤ v ∧ v < 2 ^ 63 := by
  rw [← signed?_eq_some_iff, int64?, Option.bind_eq_some_iff]
  constructor
  · intro h
    obtain ⟨w, hw, h⟩ := h
    split at h
    · next hrange =>
      cases h
      exact ⟨hw, (fits_int64_iff v).mp hrange⟩
    · simp at h
  · intro h
    obtain ⟨h, hrange⟩ := h
    exact ⟨v, h, if_pos ((fits_int64_iff v).mpr hrange)⟩

end TraceRelay.Text
