import TraceRelay.Proofs.Text.Numeral
import TraceRelay.Toml.Document

/-!
# Numbers that are written are read back

A number without sign is written in decimal digits, of which the first is a zero only if it is the
only one. Where a value can end, the digits are read as an integer: they begin no time and no float.
-/

namespace TraceRelay.Toml

open Text

/-! ## Decimal digits -/

/-- The digits of a number: no zero stands before others. -/
def IsDecimal (digits : List Char) : Prop :=
  IsRun isDigit digits ∧ (digits = ['0'] ∨ ¬Begins (· = '0') digits)

theorem not_begins_toDigits {n : Nat} (hpos : 0 < n) : ¬Begins (· = '0') (Nat.toDigits 10 n) := by
  induction n using Nat.strongRecOn with
  | _ n ih =>
    rcases toDigits_cases n with ⟨hlt, hdigits⟩ | ⟨hle, hdigits⟩
    · rw [hdigits, begins_cons]
      intro hzero
      have := (digitChar_eq hlt).2.2 (of_decide_eq_true hzero)
      omega
    · have hhead := ih (n / 10) (by omega) (by omega)
      obtain ⟨c, cs, hcons, -⟩ := (isRun_toDigits (n / 10)).exists_cons
      rw [hcons] at hhead
      rw [hdigits, hcons]
      simpa using hhead

theorem isDecimal_toDigits (n : Nat) : IsDecimal (Nat.toDigits 10 n) := by
  refine ⟨isRun_toDigits n, ?_⟩
  rcases Nat.eq_zero_or_pos n with rfl | hpos
  · exact .inl rfl
  · exact .inr (not_begins_toDigits hpos)

/-! ## Where a value ends -/

/-- Whether a value can end before the character. -/
def isEnd (c : Char) : Bool :=
  c = '\n' || c = ',' || c = ']'

section Ends

variable {p : Char → Bool} {digits rest : List Char}

theorem not_begins_of_isEnd (hend : Begins isEnd rest)
    (hp : p '\n' = false ∧ p ',' = false ∧ p ']' = false) : ¬Begins p rest := by
  obtain ⟨c, hc, hcend⟩ := hend
  rintro ⟨d, hd, hpd⟩
  obtain rfl : c = d := Option.some.inj (hc.symm.trans hd)
  simp only [isEnd, Bool.or_eq_true, decide_eq_true_eq] at hcend
  rcases hcend with (rfl | rfl) | rfl
  · rw [hp.1] at hpd
    cases hpd
  · rw [hp.2.1] at hpd
    cases hpd
  · rw [hp.2.2] at hpd
    cases hpd

theorem isDigit_of_isEnd {c : Char} (h : isEnd c = true) : isDigit c = false := by
  simp only [isEnd, Bool.or_eq_true, decide_eq_true_eq] at h
  rcases h with (rfl | rfl) | rfl <;> decide

theorem after?_singleton_eq_none {c : Char} (h : ¬Begins (· = c) rest) :
    after? [c] rest = none := by
  cases rest with
  | nil => rfl
  | cons d rest =>
    have hne : c ≠ d := fun heq => h (by simp [heq])
    simp [after?, hne]

theorem afterChar?_eq_none (h : ¬Begins p rest) : afterChar? p rest = none := by
  cases rest with
  | nil => rfl
  | cons c rest =>
    rw [begins_cons] at h
    rw [afterChar?, if_neg h]

/-- After digits and the end of the value there is no other mark. -/
theorem after?_digits_eq_none (hdigits : ∀ c ∈ digits, isDigit c = true)
    (hend : Begins isEnd rest) {mark : Char} (hmark : isDigit mark = false)
    (hnot : isEnd mark = false) : after? [mark] (digits ++ rest) = none := by
  refine after?_singleton_eq_none ?_
  cases digits with
  | nil =>
    rintro ⟨c, hc, heq⟩
    obtain ⟨d, hd, hdend⟩ := hend
    obtain rfl : c = d := Option.some.inj (hc.symm.trans hd)
    rw [← of_decide_eq_true heq, hdend] at hnot
    cases hnot
  | cons c digits =>
    rw [List.cons_append, begins_cons]
    intro heq
    rw [← of_decide_eq_true heq, hdigits c List.mem_cons_self] at hmark
    cases hmark

/-! ## Times -/

/-- A number of a fixed width is read of the digits only. -/
theorem fixedNumber?_digits (hdigits : ∀ c ∈ digits, isDigit c = true) (hend : Begins isEnd rest)
    {width low high n : Nat} {left : List Char}
    (h : fixedNumber? width low high (digits ++ rest) = some (n, left)) :
    ∃ more, left = more ++ rest ∧ ∀ c ∈ more, isDigit c = true := by
  simp only [fixedNumber?, Option.ite_none_right_eq_some, Option.some.injEq, Prod.mk.injEq] at h
  obtain ⟨⟨hlength, hall, -⟩, -, hleft⟩ := h
  have hwidth : width ≤ digits.length := by
    rw [← Nat.not_lt]
    intro hlt
    -- Otherwise the character at which the value ends is one of the digits.
    obtain ⟨c, hc, hcend⟩ := hend
    obtain ⟨tail, rfl⟩ := List.head?_eq_some_iff.mp hc
    obtain ⟨more, hmore⟩ : ∃ more, width - digits.length = more + 1 :=
      ⟨width - digits.length - 1, by omega⟩
    rw [List.take_append, hmore, List.take_succ_cons, List.all_append, List.all_cons,
      Bool.and_eq_true, Bool.and_eq_true] at hall
    rw [isDigit_of_isEnd hcend] at hall
    cases hall.2.1
  refine ⟨digits.drop width, ?_, fun c hc => hdigits c (List.mem_of_mem_drop hc)⟩
  rw [← hleft, List.drop_append_of_le_length hwidth]

theorem date?_digits (hdigits : ∀ c ∈ digits, isDigit c = true) (hend : Begins isEnd rest) :
    date? (digits ++ rest) = none := by
  unfold date?
  rcases hyear : fixedNumber? 4 0 9999 (digits ++ rest) with _ | ⟨year, left⟩
  · rfl
  · obtain ⟨more, rfl, hmore⟩ := fixedNumber?_digits hdigits hend hyear
    have hdash : after? ['-'] (more ++ rest) = none := after?_digits_eq_none hmore hend rfl rfl
    simp [hdash]

theorem timeOfDay?_digits (hdigits : ∀ c ∈ digits, isDigit c = true)
    (hend : Begins isEnd rest) : timeOfDay? (digits ++ rest) = none := by
  unfold timeOfDay?
  rcases hhour : fixedNumber? 2 0 23 (digits ++ rest) with _ | ⟨hour, left⟩
  · rfl
  · obtain ⟨more, rfl, hmore⟩ := fixedNumber?_digits hdigits hend hhour
    have hcolon : after? [':'] (more ++ rest) = none := after?_digits_eq_none hmore hend rfl rfl
    simp [hcolon]

/-- Digits alone are no time. -/
theorem dateTime?_digits (hdigits : ∀ c ∈ digits, isDigit c = true) (hend : Begins isEnd rest) :
    dateTime? (digits ++ rest) = none := by
  rw [dateTime?, date?_digits hdigits hend]
  exact timeOfDay?_digits hdigits hend

/-! ## Floats and integers -/

theorem digitGroups_append (hdigits : ∀ c ∈ digits, isDigit c = true) (hend : Begins isEnd rest) :
    digitGroups isDigit (digits ++ rest) = (digits, rest) := by
  induction digits with
  | nil =>
    obtain ⟨c, hc, hcend⟩ := hend
    obtain ⟨tail, rfl⟩ := List.head?_eq_some_iff.mp hc
    have hgroup : (c = '_') = False := by
      rw [eq_iff_iff, iff_false]
      rintro rfl
      cases hcend
    simp [digitGroups, isDigit_of_isEnd hcend, hgroup]
  | cons c digits ih =>
    obtain ⟨hc, hcs⟩ := List.forall_mem_cons.mp hdigits
    rw [List.cons_append, digitGroups, if_pos hc, ih hcs]

theorem decimal?_append (h : IsDecimal digits) (hend : Begins isEnd rest) :
    decimal? (digits ++ rest) = some (digits, rest) := by
  obtain ⟨hrun, rfl | hlead⟩ := h
  · rfl
  · obtain ⟨c, tail, rfl, hc⟩ := hrun.exists_cons
    have hzero : c ≠ '0' := by simpa using hlead
    have hgroups := digitGroups_append hrun.2 hend
    unfold decimal?
    split
    · next heq =>
      rw [List.cons_append, List.cons.injEq] at heq
      exact absurd heq.1 hzero
    · rw [digits?, hgroups]
      simp [hc]

theorem optionalSign_append (h : IsRun isDigit digits) (rest : List Char) :
    optionalSign (digits ++ rest) = (false, digits ++ rest) := by
  obtain ⟨c, tail, rfl, hc⟩ := h.exists_cons
  unfold optionalSign
  split
  · next heq =>
    rw [List.cons_append, List.cons.injEq] at heq
    rw [heq.1] at hc
    cases hc
  · next heq =>
    rw [List.cons_append, List.cons.injEq] at heq
    rw [heq.1] at hc
    cases hc
  · rfl

/-- Digits alone are no float. -/
theorem decimalFloat?_digits (h : IsDecimal digits) (hend : Begins isEnd rest) :
    decimalFloat? (digits ++ rest) = none := by
  have hfraction : fraction? rest = none := by
    have hdot : after? ['.'] rest = none :=
      after?_singleton_eq_none (not_begins_of_isEnd hend (by decide))
    simp [fraction?, hdot]
  have hexponent : exponent? rest = none := by
    have hmark : afterChar? (fun c => c = 'e' || c = 'E') rest = none :=
      afterChar?_eq_none (not_begins_of_isEnd hend (by decide))
    simp [exponent?, hmark]
  simp [decimalFloat?, optionalSign_append h.1, decimal?_append h hend, hfraction, hexponent]

theorem specialFloat?_digits (h : IsRun isDigit digits) (rest : List Char) :
    specialFloat? (digits ++ rest) = none := by
  have hsign := optionalSign_append h rest
  obtain ⟨c, tail, rfl, hc⟩ := h.exists_cons
  have hfirst : 'i' ≠ c ∧ 'n' ≠ c := by
    constructor
    · rintro rfl
      cases hc
    · rintro rfl
      cases hc
  rw [specialFloat?, hsign]
  simp [after?, hfirst]

/-- After a zero at the front the value ends. -/
theorem isEnd_of_zero (h : IsDecimal digits) (hend : Begins isEnd rest) {c : Char}
    {tail : List Char} (heq : digits ++ rest = '0' :: c :: tail) : isEnd c = true := by
  obtain ⟨hrun, rfl | hlead⟩ := h
  · rw [List.singleton_append, List.cons.injEq] at heq
    rw [heq.2] at hend
    simpa using hend
  · obtain ⟨d, more, rfl, -⟩ := hrun.exists_cons
    rw [List.cons_append, List.cons.injEq] at heq
    exact absurd (by simp [heq.1]) hlead

/-- Digits alone are an integer in base ten. -/
theorem integer?_digits (h : IsDecimal digits) (hend : Begins isEnd rest)
    (hbound : ofDigits 10 digits ≤ Int64.maxValue.toInt.toNat) :
    integer? (digits ++ rest) = some ((ofDigits 10 digits : Int), rest) := by
  have hfits : bounded (ofDigits 10 digits : Int) = some (ofDigits 10 digits : Int) := by
    rw [bounded, if_pos]
    rw [fits_int64_iff]
    rw [Int64.toInt_maxValue] at hbound
    omega
  unfold integer?
  split
  · next heq => cases isEnd_of_zero h hend heq
  · next heq => cases isEnd_of_zero h hend heq
  · next heq => cases isEnd_of_zero h hend heq
  · simp [optionalSign_append h.1, decimal?_append h hend, hfits]

/-- **A number that is written in decimal digits is read back** as an integer. -/
theorem numeric?_repr {n : Nat} (hbound : n ≤ Int64.maxValue.toInt.toNat)
    (hend : Begins isEnd rest) : numeric? (n.repr.toList ++ rest) = some (.integer n, rest) := by
  have hdecimal := isDecimal_toDigits n
  have hinteger := integer?_digits hdecimal hend (by rwa [ofDigits_toDigits])
  rw [ofDigits_toDigits] at hinteger
  rw [Nat.toList_repr, numeric?, dateTime?_digits hdecimal.1.2 hend,
    decimalFloat?_digits hdecimal hend, specialFloat?_digits hdecimal.1, hinteger]
  rfl

end Ends

end TraceRelay.Toml
