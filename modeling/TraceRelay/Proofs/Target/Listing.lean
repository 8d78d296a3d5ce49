import TraceRelay.Proofs.Target.Lookup
import TraceRelay.Proofs.Text.Lossy
import TraceRelay.Proofs.Text.Numeral
import TraceRelay.Proofs.Text.Trim

/-!
# What a lookup comes to

A lookup is decided by the way in which its command ends and, if it ends well, by the first line of
its listing that is not blank. `Finds` says what it comes to in each case, in terms of lines, white
space and numerals; a lookup comes to that and nothing else.
-/

namespace TraceRelay.Target

open Text

/-- The first line of a text that is not blank, without the white space around it. A line ends at a
line break and nowhere else. -/
def FirstEntry (text entry : List Char) : Prop :=
  ∃ blanks line rest, Cuts '\n' text (blanks ++ line :: rest) ∧
    (∀ blank ∈ blanks, IsBlank blank) ∧ ¬ IsBlank line ∧ Core line entry

/-- Every line of the text is blank. -/
def NoEntry (text : List Char) : Prop :=
  ∃ lines, Cuts '\n' text lines ∧ ∀ line ∈ lines, IsBlank line

/-- A process id in ASCII digits, with a plus sign or without, and with any number of zeros in
front; zero is none. -/
def Names (entry : List Char) (pid : UInt32) : Prop :=
  ∃ digits, (entry = digits ∨ entry = '+' :: digits) ∧ IsNumeral digits pid.toNat ∧ 1 ≤ pid.toNat

/-- What a lookup comes to, by how its command ends and what it lists. -/
inductive Finds (settings : LookupSettings) (name : String) : Outcome → Except Error UInt32 → Prop
  | refused {cause} :
      Finds settings name (.refused cause) (.error (.query settings.command cause))
  | listed {stdout entry pid} : FirstEntry (decodeLossy stdout) entry → Names entry pid →
      Finds settings name (.ended (.exited 0) stdout) (.ok pid)
  | garbled {stdout entry} : FirstEntry (decodeLossy stdout) entry → (∀ pid, ¬ Names entry pid) →
      Finds settings name (.ended (.exited 0) stdout) (.error (.parse (String.ofList entry)))
  | blank {stdout} : NoEntry (decodeLossy stdout) →
      Finds settings name (.ended (.exited 0) stdout) (.error (.notFound name))
  /-- Nothing matches, whatever is listed. -/
  | unmatched {stdout} : Finds settings name (.ended (.exited 1) stdout) (.error (.notFound name))
  | status {status stdout} : status ≠ .exited 0 → status ≠ .exited 1 →
      Finds settings name (.ended status stdout) (.error (.status settings.command status.code?))

/-! ## The first entry -/

section Entries

variable {text entry : List Char}

theorem entries_eq_nil_iff : entries text = [] ↔ NoEntry text := by
  rw [entries, List.filter_eq_nil_iff, List.forall_mem_map]
  simp only [decide_eq_true_eq, not_not, trim_eq_nil_iff]
  constructor
  · exact fun h => ⟨_, cuts_segments '\n' text, h⟩
  · rintro ⟨lines, hcuts, hblank⟩
    rwa [hcuts.segments_eq]

/-- The lines in front of the first entry are the blank ones. -/
theorem exists_entries_iff :
    (∃ others, entries text = entry :: others) ↔ FirstEntry text entry := by
  simp only [entries, List.filter_eq_cons_iff, List.map_eq_append_iff, List.map_eq_cons_iff,
    decide_eq_true_eq, not_not]
  constructor
  · rintro ⟨others, trimmed, more, ⟨blanks, tail, hlines, rfl, line, rest, rfl, hentry, rfl⟩,
      hblank, hne, -⟩
    rw [List.forall_mem_map] at hblank
    refine ⟨blanks, line, rest, hlines ▸ cuts_segments '\n' text, ?_, ?_, trim_eq_iff.mp hentry⟩
    · exact fun blank hmem => trim_eq_nil_iff.mp (hblank blank hmem)
    · rwa [← trim_eq_nil_iff, hentry]
  · rintro ⟨blanks, line, rest, hcuts, hblank, hline, hcore⟩
    rw [← trim_eq_iff] at hcore
    rw [← trim_eq_nil_iff, hcore] at hline
    refine ⟨_, _, _, ⟨blanks, line :: rest, hcuts.segments_eq, rfl, line, rest, rfl, hcore, rfl⟩,
      ?_, hline, rfl⟩
    rw [List.forall_mem_map]
    exact fun blank hmem => trim_eq_nil_iff.mpr (hblank blank hmem)

theorem entries_append_newline (front rest : List Char) :
    entries (front ++ '\n' :: rest) = entries (front ++ ['\n']) ++ entries rest := by
  rw [entries, segments_append_terminated, List.map_append, List.filter_append]
  rfl

end Entries

/-! ## The outcome -/

section Outcomes

variable {settings : LookupSettings} {name : String} {outcome : Outcome}
  {result : Except Error UInt32} {stdout : List UInt8} {entry : List Char}

theorem filter_uint32?_eq_some_iff {pid : UInt32} :
    (uint32? entry).filter (0 < ·) = some pid ↔ Names entry pid := by
  rw [Option.filter_eq_some_iff, uint32?_eq_some_iff, decide_eq_true_eq, UInt32.lt_iff_toNat_lt]
  constructor
  · rintro ⟨⟨digits, hentry, hdigits⟩, hpos⟩
    exact ⟨digits, hentry, hdigits, hpos⟩
  · rintro ⟨digits, hentry, hdigits, hpos⟩
    exact ⟨⟨digits, hentry, hdigits⟩, hpos⟩

theorem resolve_exited_zero (stdout : List UInt8) :
    (resolve settings name (.ended (.exited 0) stdout)).value =
      (readListing (decodeLossy stdout) name).value := rfl

/-- A lookup comes to what its ending and its listing say. -/
theorem resolve_of_finds (h : Finds settings name outcome result) :
    (resolve settings name outcome).value = result := by
  cases h with
  | refused => rfl
  | @listed stdout entry pid hentry hnames =>
    obtain ⟨others, hentries⟩ := exists_entries_iff.mpr hentry
    rw [resolve_exited_zero, readListing_cons name hentries,
      filter_uint32?_eq_some_iff.mpr hnames]
  | @garbled stdout entry hentry hnames =>
    obtain ⟨others, hentries⟩ := exists_entries_iff.mpr hentry
    have hnone : (uint32? entry).filter (0 < ·) = none := by
      rw [Option.eq_none_iff_forall_ne_some]
      exact fun pid hpid => hnames pid (filter_uint32?_eq_some_iff.mp hpid)
    rw [resolve_exited_zero, readListing_cons name hentries, hnone]
  | @blank stdout hblank =>
    rw [resolve_exited_zero, readListing, entries_eq_nil_iff.mpr hblank]
    rfl
  | unmatched => rfl
  | @status status stdout hzero hone =>
    cases status with
    | killed => rfl
    | exited code =>
      rw [Ne, ExitStatus.exited.injEq] at hzero hone
      simp [resolve, ExitStatus.code?, hzero, hone]

/-- Every lookup comes to something. -/
theorem exists_finds (settings : LookupSettings) (name : String) (outcome : Outcome) :
    ∃ result, Finds settings name outcome result := by
  cases outcome with
  | refused cause => exact ⟨_, .refused⟩
  | ended status stdout =>
    by_cases hzero : status = .exited 0
    · subst hzero
      cases hentries : entries (decodeLossy stdout) with
      | nil => exact ⟨_, .blank (entries_eq_nil_iff.mp hentries)⟩
      | cons entry others =>
        have hentry := exists_entries_iff.mp ⟨others, hentries⟩
        by_cases hnames : ∃ pid, Names entry pid
        · obtain ⟨pid, hpid⟩ := hnames
          exact ⟨_, .listed hentry hpid⟩
        · exact ⟨_, .garbled hentry (not_exists.mp hnames)⟩
    · by_cases hone : status = .exited 1
      · subst hone
        exact ⟨_, .unmatched⟩
      · exact ⟨_, .status hzero hone⟩

end Outcomes

/-- **A lookup sorts every outcome.** Each of the ways in which its command can go is one of those
in `Finds`, and of no two of them, and the lookup comes to what is said there: to a process id just
if the command succeeds and the first line that is not blank holds one. What a command lists behind
that line changes nothing. -/
theorem outcomes_are_sorted (settings : LookupSettings) (name : String) (outcome : Outcome) :
    (∀ result,
      (resolve settings name outcome).value = result ↔ Finds settings name outcome result) ∧
    (∃! result, Finds settings name outcome result) ∧
    ∀ front entry, FirstEntry (decodeLossy (front ++ [0x0A])) entry → ∀ status rest,
      (resolve settings name (.ended status (front ++ 0x0A :: rest))).value =
        (resolve settings name (.ended status (front ++ [0x0A]))).value := by
  have hiff : ∀ result, (resolve settings name outcome).value = result ↔
      Finds settings name outcome result := by
    intro result
    refine ⟨?_, resolve_of_finds⟩
    rintro rfl
    obtain ⟨other, hother⟩ := exists_finds settings name outcome
    rwa [resolve_of_finds hother]
  refine ⟨hiff, ⟨_, (hiff _).mp rfl, fun result h => ((hiff result).mpr h).symm⟩, ?_⟩
  intro front entry hentry status rest
  obtain ⟨others, hentries⟩ := exists_entries_iff.mpr hentry
  have hfront := decodeLossy_append_newline front rest
  have hlast := decodeLossy_append_newline front []
  have hmore : entries (decodeLossy (front ++ 0x0A :: rest)) =
      entry :: (others ++ entries (decodeLossy rest)) := by
    rw [hlast] at hentries
    rw [hfront, entries_append_newline]
    rw [show entries (decodeLossy front ++ ['\n']) = entry :: others from hentries]
    rfl
  cases status with
  | killed => rfl
  | exited code =>
    by_cases hzero : code = 0
    · subst hzero
      rw [resolve_exited_zero, resolve_exited_zero, readListing_cons name hmore,
        readListing_cons name hentries]
    · by_cases hone : code = 1 <;> simp [resolve, ExitStatus.code?, hzero, hone]

/-- The line breaks of a listing are its only ones: a carriage return is white space at the end of
an entry, but ends none. -/
example :
    (resolve {} "p4" (.ended (.exited 0) (encode " \r\n\t+0042\r\n7\n".toList))).value = .ok 42 ∧
    (resolve {} "p4" (.ended (.exited 0) (encode "42\r43\n".toList))).value =
      .error (.parse "42\r43") := by
  decide +kernel

end TraceRelay.Target
