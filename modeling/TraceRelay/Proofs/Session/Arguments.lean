import TraceRelay.Proofs.Text.Numeral
import TraceRelay.Proofs.Text.Template
import TraceRelay.Session.Tracer

/-!
# The tracer's arguments

The process id and the string limit are filled in one after the other. A number has no character in
common with the names of the two holes, so that this is one substitution.
-/

namespace TraceRelay.Tracer

open Text

/-- The hole that a string and what takes its place make. -/
def hole (pattern filling : String) : Hole :=
  ⟨pattern.toList, filling.toList⟩

/-- The hole that a process id takes the place of. -/
def pidHole (pid : UInt32) : Hole :=
  hole "\x7bpid\x7d" pid.toNat.repr

/-- The hole that a string limit takes the place of. -/
def limitHole (limit : UInt32) : Hole :=
  hole "\x7bstring_limit\x7d" limit.toNat.repr

theorem mem_holes {a b c : Hole} : c ∈ [a, b] ↔ c = a ∨ c = b := by
  simp

/-- Numbers and the names of the holes do not interfere. -/
theorem separate_holes (pid limit : UInt32) : Separate '\x7b' [pidHole pid, limitHole limit] := by
  have hnames : ∀ a ∈ [pidHole pid, limitHole limit], ∀ c ∈ a.pattern, isDigit c = false := by
    intro a ha
    rcases mem_holes.mp ha with rfl | rfl
    · show ∀ c ∈ "\x7bpid\x7d".toList, isDigit c = false
      simp [isDigit]
    · show ∀ c ∈ "\x7bstring_limit\x7d".toList, isDigit c = false
      simp [isDigit]
  have hpid : ¬ "\x7bpid\x7d".toList <+: "\x7bstring_limit\x7d".toList := by decide
  have hlimit : ¬ "\x7bstring_limit\x7d".toList <+: "\x7bpid\x7d".toList := by decide
  have hnumbers : ∀ a ∈ [pidHole pid, limitHole limit], IsRun isDigit a.filling := by
    intro a ha
    rcases mem_holes.mp ha with rfl | rfl
    · exact (isNumeral_repr pid.toNat).digits
    · exact (isNumeral_repr limit.toNat).digits
  refine ⟨?_, ?_, fun a ha => (hnumbers a ha).1, ?_⟩
  · intro a ha
    rcases mem_holes.mp ha with rfl | rfl
    · exact ⟨"pid\x7d".toList, rfl, by decide⟩
    · exact ⟨"string_limit\x7d".toList, rfl, by decide⟩
  · intro a ha b hb
    rcases mem_holes.mp ha with rfl | rfl <;> rcases mem_holes.mp hb with rfl | rfl
    · exact fun _ => rfl
    · exact fun h => absurd h hpid
    · exact fun h => absurd h hlimit
    · exact fun _ => rfl
  · intro a ha b hb c hc hmem
    have hdigit := (hnumbers a ha).2 c hc
    rw [hnames b hb c hmem] at hdigit
    cases hdigit

/-- Two rounds of filling. -/
theorem fill_fill {p f q g : String} (hsep : Separate '\x7b' [hole p f, hole q g]) (s : String) :
    fill q g (fill p f s) = String.ofList (fillAll [hole p f, hole q g] s.toList) := by
  have honce := @fillAll_fillAll '\x7b' [hole p f] [hole q g] hsep s.toList
  rw [fill, fill, String.toList_ofList]
  exact congrArg String.ofList honce

/-- **The arguments are filled in by one substitution.** Each argument comes out as in a single pass
from left to right, in which each hole is replaced by its decimal number and every other character
is copied, and as in either order of two rounds with one hole each. A number completes no hole that
was not there before, so that none is left; the arguments are as many as they were and in their
order. -/
theorem arguments_substitute_at_once (settings : TracerSettings) (pid : UInt32) :
    let limit := settings.stringLimit
    let holes := [pidHole pid, limitHole limit]
    arguments settings pid =
      settings.args.map (fun arg => String.ofList (fillAll holes arg.toList)) ∧
    (∀ cs out, Filled holes cs out ↔ fillAll holes cs = out) ∧
    (IsNumeral (pidHole pid).filling pid.toNat ∧ IsNumeral (limitHole limit).filling limit.toNat) ∧
    arguments settings pid = settings.args.map (fun arg =>
      fill "\x7bpid\x7d" pid.toNat.repr (fill "\x7bstring_limit\x7d" limit.toNat.repr arg)) ∧
    (∀ arg ∈ arguments settings pid, ∀ a ∈ holes, ¬ a.pattern <:+: arg.toList) ∧
    (arguments settings pid).length = settings.args.length := by
  intro limit holes
  have hsep : Separate '\x7b' holes := separate_holes pid limit
  have honce : arguments settings pid =
      settings.args.map (fun arg => String.ofList (fillAll holes arg.toList)) :=
    List.map_congr_left fun arg _ => fill_fill hsep arg
  refine ⟨honce, fun cs out => filled_iff hsep, ⟨isNumeral_repr _, isNumeral_repr _⟩, ?_, ?_, ?_⟩
  · have hswapped : ∀ a, a ∈ [limitHole limit, pidHole pid] ↔ a ∈ holes := by
      intro a
      rw [mem_holes, mem_holes, or_comm]
    rw [honce]
    refine List.map_congr_left fun arg _ => ?_
    rw [← fillAll_congr hsep hswapped]
    exact (fill_fill (hsep.subset fun a ha => (hswapped a).mp ha) arg).symm
  · intro arg harg a ha
    rw [honce] at harg
    obtain ⟨source, -, rfl⟩ := List.mem_map.mp harg
    rw [String.toList_ofList]
    exact not_isInfix_fillAll hsep ha source.toList
  · rw [arguments, List.length_map]

/-- Holes around others are no holes, not even when the inner ones are filled. -/
example :
    arguments
        { args := ["\x7bstring_\x7bpid\x7dlimit\x7d", "\x7bp\x7bstring_limit\x7did\x7d"] } 42 =
      ["\x7bstring_42limit\x7d", "\x7bp9999id\x7d"] := by
  decide +kernel

end TraceRelay.Tracer
