import TraceRelay.CommandLine.Parse
import TraceRelay.Proofs.Except

/-!
# Flags that are raised stay raised

An argument that asks for a dry run is never taken for the value of an option, and nothing that is
read later takes it back. So a command line that contains it and can be read asks for a dry run.
-/

namespace TraceRelay.CommandLine

/-- A value that an option takes says nothing about a dry run. -/
theorem Options.dryRun_assign {options options' : Options} {option : Valued} {text : String}
    (h : options.assign option text = .ok options') : options'.dryRun = options.dryRun := by
  cases option with
  | config =>
    simp only [Options.assign] at h
    split at h
    · cases h
    · obtain rfl := Except.ok.inj h
      rfl
  | strace =>
    obtain rfl := Except.ok.inj h
    rfl
  | _ =>
    simp only [Options.assign] at h
    split at h
    · obtain rfl := Except.ok.inj h
      rfl
    · cases h

namespace Reading

variable {r r' : Reading} {option : Valued} {flag : Flag}

/-! ## Steps -/

theorem dryRun_give {value : Option String} (h : r.give option value = .ok r') :
    r'.options.dryRun = r.options.dryRun := by
  cases value with
  | none => cases h
  | some text =>
    simp only [give] at h
    split at h
    · cases h
    · obtain ⟨options, hassign, h⟩ := bind_eq_ok_iff.mp h
      obtain rfl := Except.ok.inj h
      exact Options.dryRun_assign hassign

theorem dryRun_settle (h : r.settle = .ok r') : r'.options.dryRun = r.options.dryRun := by
  unfold settle at h
  split at h
  · obtain rfl := Except.ok.inj h
    rfl
  · exact dryRun_give h

/-- A flag that is raised leaves the others as they are. -/
theorem dryRun_raise (h : r.raise flag = .ok r') :
    r'.options.dryRun = (decide (flag = .dryRun) || r.options.dryRun) := by
  obtain ⟨settled, hsettle, h⟩ := bind_eq_ok_iff.mp h
  rw [← dryRun_settle hsettle]
  dsimp only at h
  split at h
  · cases h
  · cases flag with
    | help => cases h
    | version => cases h
    | _ =>
      obtain rfl := Except.ok.inj h
      rfl

theorem dryRun_start {attached : Option String} (h : r.start option attached = .ok r') :
    r'.options.dryRun = r.options.dryRun := by
  obtain ⟨settled, hsettle, h⟩ := bind_eq_ok_iff.mp h
  rw [← dryRun_settle hsettle]
  cases attached with
  | some text => exact dryRun_give h
  | none =>
    obtain rfl := Except.ok.inj h
    rfl

theorem dryRun_word {text : String} (h : r.word text = .ok r') :
    r'.options.dryRun = r.options.dryRun := by
  unfold word at h
  split at h
  · obtain rfl := Except.ok.inj h
    rfl
  · cases h

/-! ## Arguments -/

/-- Short options leave a dry run asked for. -/
theorem dryRun_cluster {cs : List Char} (hasked : r.options.dryRun = true)
    (h : r.cluster cs = .ok r') : r'.options.dryRun = true := by
  induction cs generalizing r with
  | nil =>
    obtain rfl := Except.ok.inj h
    exact hasked
  | cons c cs ih =>
    unfold cluster at h
    split at h
    · cases h
    · obtain ⟨raised, hraise, h⟩ := bind_eq_ok_iff.mp h
      exact ih (by rw [dryRun_raise hraise, hasked, Bool.or_true]) h
    · split at h <;> exact (dryRun_start h).trans hasked

theorem dryRun_long {cs : List Char} (hasked : r.options.dryRun = true)
    (h : r.long cs = .ok r') : r'.options.dryRun = true := by
  unfold long at h
  dsimp only at h
  split at h
  · cases h
  · cases h
  · rw [dryRun_raise h, hasked, Bool.or_true]
  · exact (dryRun_start h).trans hasked

/-- No argument takes back what was asked for. -/
theorem dryRun_argument {arg : String} (hasked : r.options.dryRun = true)
    (h : r.argument arg = .ok r') : r'.options.dryRun = true := by
  unfold argument at h
  split at h
  · exact dryRun_long hasked h
  · exact (dryRun_word h).trans hasked
  · exact dryRun_cluster hasked h
  · exact (dryRun_word h).trans hasked

/-- The argument that asks for a dry run is an option of its own, whatever stands before it. -/
theorem argument_dryRun (r : Reading) : r.argument "--dry-run" = r.raise .dryRun := rfl

theorem dryRun_finish {options : Options} (h : r.finish = .ok options) :
    options.dryRun = r.options.dryRun := by
  obtain ⟨settled, hsettle, h⟩ := bind_eq_ok_iff.mp h
  rw [← dryRun_settle hsettle]
  dsimp only at h
  split at h
  · cases h
  · obtain rfl := Except.ok.inj h
    rfl

/-- Arguments ask for a dry run if one of them does, or one that was read before. -/
theorem dryRun_arguments {args : List String} {options : Options}
    (hasked : r.options.dryRun = true ∨ "--dry-run" ∈ args) (h : r.arguments args = .ok options) :
    options.dryRun = true := by
  induction args generalizing r with
  | nil =>
    have hbefore := hasked.resolve_right List.not_mem_nil
    exact (dryRun_finish h).trans hbefore
  | cons arg args ih =>
    unfold arguments at h
    split at h
    · next hend =>
      split at h
      · next hlast =>
        have hbefore := hasked.resolve_right (by simp [hend, hlast])
        exact (dryRun_finish h).trans hbefore
      · cases h
    · obtain ⟨read, hread, h⟩ := bind_eq_ok_iff.mp h
      refine ih ?_ h
      rcases hasked with hbefore | hmem
      · exact .inl (dryRun_argument hbefore hread)
      · rcases List.mem_cons.mp hmem with rfl | hlater
        · rw [argument_dryRun] at hread
          exact .inl (by rw [dryRun_raise hread]; rfl)
        · exact .inr hlater

end Reading

/-- **A command line that contains the argument asks for a dry run**, if it can be read. -/
theorem dryRun_of_parse {args : List String} {options : Options} (hmem : "--dry-run" ∈ args)
    (h : parse args = .ok options) : options.dryRun = true :=
  Reading.dryRun_arguments (.inr hmem) h

end TraceRelay.CommandLine
