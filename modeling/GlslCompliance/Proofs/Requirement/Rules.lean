import GlslCompliance.Proofs.Requirement.Availability

/-!
# Which rules speak for a requirement

Every requirement has rules of its own (`Requirement.rules`), and the diagnostics of a check follow
these, whatever the context and the activation are (`isFinding_of_mem_report`). They stand at the
place of the check; only a warning for an extension that is tolerated carries a note, and only a
request for extensions gives one.
-/

namespace GlslCompliance

namespace Requirement

/-- The rules by which a requirement that is not met is reported. -/
def rules : Requirement → List Rule
  | profile _ => [.wrongProfile]
  | availability _ _ _ => [.extensionInUse, .notAvailable]
  | stage _ => [.wrongStage]
  | notDeprecated _ _ => [.deprecatedFeature, .deprecationNotice]
  | notRemoved _ _ => [.removedFeature]
  | extensions _ => [.extensionInUse, .extensionNotRequested, .extensionCandidate]
  | directiveExtensions _ =>
    [.extensionInUse, .directiveExtensionNotRequested, .extensionCandidate]
  | notForSpirv | notForVulkan | onlyForVulkan | onlyForSpirv => [.wrongTarget]
  | implemented => [.notImplemented]

end Requirement

namespace Check

variable {ctx : Context} {a : Activation} {c : Check} {d : Diagnostic}

/-- A diagnostic that may come of a check. -/
structure IsFinding (c : Check) (d : Diagnostic) : Prop where
  follows : ∃ r ∈ c.requirement.rules, d.Follows r
  location : d.location = c.location
  help : d.help = none
  /-- Only a request for extensions gives a note. -/
  notes : c.requirement.requested? = none → d.notes = []
  /-- Only a warning for an extension in use carries one. -/
  noted : d.notes ≠ [] → d.Follows .extensionInUse

/-- The bare diagnostic of a rule, at the place of the check. -/
theorem isFinding_report {r : Rule} (hr : r ∈ c.requirement.rules) (message : String) :
    c.IsFinding (r.report message c.location) :=
  ⟨⟨r, hr, r.follows_report _ _⟩, rfl, rfl, fun _ => rfl, fun h => absurd rfl h⟩

theorem isFinding_violation {r : Rule} (hr : r ∈ c.requirement.rules) (reason detail : String) :
    c.IsFinding (c.violation r reason detail) :=
  isFinding_report hr _

/-- A weaker condition demands less. -/
theorem demand_sublist {p q : Bool} (h : p → q) (d : Diagnostic) :
    (demand q d).Sublist (demand p d) := by
  unfold demand
  by_cases hq : q
  · rw [if_pos hq]
    exact List.nil_sublist _
  · have hp : ¬ p = true := fun hp => hq (h hp)
    simp only [if_neg hq, if_neg hp, List.Sublist.refl]

theorem eq_of_mem_demand {condition : Bool} {d' : Diagnostic} (hd : d ∈ demand condition d') :
    d = d' := by
  unfold demand at hd
  split at hd
  · exact nomatch hd
  · exact List.mem_singleton.mp hd

theorem isFinding_demand {condition : Bool} {d' : Diagnostic} (h : c.IsFinding d')
    (hd : d ∈ demand condition d') : c.IsFinding d := eq_of_mem_demand hd ▸ h

/-- A deprecated feature is reported by one of two rules. -/
theorem isFinding_of_mem_reportDeprecated {since : UInt32}
    (hr : c.requirement.rules = [.deprecatedFeature, .deprecationNotice])
    (hd : d ∈ c.reportDeprecated ctx since) : c.IsFinding d := by
  unfold reportDeprecated at hd
  repeat' split at hd
  · exact List.mem_singleton.mp hd ▸ isFinding_violation (hr ▸ by decide) _ _
  · exact nomatch hd
  · exact List.mem_singleton.mp hd ▸ isFinding_report (hr ▸ by decide) _

/-- A request is reported by the warnings for extensions in use, or by its own rule and a line for
each candidate. -/
theorem isFinding_of_mem_reportExtensions {rule : Rule} {relaxed : Bool} {names : List String}
    (hn : c.requirement.requested? = some names)
    (hr : c.requirement.rules = [.extensionInUse, rule, .extensionCandidate])
    (hd : d ∈ c.reportExtensions rule relaxed a names) : c.IsFinding d := by
  have hnotes : c.requirement.requested? = none → d.notes = [] := fun h => nomatch hn.symm.trans h
  rw [reportExtensions_eq] at hd
  repeat' split at hd
  · exact nomatch hd
  · obtain ⟨n, -, h⟩ := List.mem_filterMap.mp hd
    have hin : .extensionInUse ∈ c.requirement.rules := by simp [hr]
    rcases eq_of_tolerance h with rfl | rfl
    · exact isFinding_report hin _
    · exact ⟨⟨_, hin, rfl, rfl⟩, rfl, rfl, hnotes, fun _ => ⟨rfl, rfl⟩⟩
  · rcases List.mem_cons.mp hd with rfl | hd
    · obtain ⟨reason, detail, h⟩ := exists_refusal_eq c rule names
      exact h ▸ isFinding_violation (by simp [hr]) reason detail
    · obtain ⟨n, -, rfl⟩ := exists_of_mem_candidates hd
      exact isFinding_report (by simp [hr]) n

/-- **One check.** What it reports follows the rules of its requirement. -/
theorem isFinding_of_mem_report (hd : d ∈ c.report ctx a) : c.IsFinding d := by
  unfold report at hd
  cases hr : c.requirement with
  | profile | stage | notRemoved | notForSpirv | notForVulkan | onlyForVulkan | onlyForSpirv =>
    rw [hr] at hd
    exact isFinding_demand (isFinding_violation (by simp [hr, Requirement.rules]) _ _) hd
  | availability =>
    simp only [hr] at hd
    split at hd
    · rw [reportAvailability_eq, ← violation_notAvailable] at hd
      rcases List.mem_append.mp hd with hd | hd
      · obtain ⟨n, -, rfl⟩ := List.mem_map.mp hd
        exact isFinding_report (by simp [hr, Requirement.rules]) _
      · exact isFinding_demand (isFinding_violation (by simp [hr, Requirement.rules]) _ _) hd
    · exact nomatch hd
  | notDeprecated =>
    simp only [hr] at hd
    split at hd
    · exact isFinding_of_mem_reportDeprecated (by simp [hr, Requirement.rules]) hd
    · exact nomatch hd
  | extensions | directiveExtensions =>
    rw [hr] at hd
    exact isFinding_of_mem_reportExtensions (by rw [hr]; rfl) (by rw [hr]; rfl) hd
  | implemented =>
    rw [hr] at hd
    exact List.mem_singleton.mp hd ▸ isFinding_violation (by simp [hr, Requirement.rules]) _ _

/-- No diagnostic of a check has the code of another rule. -/
theorem code_ne_of_mem_report (hd : d ∈ c.report ctx a) {code : String}
    (hcode : ∀ r ∈ c.requirement.rules, r.code ≠ code) : d.code ≠ code := by
  obtain ⟨r, hr, hfollows⟩ := (isFinding_of_mem_report hd).follows
  exact hfollows.code ▸ hcode r hr

end Check

end GlslCompliance
