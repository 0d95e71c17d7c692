import Conformance.Cli.Program
import Conformance.Proofs.Run.ProgramRuns

namespace Conformance

lemma Instance.isSetup_of_open {t : Tree} {net : Network} {endpoint : Endpoint} {config : Config} {e : RunError}
    (h : Instance.open t net endpoint config = .error e) : e.isSetup = true := by
  rw [Instance.open] at h
  split at h
  · split at h <;> cases h
    rfl
  · rw [Instance.startServer] at h
    repeat' split at h
    all_goals cases h
    all_goals rfl

namespace Cli

variable {w : World} {plan : RunPlan} {x : Docker.Executions}

def Concludes (w : World) (plan : RunPlan) (x : Docker.Executions) (status : Int) : Prop :=
  ∃ ping, Instance.open w.tree w.network plan.endpoint plan.config = .ok ping ∧
    Docker.Concludes x w.tree plan.endpoint ping plan.request plan.config status

lemma exitCode_of_open {ping : Except ClientError Reply} (hs : plan.summary = none)
    (ho : Instance.open w.tree w.network plan.endpoint plan.config = .ok ping) :
    (conform w plan).exitCode =
      match (Cycle.run w.tree plan.endpoint ping (w.engine plan.engine) plan.request plan.config).outcome.bind
        Outcome.verdict with
      | .ok _ => 0
      | .error e => if e.isSetup then 2 else 1 := by
  rw [conform, ho]
  simp only
  cases (Cycle.run w.tree plan.endpoint ping (w.engine plan.engine) plan.request plan.config).outcome with
  | error e => rfl
  | ok o =>
    simp only [conclude, hs, conclude.judge, Except.bind]
    cases o.verdict <;> rfl

section Codes

variable (h : x.engine? plan.engine plan.endpoint plan.request plan.config = some (w.engine plan.engine))
include h

lemma Concludes.unique {status status' : Int} (hc : Concludes w plan x status) (hc' : Concludes w plan x status') :
    status = status' := by
  obtain ⟨ping, ho, hc⟩ := hc
  obtain ⟨ping', ho', hc'⟩ := hc'
  obtain rfl := Except.ok.inj (ho.symm.trans ho')
  exact hc.unique h hc'

variable (hs : plan.summary = none)
include hs

lemma exitCode_of_concludes {status : Int} (hc : Concludes w plan x status) :
    (conform w plan).exitCode = if status = 0 then 0 else 1 := by
  obtain ⟨ping, ho, hc⟩ := hc
  obtain ⟨hpass, hfail⟩ := Docker.run_verdict h w.tree ping
  rw [exitCode_of_open hs ho]
  split
  · next o hv => rw [if_pos (hc.unique h (hpass.mp ⟨o, hv⟩))]
  · next e hv =>
    have hne : status ≠ 0 := by
      rintro rfl
      obtain ⟨o, hok⟩ := hpass.mpr hc
      cases hv.symm.trans hok
    rw [(hfail e hv).mpr ⟨status, hne, hc⟩, if_neg hne]
    rfl

lemma exitCode_of_not_concludes (hno : ∀ status, ¬ Concludes w plan x status) : (conform w plan).exitCode = 2 := by
  cases ho : Instance.open w.tree w.network plan.endpoint plan.config with
  | error e =>
    rw [conform, ho]
    exact if_pos (Instance.isSetup_of_open ho)
  | ok ping =>
    obtain ⟨hpass, hfail⟩ := Docker.run_verdict h w.tree ping
    rw [exitCode_of_open hs ho]
    split
    · next o hv => exact absurd ⟨ping, ho, hpass.mp ⟨o, hv⟩⟩ (hno 0)
    · next e hv =>
      cases hsetup : e.isSetup with
      | true => rfl
      | false =>
        obtain ⟨status, -, hc⟩ := (hfail e hv).mp hsetup
        exact absurd ⟨ping, ho, hc⟩ (hno status)

/-- Where no summary is asked for, the exit code tells a run without a verdict from one with a bad verdict. -/
theorem exitCode_conform :
    ((conform w plan).exitCode = 0 ↔ Concludes w plan x 0) ∧
      ((conform w plan).exitCode = 1 ↔ ∃ status, status ≠ 0 ∧ Concludes w plan x status) ∧
      ((conform w plan).exitCode = 2 ↔ ∀ status, ¬ Concludes w plan x status) := by
  by_cases hall : ∀ status, ¬ Concludes w plan x status
  · simp [exitCode_of_not_concludes h hs hall, hall]
  · obtain ⟨status, hc⟩ := not_forall_not.mp hall
    have hstatus (status' : Int) : Concludes w plan x status' ↔ status' = status :=
      ⟨fun hc' => hc'.unique h hc, fun he => he ▸ hc⟩
    rw [exitCode_of_concludes h hs hc]
    simp only [hstatus]
    by_cases hz : status = 0
    · simp [hz]
    · simp [hz, Ne.symm hz]

end Codes

end Cli

end Conformance
