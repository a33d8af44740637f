import Groundwork.Component.Chart

/-!
# Removing what a unit runs

The command of `removeCommand` takes away what runs in the unit's namespace, with `helm` or with
`kubectl`, and the texts that excuse its failure are those of the tool that it runs.
-/

namespace Groundwork

/-- What the tools write when there is nothing to remove. -/
def benignTexts (program : String) : List String :=
  if program = "helm" then ["release: not found"]
  else if program = "kubectl" then ["(NotFound)", "no matches for kind"]
  else []

/-- The command takes away what runs in a namespace: it uninstalls a release or deletes what is in
a file. -/
def Invocation.Removes (id : String) (i : Invocation) : Prop :=
  (i.program = "helm" ∧ ∃ release, i.args = ["uninstall", release, "--namespace", id]) ∨
    i.program = "kubectl" ∧ ∃ file, i.args = ["delete", "--namespace", id, "--filename", file]

/-- The command succeeded, or it failed because there was nothing to do. -/
def CommandOutput.IsBenign (program : String) (o : CommandOutput) : Prop :=
  o.success = true ∨ o.mentions (benignTexts program) = true

theorem Engine.judgeOutput_eq_ok {i : Invocation} {benign : List String} {o o' : CommandOutput} :
    judgeOutput i benign o = .ok o' ↔
      o = o' ∧ (o.success = true ∨ o.mentions benign = true) := by
  unfold judgeOutput
  rw [← Bool.or_eq_true]
  split
  · rename_i h
    simp [h]
  · rename_i h
    simp [h]

namespace ChartUnit

variable (u : ChartUnit)

theorem removes_removeCommand : u.removeCommand.1.Removes u.spec.id := by
  unfold removeCommand
  split
  · exact Or.inr ⟨rfl, _, rfl⟩
  · exact Or.inl ⟨rfl, _, rfl⟩

theorem benignTexts_removeCommand :
    benignTexts u.removeCommand.1.program = u.removeCommand.2 := by
  unfold removeCommand
  split
  · rfl
  · rfl

end ChartUnit

end Groundwork
