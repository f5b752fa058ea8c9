import PnC.Guarantees.PasswordSearch
import PnC.Source.PwdConfig
import PnC.Source.PwdResume

/-!
# A password search over many runs of the producer

A search is stopped, and resumed from its final checkpoint, any number of times, with other
consumers each time. Where every run was stopped when all that it had sent had been tried, the
runs together try the enumeration from its first word on without a gap: when the generator
of the last run is exhausted, every word over the enabled characters has been refused. Each
message of a producer is one step.
-/
namespace PnC.Guarantees.SearchCampaign

open PnC.Library PnC.Source PasswordSearch

/-- One run of the producer with the consumers that it had. -/
structure Generation where
  fleet : Nat → ConsumerProgram
  libs : Nat → LibArchive
  events : List DeploymentEvent
  final : Deployment PwdState

namespace Generation

/-- Some consumer of the run has refused the password. -/
def Refuses (g : Generation) (password : String) : Prop :=
  ∃ n link, g.final.links n = some link ∧
    (verdict g.libs n link password).error = .wrongPassword

end Generation

variable {config : Option Json} {first : PwdState} {earlier : List Generation}
  {p : Producer PwdState}

/-- Digits only, from the first word on. -/
def digits : PwdConfig := ⟨false, false, true, false, 10, ""⟩

end PnC.Guarantees.SearchCampaign
