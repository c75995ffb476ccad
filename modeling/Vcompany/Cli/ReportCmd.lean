import Vcompany.Foundation.Text

/-! # The report command

`vco report` posts the status of an agent with the time of day and the agent's id, which it
reads from the environment.
-/

namespace Vcompany.Cli

open Foundation

/-- A time of day, in UTC. -/
structure ClockTime where
  hour : Fin 24
  minute : Fin 60
  second : Fin 60

/-- `%H`, `%M` or `%S`: two decimal digits. -/
def twoDigits (number : ℕ) : Text := [Nat.digitChar (number / 10), Nat.digitChar (number % 10)]

/-- `%H:%M:%S`. -/
def ClockTime.text (time : ClockTime) : Text :=
  twoDigits time.hour ++ [':'] ++ twoDigits time.minute ++ [':'] ++ twoDigits time.second

/-- The id by the variables `AGENT_ID` and `VCO_AGENT_ID`. -/
def reportingAgent (agentIdVar vcoAgentIdVar : Option Text) : Text :=
  agentIdVar.getD (vcoAgentIdVar.getD [])

/-- The message that `report` posts; none without an id. -/
def report (agentIdVar vcoAgentIdVar : Option Text) (status : List Text) (time : ClockTime) :
    Option Text :=
  let agentId := reportingAgent agentIdVar vcoAgentIdVar
  if agentId = [] then none
  else
    some (['`'] ++ time.text ++ "` **".toList ++ agentId ++ "**: ".toList ++
      [' '].intercalate status)

end Vcompany.Cli
