import Mathlib.Data.List.Basic

/-!
# NetworkManager's VPN plugin constants

The values the service's signals carry.
-/

namespace CrosswireNm.Service

inductive ServiceState
  | unknown
  | init
  | shutdown
  | starting
  | started
  | stopping
  | stopped
  deriving DecidableEq, Repr

inductive Failure
  | loginFailed
  | connectFailed
  | badIpConfig
  deriving DecidableEq, Repr

/-- The two signals the state machine emits. -/
inductive Signal
  | stateChanged (state : ServiceState)
  | failure (reason : Failure)
  deriving DecidableEq, Repr

end CrosswireNm.Service
