import TickMachine.Failure
import TickMachine.Hardware
import TickMachine.Number

namespace TickMachine

/-- A rate that is kept between the least and the greatest one. -/
structure FixedRate where
  value : Number
deriving DecidableEq

namespace FixedRate

def ofNumber (value : Number) : FixedRate :=
  ⟨(value.max (.int Hardware.rateMin)).min (.int Hardware.rateMax)⟩

def default : FixedRate := ofNumber (.int Hardware.defaultRate)

end FixedRate

inductive RateControl where
  | fixed (r : FixedRate)
  /-- A number that is taken as it is. -/
  | free (value : Number)
  /-- Nothing stands behind the control. -/
  | disconnected
deriving DecidableEq

namespace RateControl

def rate : RateControl → Except Failure Number
  | fixed r => .ok r.value
  | free value => .ok value
  | disconnected => .error .disconnected

/-- The seconds between two instructions at a rate, which counts as at least one. -/
def intervalOf (rate : Number) : Except Failure Float :=
  match (rate.max (.int 1)).toFloat? with
  | some x => .ok (1.0 / x)
  | none => .error .tooLarge

def interval (c : RateControl) : Except Failure Float :=
  match c.rate with
  | .ok rate => intervalOf rate
  | .error e => .error e

end RateControl
end TickMachine
