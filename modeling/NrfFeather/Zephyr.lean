import Mathlib.Algebra.Group.Int.Defs
import Mathlib.Algebra.Group.Nat.Defs

/-!
# Common Zephyr types

Integer conversions, error codes and the sensor types that the samples and drivers share.
-/

namespace NrfFeather

/-! ## Error codes -/

def ENOENT : Int := 2
def EIO : Int := 5
def ENOMEM : Int := 12
def ENODEV : Int := 19
def EINVAL : Int := 22
def EBADMSG : Int := 77
def ECONNABORTED : Int := 113

/-! ## Integers -/

/-- The conversion to `int`. -/
def toInt (n : Nat) : Int := Int.bmod n (2 ^ 32)

/-! ## Sensors -/

/-- `struct sensor_value`. -/
structure SensorValue where
  val1 : Int
  val2 : Int
  deriving DecidableEq

/-- `enum sensor_channel`, as far as the drivers tell its values apart. -/
inductive SensorChannel where
  | voltage
  | all
  | other (chan : Nat)
  deriving DecidableEq

end NrfFeather
