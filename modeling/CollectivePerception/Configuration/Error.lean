/-
This file names the causes for which a configuration is rejected, and words them.
-/

import CollectivePerception.Decimal
import CollectivePerception.Station

namespace CollectivePerception

/-- A collaborator that a configuration may require. -/
inductive Facility
  | throttle
  | channelProbe
deriving DecidableEq, Repr

def Facility.name : Facility → String
  | throttle => "transmit rate throttle"
  | channelProbe => "channel probe"

/-- Why a setting has an unusable value. -/
inductive SettingFault
  | zero
  /-- A threshold of a rule must be positive and finite. -/
  | notPositiveNumber (value : Float)
  /-- A measure of the scenario must be positive and finite. -/
  | notPositive (value : Float)
  /-- The upper bound of the generation interval lies below the lower one. -/
  | belowMinimum (value minimum : Nat)
  | outsideUnitInterval (value : Float)
  | outsideHalfTurn (degrees : Float)
  /-- The sensor category is fed by messages. -/
  | notOnBoard (category : SensorCategory)
  | noVehicle

def SettingFault.reason : SettingFault → String
  | zero => "must be greater than zero"
  | notPositiveNumber value => "must be a positive number, got " ++ Decimal.plain.write value
  | notPositive value => "must be positive, got " ++ Decimal.plain.write value
  | belowMinimum value minimum => s!"{value} is below gen_cpm_min_ms ({minimum})"
  | outsideUnitInterval value => "must lie within 0..=1, got " ++ Decimal.plain.write value
  | outsideHalfTurn degrees => "must lie within 0..=180, got " ++ Decimal.plain.write degrees
  | notOnBoard category => Named.name category ++ " is not an on-board sensor"
  | noVehicle => "at least one vehicle is required"

/-- Why a configuration is rejected. -/
inductive ConfigurationError
  /-- The text is no document, or the document does not describe a configuration. -/
  | unreadable (cause : String)
  | setting (name : String) (fault : SettingFault)
  | missing (facility : Facility)

def ConfigurationError.message : ConfigurationError → String
  | unreadable cause => "Failed to parse configuration: " ++ cause
  | setting name fault => "Invalid value for " ++ name ++ ": " ++ fault.reason
  | missing facility => "Required facility missing: " ++ facility.name

/-- Accepts if a condition holds, and rejects a setting otherwise. -/
def requireSetting (condition : Bool) (name : String) (fault : SettingFault) :
    Except ConfigurationError Unit :=
  if condition then .ok () else .error (.setting name fault)

/-- Whether a number is finite and greater than zero. -/
def isPositive (value : Float) : Bool := value.isFinite && 0.0 < value

end CollectivePerception
