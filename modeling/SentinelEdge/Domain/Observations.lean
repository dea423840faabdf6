import SentinelEdge.Domain.Enums
import SentinelEdge.Domain.Platform
import SentinelEdge.Foundation.Dict

/-! # Observations

An observation as the collector hands it on: the compatibility dictionaries
`values` and `units`, and the measurements that repeat them with their
semantics. Floats are rational numbers.
-/

namespace SentinelEdge.Domain

open Foundation

inductive MeasurementQuality where
  | valid | suspect | invalid | missing
  deriving DecidableEq, Repr

def MeasurementQuality.value : MeasurementQuality → String
  | .valid => "valid"
  | .suspect => "suspect"
  | .invalid => "invalid"
  | .missing => "missing"

inductive MeasurementStatistic where
  | instantaneous | rate | accumulation | mean | rms | change
  deriving DecidableEq, Repr

structure MeasurementValue where
  observedPropertyId : String
  value : ℚ
  unit : String
  quality : MeasurementQuality := .valid
  uncertainty : Option ℚ := none
  statistic : MeasurementStatistic
  axis : Option String := none
  orientation : Option String := none
  reference : Option String := none
  sourceValueKey : String
  deriving DecidableEq

structure Observation where
  observationId : UUID
  correlationId : UUID
  sourceId : String
  hazard : HazardKind
  sourceMode : SourceMode
  bootId : String
  observedAt : DateTime
  receivedAt : DateTime
  values : Dict String ℚ
  units : Dict String String
  qualityFlags : List String
  sourceLineage : String
  clockEpoch : Nat
  measurements : List MeasurementValue

/-- `capture_age_ms`; times are in microseconds. -/
def Observation.captureAgeMs (o : Observation) : ℚ := max 0 ((o.receivedAt - o.observedAt : Int) / 1000)

end SentinelEdge.Domain
