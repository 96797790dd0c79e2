import DefinedQuant.Lib.Codec

/-!
# Semantic ports

The closed semantic contract that a dataset column may carry. Each dimension is a vocabulary of its
own; a port is valid when its cardinality is the one that its shape requires.
-/

namespace Protocol

open Json

/-- `PortDirection` -/
inductive PortDirection where
  | input
  | output
  deriving DecidableEq

def PortDirection.value : PortDirection → String
  | .input => "input"
  | .output => "output"

def PortDirection.codec : Codec PortDirection :=
  .enum [.input, .output] value (by intro a; cases a <;> simp [value])

/-- `PortConcept` -/
inductive PortConcept where
  | priceSeries
  | priceAdjustmentKind
  | periodicReturnSeries
  | returnConvention
  | annualizationFactor
  | periodicVolatility
  | annualizedVolatility
  | rebasedPriceIndexSeries
  | drawdownSeries
  | maximumDrawdown
  deriving DecidableEq

def PortConcept.value : PortConcept → String
  | .priceSeries => "price_series"
  | .priceAdjustmentKind => "price_adjustment_kind"
  | .periodicReturnSeries => "periodic_return_series"
  | .returnConvention => "return_convention"
  | .annualizationFactor => "annualization_factor"
  | .periodicVolatility => "periodic_volatility"
  | .annualizedVolatility => "annualized_volatility"
  | .rebasedPriceIndexSeries => "rebased_price_index_series"
  | .drawdownSeries => "drawdown_series"
  | .maximumDrawdown => "maximum_drawdown"

def PortConcept.codec : Codec PortConcept :=
  .enum [.priceSeries, .priceAdjustmentKind, .periodicReturnSeries, .returnConvention,
    .annualizationFactor, .periodicVolatility, .annualizedVolatility, .rebasedPriceIndexSeries,
    .drawdownSeries, .maximumDrawdown] value (by intro a; cases a <;> simp [value])

/-- `PortUnit` -/
inductive PortUnit where
  | price
  | decimal
  | unitless
  | volatility
  deriving DecidableEq

def PortUnit.value : PortUnit → String
  | .price => "price"
  | .decimal => "decimal"
  | .unitless => "unitless"
  | .volatility => "volatility"

def PortUnit.codec : Codec PortUnit :=
  .enum [.price, .decimal, .unitless, .volatility] value (by intro a; cases a <;> simp [value])

/-- `PortShape` -/
inductive PortShape where
  | scalar
  | orderedSeries
  deriving DecidableEq

def PortShape.value : PortShape → String
  | .scalar => "scalar"
  | .orderedSeries => "ordered_series"

def PortShape.codec : Codec PortShape :=
  .enum [.scalar, .orderedSeries] value (by intro a; cases a <;> simp [value])

/-- `PortCardinality` -/
inductive PortCardinality where
  | exactlyOne
  | oneOrMore
  deriving DecidableEq

def PortCardinality.value : PortCardinality → String
  | .exactlyOne => "exactly_one"
  | .oneOrMore => "one_or_more"

def PortCardinality.codec : Codec PortCardinality :=
  .enum [.exactlyOne, .oneOrMore] value (by intro a; cases a <;> simp [value])

/-- `PortConvention` -/
inductive PortConvention where
  | orderedPositivePrices
  | adjustedOrUnadjustedPriceKind
  | simplePeriodicReturn
  | logPeriodicReturn
  | explicitPeriodsPerYearFactor
  | sampleStandardDeviation
  | sampleStandardDeviationSquareRootAnnualization
  | explicitBaseObservationRebasing
  | runningPeakDrawdown
  | rollingSampleStandardDeviation
  | rollingSampleStandardDeviationSquareRootAnnualization
  deriving DecidableEq

def PortConvention.value : PortConvention → String
  | .orderedPositivePrices => "ordered_positive_prices"
  | .adjustedOrUnadjustedPriceKind => "adjusted_or_unadjusted_price_kind"
  | .simplePeriodicReturn => "simple_periodic_return"
  | .logPeriodicReturn => "log_periodic_return"
  | .explicitPeriodsPerYearFactor => "explicit_periods_per_year_factor"
  | .sampleStandardDeviation => "sample_standard_deviation_n_minus_1"
  | .sampleStandardDeviationSquareRootAnnualization =>
      "sample_standard_deviation_n_minus_1_square_root_annualization"
  | .explicitBaseObservationRebasing => "explicit_base_observation_rebasing"
  | .runningPeakDrawdown => "running_peak_drawdown"
  | .rollingSampleStandardDeviation => "rolling_sample_standard_deviation_n_minus_1"
  | .rollingSampleStandardDeviationSquareRootAnnualization =>
      "rolling_sample_standard_deviation_n_minus_1_square_root_annualization"

def PortConvention.codec : Codec PortConvention :=
  .enum [.orderedPositivePrices, .adjustedOrUnadjustedPriceKind, .simplePeriodicReturn,
    .logPeriodicReturn, .explicitPeriodsPerYearFactor, .sampleStandardDeviation,
    .sampleStandardDeviationSquareRootAnnualization, .explicitBaseObservationRebasing,
    .runningPeakDrawdown, .rollingSampleStandardDeviation,
    .rollingSampleStandardDeviationSquareRootAnnualization] value
    (by intro a; cases a <;> simp [value])

/-- `PortOrdering` -/
inductive PortOrdering where
  | notApplicable
  | preserveSourceOrder
  deriving DecidableEq

def PortOrdering.value : PortOrdering → String
  | .notApplicable => "not_applicable"
  | .preserveSourceOrder => "preserve_source_order"

def PortOrdering.codec : Codec PortOrdering :=
  .enum [.notApplicable, .preserveSourceOrder] value (by intro a; cases a <;> simp [value])

/-- `PortFrequency` -/
inductive PortFrequency where
  | notApplicable
  | inherited
  | monthly
  | annual
  deriving DecidableEq

def PortFrequency.value : PortFrequency → String
  | .notApplicable => "not_applicable"
  | .inherited => "inherited"
  | .monthly => "monthly"
  | .annual => "annual"

def PortFrequency.codec : Codec PortFrequency :=
  .enum [.notApplicable, .inherited, .monthly, .annual] value (by intro a; cases a <;> simp [value])

/-- `PortProvenanceRequirement` -/
inductive PortProvenanceRequirement where
  | notRequired
  | sourceBound
  | componentBound
  | sourceOrComponentBound
  deriving DecidableEq

def PortProvenanceRequirement.value : PortProvenanceRequirement → String
  | .notRequired => "not_required"
  | .sourceBound => "source_bound"
  | .componentBound => "component_bound"
  | .sourceOrComponentBound => "source_or_component_bound"

def PortProvenanceRequirement.codec : Codec PortProvenanceRequirement :=
  .enum [.notRequired, .sourceBound, .componentBound, .sourceOrComponentBound] value
    (by intro a; cases a <;> simp [value])

/-- The fields of `SemanticPort`. -/
structure SemanticPortFields where
  direction : PortDirection
  concept : PortConcept
  unit : PortUnit
  shape : PortShape
  cardinality : PortCardinality
  convention : PortConvention
  ordering : PortOrdering
  frequency : PortFrequency
  provenanceRequirement : PortProvenanceRequirement
  deriving DecidableEq

def SemanticPortFields.fields : Fields SemanticPortFields :=
  (Fields.and (.required "direction" PortDirection.codec)
    (.and (.required "concept" PortConcept.codec)
    (.and (.required "unit" PortUnit.codec)
    (.and (.required "shape" PortShape.codec)
    (.and (.required "cardinality" PortCardinality.codec)
    (.and (.required "convention" PortConvention.codec)
    (.and (.required "ordering" PortOrdering.codec)
    (.and (.required "frequency" PortFrequency.codec)
      (.required "provenance_requirement" PortProvenanceRequirement.codec)
    (by decide)) (by decide)) (by decide)) (by decide)) (by decide)) (by decide)) (by decide))
    (by decide)).iso
    (fun (a, b, c, d, e, f, g, h, i) => ⟨a, b, c, d, e, f, g, h, i⟩)
    (fun p => (p.direction, p.concept, p.unit, p.shape, p.cardinality, p.convention, p.ordering,
      p.frequency, p.provenanceRequirement))
    (fun _ => rfl)

/-- `validate_shape_cardinality` -/
def SemanticPortFields.validateShapeCardinality (self : SemanticPortFields) :
    Except ValueError Unit :=
  let expected : PortCardinality := if self.shape = .scalar then .exactlyOne else .oneOrMore
  if self.cardinality ≠ expected then
    .error ⟨self.shape.value ++ " semantic port requires " ++ expected.value ++ " cardinality"⟩
  else .ok ()

/-- `SemanticPort` -/
abbrev SemanticPort := {p : SemanticPortFields // p.validateShapeCardinality = .ok ()}

def SemanticPort.codec : Codec SemanticPort :=
  (Codec.object SemanticPortFields.fields).validated SemanticPortFields.validateShapeCardinality

/-- `PortDimension` -/
inductive PortDimension where
  | concept
  | unit
  | shape
  | cardinality
  | convention
  | ordering
  | frequency
  | provenanceRequirement
  deriving DecidableEq

def PortDimension.value : PortDimension → String
  | .concept => "concept"
  | .unit => "unit"
  | .shape => "shape"
  | .cardinality => "cardinality"
  | .convention => "convention"
  | .ordering => "ordering"
  | .frequency => "frequency"
  | .provenanceRequirement => "provenance_requirement"

/-- The dimensions, in the order in which they are compared. -/
def PortDimension.all : List PortDimension :=
  [.concept, .unit, .shape, .cardinality, .convention, .ordering, .frequency,
    .provenanceRequirement]

def PortDimension.codec : Codec PortDimension :=
  .enum all value (by intro a; cases a <;> simp [all, value])

/-- `_VALUES_BY_DIMENSION`, as a test -/
def PortDimension.allows (dimension : PortDimension) (value : Text) : Bool :=
  match dimension with
  | .concept => (PortConcept.codec.decode (.str value)).isOk
  | .unit => (PortUnit.codec.decode (.str value)).isOk
  | .shape => (PortShape.codec.decode (.str value)).isOk
  | .cardinality => (PortCardinality.codec.decode (.str value)).isOk
  | .convention => (PortConvention.codec.decode (.str value)).isOk
  | .ordering => (PortOrdering.codec.decode (.str value)).isOk
  | .frequency => (PortFrequency.codec.decode (.str value)).isOk
  | .provenanceRequirement => (PortProvenanceRequirement.codec.decode (.str value)).isOk

/-- `PortValue` -/
abbrev PortValue := {t : Text // PortDimension.all.any (fun d => d.allows t) = true}

def PortValue.codec : Codec PortValue :=
  .text (fun t => PortDimension.all.any (fun d => d.allows t)) "Input should be a port value"

/-- The fields of `PortDifference`. -/
structure PortDifferenceFields where
  dimension : PortDimension
  producerValue : PortValue
  consumerValue : PortValue
  deriving DecidableEq

def PortDifferenceFields.fields : Fields PortDifferenceFields :=
  (Fields.and (.required "dimension" PortDimension.codec)
    (.and (.required "producer_value" PortValue.codec)
      (.required "consumer_value" PortValue.codec) (by decide)) (by decide)).iso
    (fun (a, b, c) => ⟨a, b, c⟩) (fun p => (p.dimension, p.producerValue, p.consumerValue))
    (fun _ => rfl)

/-- `validate_dimension_values` -/
def PortDifferenceFields.validateDimensionValues (self : PortDifferenceFields) :
    Except ValueError Unit :=
  if self.dimension.allows self.producerValue.1 = false then
    .error ⟨"producer value does not belong to the declared dimension"⟩
  else if self.dimension.allows self.consumerValue.1 = false then
    .error ⟨"consumer value does not belong to the declared dimension"⟩
  else if self.producerValue.1 = self.consumerValue.1 then
    .error ⟨"a semantic-port difference must contain distinct values"⟩
  else .ok ()

/-- `PortDifference` -/
abbrev PortDifference := {p : PortDifferenceFields // p.validateDimensionValues = .ok ()}

def PortDifference.codec : Codec PortDifference :=
  (Codec.object PortDifferenceFields.fields).validated PortDifferenceFields.validateDimensionValues

end Protocol
