import IncidentGate.Lib.TextPattern
import Mathlib.Data.Int.Notation

/-!
The record of a model call: whether a model output was involved, and how it was obtained.

A float is held by its `repr`, which determines it.
-/

namespace IncidentGate.Invocations

open Lib.TextPattern

/-! ### Floats -/

def isDigits (cs : List Char) : Bool := !cs.isEmpty && cs.all Char.isDigit

/-- The exponent of a `repr`: a sign and two digits at least. -/
def isExponent (cs : List Char) : Bool :=
  match cs with
  | [] => true
  | 'e' :: s :: ds => (s = '+' || s = '-') && isDigits ds && 2 ≤ ds.length
  | _ => false

/-- The shape of a finite float's `repr`: digits with a fraction, an exponent, or both, and no
zero before other digits. -/
def isFiniteRepr (cs : List Char) : Bool :=
  let cs := if cs.head? = some '-' then cs.drop 1 else cs
  let whole := cs.takeWhile Char.isDigit
  let rest := cs.dropWhile Char.isDigit
  (whole = ['0'] || isDigits whole && whole.head? ≠ some '0') && match rest with
    | '.' :: fraction => isDigits (fraction.takeWhile Char.isDigit) &&
        isExponent (fraction.dropWhile Char.isDigit)
    | [] => false
    | exponent => isExponent exponent

inductive PyFloat where
  | finite (repr : List Char) (ok : isFiniteRepr repr = true)
  | inf (negative : Bool)
  | nan
  deriving DecidableEq

namespace PyFloat

def isfinite : PyFloat → Bool
  | finite _ _ => true
  | _ => false

def isZero : PyFloat → Bool
  | finite r _ => r = "0.0".toList || r = "-0.0".toList
  | _ => false

/-- `x >= 0` -/
def nonneg : PyFloat → Bool
  | x@(finite r _) => x.isZero || r.head? ≠ some '-'
  | inf negative => !negative
  | nan => false

/-- `x == y`: the zeros are equal, and nothing equals a nan. -/
def eq (x y : PyFloat) : Bool := x ≠ nan && (x = y || (x.isZero && y.isZero))

end PyFloat

/-- `x == y` on optional floats. -/
def sameCost : Option PyFloat → Option PyFloat → Bool
  | none, none => true
  | some x, some y => x.eq y
  | _, _ => false

/-! ### Invocation records -/

inductive InvocationKind where
  | fixture_no_call
  | provider_call
  | cache_replay
  | disabled
  | local_weights_call
  deriving DecidableEq

def InvocationKind.value : InvocationKind → String
  | fixture_no_call => "fixture_no_call"
  | provider_call => "provider_call"
  | cache_replay => "cache_replay"
  | disabled => "disabled"
  | local_weights_call => "local_weights_call"

/-- Python's truth of an optional string. -/
def given (s : Option String) : Bool := s.any (· ≠ "")

structure InvocationFields where
  provider : Option String := none
  model : Option String := none
  invocation_kind : InvocationKind
  usage_source : Option String := none
  input_tokens : Option ℤ := none
  output_tokens : Option ℤ := none
  cost : Option PyFloat := none
  currency : Option String := none
  pricing_snapshot : Option String := none
  deriving DecidableEq

namespace InvocationFields

variable (r : InvocationFields)

def fields : Validator := do
  field "input_tokens" (r.input_tokens.all (0 ≤ ·))
  field "output_tokens" (r.output_tokens.all (0 ≤ ·))
  field "cost" (r.cost.all (·.nonneg))
  field "currency" (r.currency.all fun s => 1 ≤ s.length && s.length ≤ 8)

/-- Never fabricate usage or cost, and never lose usage a real call already incurred. -/
def provider_metrics_are_complete : Validator :=
  match r.invocation_kind with
  | .local_weights_call => do
    refuseIf (!given r.provider || !given r.model || !given r.usage_source)
      "a local weights call must name its provider, model and usage"
    refuseIf (r.input_tokens.isNone || r.output_tokens.isNone)
      "a local weights call must carry the usage it really incurred"
    refuseIf (r.cost.isSome || r.currency.isSome || r.pricing_snapshot.isSome)
      ("a local weights call has no vendor charge and must carry no cost, " ++
        "currency or pricing snapshot")
  | .provider_call => do
    refuseIf (!given r.provider || !given r.model || !given r.usage_source ||
        r.input_tokens.isNone || r.output_tokens.isNone || !given r.pricing_snapshot)
      "provider calls require complete provider usage and a pricing snapshot"
    refuseIf (r.cost.isNone != r.currency.isNone)
      "provider call cost and currency must be present or absent together"
  | kind => do
    refuseIf (r.input_tokens.isSome || r.output_tokens.isSome || r.cost.isSome ||
        r.currency.isSome || r.usage_source.isSome)
      "invocations without a provider call must not fabricate usage or cost"
    refuseIf (kind = .cache_replay && !(given r.provider && given r.model))
      "a cache replay must name the provider and model it replays"
    refuseIf ((kind = .fixture_no_call || kind = .disabled) && (given r.provider || given r.model))
      "an invocation that consulted no model must not name a provider or model"

def validate : Validator := do
  r.fields
  r.provider_metrics_are_complete

end InvocationFields

structure ModelInvocationRecord extends InvocationFields where
  valid : toInvocationFields.validate = .ok ()
  deriving DecidableEq

end IncidentGate.Invocations
