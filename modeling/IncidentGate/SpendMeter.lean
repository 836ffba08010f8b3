import IncidentGate.Invocations
import IncidentGate.PlannedCheckers
import Mathlib.Algebra.Order.Ring.Rat
import Mathlib.Tactic.Linarith

/-!
The meter around a completion transport: it counts and prices every attempt, and stops at
two caps.

Amounts are exact: a record holds its cost as a float, and `amount` gives what the float is
worth.
-/

namespace IncidentGate.SpendMeter

open Invocations
open PlannedCheckers (PyReal)

/-! ### The transport -/

/-- What a transport says under `bills_vendor`. -/
inductive Declaration where
  | missing
  | isFalse
  | other
  deriving DecidableEq

/-- Only a positive declaration of `False` exempts anything. -/
def transport_bills_a_vendor (declared : Declaration) : Bool := declared ≠ .isFalse

inductive Reply where
  | result (invocation : ModelInvocationRecord)
  /-- `ProviderPolicyRefusal` -/
  | policy_refusal (cost : Option PyFloat)
  /-- Any other exception. -/
  | raised

/-- A transport answers by the requests it had before. -/
structure Transport (ρ : Type) where
  bills_vendor : Declaration
  complete : List ρ → ρ → Reply

/-! ### The meter -/

inductive Error where
  | ValueError
  | unauthorized
  | call_cap (calls : ℕ) (max_calls : ℤ)
  | spend_cap (spent_usd : ℚ) (max_usd : PyReal)
  | billed_local
  | policy_refusal
  | raised

structure Caps (ρ : Type) where
  inner : Transport ρ
  max_calls : ℤ
  max_usd : PyReal
  authorized : Bool := false

structure Meter (ρ : Type) extends Caps ρ where
  calls : ℕ := 0
  provider_calls : ℕ := 0
  spent_usd : ℚ := 0
  local_calls : ℕ := 0
  unaccounted_calls : ℕ := 0
  policy_refusals : ℕ := 0

variable {ρ : Type}

/-- `__post_init__` -/
def construct (caps : Caps ρ) : Except Error (Meter ρ) :=
  if caps.max_calls < 0 || caps.max_usd.lt (.finite 0) then .error .ValueError
  else if !caps.authorized && transport_bills_a_vendor caps.inner.bills_vendor then
    .error .unauthorized
  else .ok { toCaps := caps }

namespace Meter

/-- Whether every attempt that reached the transport reported its own usage. -/
def spend_is_fully_accounted (m : Meter ρ) : Bool := m.unaccounted_calls = 0

end Meter

/-- `cost or 0.0` -/
def costOrZero (amount : PyFloat → ℚ) (cost : Option PyFloat) : ℚ := (cost.map amount).getD 0

/-- What the meter makes of a reply, the attempt being counted already. -/
def account (amount : PyFloat → ℚ) (m : Meter ρ) :
    Reply → Meter ρ × Except Error ModelInvocationRecord
  | .policy_refusal cost =>
    ({ m with
        provider_calls := m.provider_calls + 1
        policy_refusals := m.policy_refusals + 1
        spent_usd := m.spent_usd + costOrZero amount cost }, .error .policy_refusal)
  | .raised => ({ m with unaccounted_calls := m.unaccounted_calls + 1 }, .error .raised)
  | .result invocation =>
    match invocation.invocation_kind with
    | .provider_call =>
      ({ m with
          provider_calls := m.provider_calls + 1
          spent_usd := m.spent_usd + costOrZero amount invocation.cost }, .ok invocation)
    | .local_weights_call =>
      if invocation.cost.isSome || invocation.currency.isSome ||
          invocation.pricing_snapshot.isSome then (m, .error .billed_local)
      else ({ m with local_calls := m.local_calls + 1 }, .ok invocation)
    | _ => (m, .ok invocation)

/-- A meter and the attempts that reached its transport. -/
structure Run (ρ : Type) where
  meter : Meter ρ
  attempts : List (ρ × Reply)

/-- `complete`, with what it returns or raises. -/
def complete (amount : PyFloat → ℚ) (r : Run ρ) (request : ρ) :
    Run ρ × Except Error ModelInvocationRecord :=
  let m := r.meter
  if m.max_calls ≤ m.calls then (r, .error (.call_cap m.calls m.max_calls))
  else if m.max_usd.lt (.finite m.spent_usd) then
    (r, .error (.spend_cap m.spent_usd m.max_usd))
  else
    let reply := m.inner.complete (r.attempts.map (·.1)) request
    let accounted := account amount { m with calls := m.calls + 1 } reply
    ({ meter := accounted.1, attempts := r.attempts ++ [(request, reply)] }, accounted.2)

/-- The calls of a run, one after the other. -/
def runFrom (amount : PyFloat → ℚ) (r : Run ρ) (requests : List ρ) : Run ρ :=
  requests.foldl (fun r request => (complete amount r request).1) r

def run (amount : PyFloat → ℚ) (m : Meter ρ) (requests : List ρ) : Run ρ :=
  runFrom amount ⟨m, []⟩ requests

/-! ### What the meter is for -/

namespace Reply

variable (amount : PyFloat → ℚ)

def cost : Reply → Option ℚ
  | .result invocation => invocation.cost.map amount
  | .policy_refusal cost => cost.map amount
  | .raised => none

/-- A vendor may have billed the attempt. -/
def couldBill : Reply → Bool
  | .result invocation => invocation.invocation_kind = .provider_call
  | .policy_refusal _ | .raised => true

/-- A result of no call: a replay, a fixture or a disabled model. -/
def isUncalled : Reply → Bool
  | .result invocation =>
    invocation.invocation_kind ≠ .provider_call && invocation.invocation_kind ≠ .local_weights_call
  | _ => false

def isRaised : Reply → Bool
  | .raised => true
  | _ => false

end Reply

/-- What the attempts were reported to cost. -/
def total (amount : PyFloat → ℚ) (attempts : List (ρ × Reply)) : ℚ :=
  (attempts.map fun a => (a.2.cost amount).getD 0).sum

/-- What the last attempt with a cost was reported to cost. -/
def lastBilled (amount : PyFloat → ℚ) (attempts : List (ρ × Reply)) : ℚ :=
  (attempts.reverse.findSome? fun a => a.2.cost amount).getD 0

/-- The spending stands at the cap or below it. -/
def Within (max_usd : PyReal) (spent : ℚ) : Prop :=
  (PyReal.finite spent).lt max_usd ∨ (PyReal.finite spent).eq max_usd

/-- The meter bounds and accounts for every attempt. -/
structure Accounts (amount : PyFloat → ℚ) (r : Run ρ) : Prop where
  bounded : (r.attempts.length : ℤ) ≤ r.meter.max_calls
  within : ∀ n < r.attempts.length, Within r.meter.max_usd (total amount (r.attempts.take n))
  overshoot : ∀ cap, r.meter.max_usd = .finite cap →
    r.meter.spent_usd ≤ cap + lastBilled amount r.attempts
  calls : r.meter.calls = r.attempts.length
  kinds : r.meter.calls = r.meter.provider_calls + r.meter.local_calls +
    r.meter.unaccounted_calls + r.attempts.countP fun a => a.2.isUncalled
  spent : r.meter.spent_usd = total amount r.attempts
  accounted : r.meter.spend_is_fully_accounted = true →
    ∀ a ∈ r.attempts, a.2.couldBill = true → (a.2.cost amount).isSome
  authorized : r.attempts ≠ [] → r.meter.authorized = true ∨ r.meter.inner.bills_vendor = .isFalse

/-- An attempt that a vendor answered carries its cost. -/
def Reply.Priced (amount : PyFloat → ℚ) (reply : Reply) : Prop :=
  reply.couldBill = true → reply.isRaised = false → (reply.cost amount).isSome

/-! ### One call -/

lemma cost_eq_none {r : ModelInvocationRecord} (h : r.invocation_kind ≠ .provider_call) :
    r.cost = none := by
  have hvalid := r.valid
  simp only [InvocationFields.validate, Lib.TextPattern.bind_ok,
    InvocationFields.provider_metrics_are_complete] at hvalid
  obtain ⟨-, hmetrics⟩ := hvalid
  cases hkind : r.invocation_kind <;> simp_all

lemma local_without_price {r : ModelInvocationRecord}
    (h : r.invocation_kind = .local_weights_call) :
    (r.cost.isSome || r.currency.isSome || r.pricing_snapshot.isSome) = false := by
  have hvalid := r.valid
  simp only [InvocationFields.validate, Lib.TextPattern.bind_ok,
    InvocationFields.provider_metrics_are_complete, h] at hvalid
  obtain ⟨-, hmetrics⟩ := hvalid
  simp_all

variable {amount : PyFloat → ℚ}

/-- What the accounting of one reply does. -/
structure Accounted (amount : PyFloat → ℚ) (m m' : Meter ρ) (reply : Reply) : Prop where
  caps : m'.toCaps = m.toCaps
  calls : m'.calls = m.calls
  spent : m'.spent_usd = m.spent_usd + (reply.cost amount).getD 0
  unaccounted : m'.unaccounted_calls = m.unaccounted_calls + if reply.isRaised then 1 else 0
  kinds : m'.provider_calls + m'.local_calls + m'.unaccounted_calls +
      (if reply.isUncalled then 1 else 0) =
    m.provider_calls + m.local_calls + m.unaccounted_calls + 1

lemma account_spec (m : Meter ρ) (reply : Reply) :
    Accounted amount m (account amount m reply).1 reply := by
  cases reply with
  | policy_refusal cost =>
    constructor <;> simp [account, Reply.cost, costOrZero, Reply.isRaised, Reply.isUncalled]
    omega
  | raised =>
    constructor <;> simp [account, Reply.cost, Reply.isRaised, Reply.isUncalled]
    omega
  | result r =>
    by_cases hprovider : r.invocation_kind = .provider_call
    · constructor <;> simp [account, hprovider, Reply.cost, costOrZero, Reply.isRaised,
        Reply.isUncalled]
      omega
    have hcost := cost_eq_none hprovider
    by_cases hlocal : r.invocation_kind = .local_weights_call
    · have hfree : account amount m (.result r) =
          ({ m with local_calls := m.local_calls + 1 }, .ok r) := by
        simp only [account, hlocal, local_without_price hlocal]
        rfl
      constructor <;> simp [hfree, hlocal, hcost, Reply.cost, Reply.isRaised, Reply.isUncalled]
      omega
    · have huncalled : account amount m (.result r) = (m, .ok r) := by
        cases hkind : r.invocation_kind <;> simp_all [account]
      constructor <;> simp [huncalled, hcost, hprovider, hlocal, Reply.cost, Reply.isRaised,
        Reply.isUncalled]

/-! ### A run -/

/-- What holds of every run, whatever the transport answers. -/
structure Invariant (amount : PyFloat → ℚ) (caps : Caps ρ) (r : Run ρ) : Prop where
  kept : r.meter.toCaps = caps
  bounded : (r.attempts.length : ℤ) ≤ max caps.max_calls 0
  below : ∀ n < r.attempts.length,
    caps.max_usd.lt (.finite (total amount (r.attempts.take n))) = false
  overshoot : ∀ cap, caps.max_usd = .finite cap → 0 ≤ cap →
    r.meter.spent_usd ≤ cap + lastBilled amount r.attempts
  calls : r.meter.calls = r.attempts.length
  kinds : r.meter.calls = r.meter.provider_calls + r.meter.local_calls +
    r.meter.unaccounted_calls + r.attempts.countP fun a => a.2.isUncalled
  spent : r.meter.spent_usd = total amount r.attempts
  unaccounted : r.meter.unaccounted_calls = r.attempts.countP fun a => a.2.isRaised

lemma total_append (attempts : List (ρ × Reply)) (a : ρ × Reply) :
    total amount (attempts ++ [a]) = total amount attempts + (a.2.cost amount).getD 0 := by
  simp [total]

lemma lastBilled_append (attempts : List (ρ × Reply)) (a : ρ × Reply) :
    lastBilled amount (attempts ++ [a]) =
      (a.2.cost amount).getD (lastBilled amount attempts) := by
  rw [lastBilled, List.reverse_append, List.reverse_singleton, List.singleton_append,
    List.findSome?_cons]
  cases h : a.2.cost amount <;> simp [lastBilled]

variable {caps : Caps ρ} {r : Run ρ}

lemma Invariant.attempt (h : Invariant amount caps r) {m : Meter ρ} {request : ρ} {reply : Reply}
    (hcalls : (r.meter.calls : ℤ) < caps.max_calls)
    (hbelow : caps.max_usd.lt (.finite r.meter.spent_usd) = false)
    (hm : Accounted amount { r.meter with calls := r.meter.calls + 1 } m reply) :
    Invariant amount caps ⟨m, r.attempts ++ [(request, reply)]⟩ := by
  have hattempts := h.calls
  constructor
  · exact hm.caps.trans h.kept
  · simp only [List.length_append, List.length_singleton]
    omega
  · -- the cap was not passed before this call, by the test that let it through
    intro n hn
    simp only [List.length_append, List.length_singleton] at hn
    rcases Nat.lt_or_ge n r.attempts.length with hlt | hge
    · rw [List.take_append_of_le_length hlt.le]
      exact h.below n hlt
    · obtain rfl : n = r.attempts.length := by omega
      rw [List.take_left' rfl, ← h.spent]
      exact hbelow
  · -- the overshoot is at most what the last call cost
    intro cap hcap hnonneg
    have hspent : r.meter.spent_usd ≤ cap := by
      rw [hcap] at hbelow
      simpa [PyReal.lt] using hbelow
    rw [hm.spent, lastBilled_append]
    cases hcost : reply.cost amount with
    | none => simpa using h.overshoot cap hcap hnonneg
    | some c => simpa using hspent
  · rw [hm.calls, List.length_append, List.length_singleton, h.calls]
  · have hkinds := h.kinds
    have hstep := hm.kinds
    have hcount := hm.calls
    simp only [List.countP_append, List.countP_singleton] at hstep hcount ⊢
    omega
  · rw [hm.spent, h.spent, total_append]
  · rw [hm.unaccounted, h.unaccounted, List.countP_append, List.countP_singleton]

lemma Invariant.step (h : Invariant amount caps r) (request : ρ) :
    Invariant amount caps (complete amount r request).1 := by
  unfold complete
  simp only
  split
  · exact h
  split
  · exact h
  rename_i hcalls hspent
  rw [h.kept] at hcalls hspent
  exact h.attempt (by omega) (by simpa using hspent) (account_spec _ _)

lemma Invariant.runFrom (h : Invariant amount caps r) (requests : List ρ) :
    Invariant amount caps (runFrom amount r requests) := by
  induction requests generalizing r with
  | nil => exact h
  | cons request requests ih => exact ih (h.step request)

lemma Invariant.initial {m : Meter ρ} (h : construct caps = .ok m) :
    Invariant amount caps ⟨m, []⟩ := by
  unfold construct at h
  split at h
  · cases h
  split at h
  · cases h
  cases h
  refine ⟨rfl, by simp, by simp, fun cap _ hcap => ?_, rfl, rfl, by simp [total], rfl⟩
  simpa [lastBilled] using hcap

lemma attempts_begin (requests : List ρ) (r : Run ρ) :
    r.attempts <+: (runFrom amount r requests).attempts := by
  induction requests generalizing r with
  | nil => exact List.prefix_rfl
  | cons request requests ih =>
    refine List.IsPrefix.trans ?_ (ih (complete amount r request).1)
    unfold complete
    simp only
    split
    · exact List.prefix_rfl
    split
    · exact List.prefix_rfl
    · exact List.prefix_append _ _

lemma construct_ok {m : Meter ρ} (h : construct caps = .ok m) :
    m = { toCaps := caps } ∧ 0 ≤ caps.max_calls ∧ caps.max_usd.lt (.finite 0) = false ∧
      (caps.authorized = true ∨ caps.inner.bills_vendor = .isFalse) := by
  unfold construct at h
  split at h
  · cases h
  split at h
  · cases h
  · rename_i hcaps hauthorized
    cases h
    simp only [Bool.or_eq_true, decide_eq_true_eq, not_or, Bool.not_eq_true, not_lt] at hcaps
    refine ⟨rfl, hcaps.1, hcaps.2, ?_⟩
    by_cases hfree : caps.inner.bills_vendor = .isFalse
    · exact .inr hfree
    · simp only [transport_bills_a_vendor, hfree, ne_eq, not_false_eq_true, decide_true,
        Bool.and_true, Bool.not_eq_true', Bool.not_eq_false] at hauthorized
      exact .inl hauthorized

/-- A cap that no amount compares with stops no call. -/
lemma attempts_ne_nil_of_nan {m : Meter ρ} (h : construct caps = .ok m) {requests : List ρ}
    (hnan : caps.max_usd = .nan) (hrequests : requests ≠ []) (hcalls : caps.max_calls ≠ 0) :
    (run amount m requests).attempts ≠ [] := by
  obtain ⟨rfl, hnonneg, -, -⟩ := construct_ok h
  obtain ⟨request, rest, rfl⟩ := List.exists_cons_of_ne_nil hrequests
  have hfirst : (complete amount (⟨{ toCaps := caps }, []⟩ : Run ρ) request).1.attempts ≠ [] := by
    unfold complete
    simp only
    rw [if_neg (by simp only [Nat.cast_zero]; omega), if_neg (by simp [hnan, PyReal.lt])]
    simp
  intro hnil
  have hkept := @attempts_begin _ amount rest
    (complete amount (⟨{ toCaps := caps }, []⟩ : Run ρ) request).1
  rw [show (runFrom amount _ rest).attempts = [] from hnil] at hkept
  exact hfirst (List.prefix_nil.mp hkept)

/-- **The meter bounds and accounts for every attempt** of a run exactly where its cap is an
amount, or nothing is called, and every attempt that a vendor answered carries its cost, or
some attempt has been counted as unaccounted. -/
theorem accounts_iff (amount : PyFloat → ℚ) (caps : Caps ρ) (m : Meter ρ)
    (h : construct caps = .ok m) (requests : List ρ) :
    Accounts amount (run amount m requests) ↔
      (caps.max_usd = .nan → requests = [] ∨ caps.max_calls = 0) ∧
        ((∃ a ∈ (run amount m requests).attempts, a.2.isRaised = true) ∨
          ∀ a ∈ (run amount m requests).attempts, a.2.Priced amount) := by
  obtain ⟨hnew, hnonneg, hcap, hauthorized⟩ := construct_ok h
  have hinv : Invariant amount caps (run amount m requests) :=
    (Invariant.initial h).runFrom requests
  have hraised : (run amount m requests).meter.spend_is_fully_accounted = true ↔
      ∀ a ∈ (run amount m requests).attempts, a.2.isRaised = false := by
    rw [Meter.spend_is_fully_accounted, hinv.unaccounted]
    simp [List.countP_eq_zero]
  constructor
  · intro hacc
    refine ⟨fun hnan => ?_, ?_⟩
    · -- a NaN cap stops no call, and no amount is within it
      by_contra hcalled
      rw [not_or] at hcalled
      have hne := @attempts_ne_nil_of_nan _ amount _ _ h _ hnan hcalled.1 hcalled.2
      have hwithin := hacc.within 0 (List.length_pos_of_ne_nil hne)
      rw [hinv.kept, hnan] at hwithin
      simp [Within, PyReal.lt, PyReal.eq] at hwithin
    · by_cases hany : ∃ a ∈ (run amount m requests).attempts, a.2.isRaised = true
      · exact .inl hany
      · have hnone : ∀ b ∈ (run amount m requests).attempts, b.2.isRaised = false :=
          fun b hb => by simpa using fun hbraised => hany ⟨b, hb, hbraised⟩
        exact .inr fun a ha hbill _ => hacc.accounted (hraised.mpr hnone) a ha hbill
  · rintro ⟨hnan, hpriced⟩
    constructor
    · have := hinv.bounded
      rw [hinv.kept]
      omega
    · -- the spending was within the cap before each call
      intro n hn
      have hbelow := hinv.below n hn
      have hne : caps.max_usd ≠ .nan := by
        intro hcapnan
        rcases hnan hcapnan with rfl | hzero
        · simp [run, runFrom] at hn
        · have := hinv.bounded
          omega
      rw [hinv.kept]
      exact (PyReal.not_lt_iff hne (by simp)).mp hbelow
    · intro cap hcapeq
      rw [hinv.kept] at hcapeq
      refine hinv.overshoot cap hcapeq ?_
      rw [hcapeq] at hcap
      simpa [PyReal.lt] using hcap
    · exact hinv.calls
    · exact hinv.kinds
    · exact hinv.spent
    · -- a fully accounted run raised nothing, so each of its calls is priced
      intro hfull a ha hbill
      have hnone := hraised.mp hfull
      rcases hpriced with ⟨b, hb, hbraised⟩ | hall
      · simp [hnone b hb] at hbraised
      · exact hall a ha hbill (hnone a ha)
    · intro _
      rw [hinv.kept]
      exact hauthorized

/-- A call of a model that the named snapshot does not price. -/
def unpricedCall : ModelInvocationRecord where
  provider := some "openai"
  model := some "gpt-next"
  invocation_kind := .provider_call
  usage_source := some "openai_chat_completions_usage"
  input_tokens := some 900
  output_tokens := some 120
  pricing_snapshot := some "2026-08"
  valid := by decide

/-- A billing transport under one dollar and three calls. -/
def unpricedCaps : Caps Unit where
  inner := { bills_vendor := .other, complete := fun _ _ => .result unpricedCall }
  max_calls := 3
  max_usd := .finite 1
  authorized := true

lemma construct_unpriced : construct unpricedCaps = .ok { toCaps := unpricedCaps } := by
  unfold construct
  rw [if_neg (by simp [unpricedCaps, PyReal.lt]), if_neg (by simp [unpricedCaps])]

theorem accounts_iff_unpriced :
    Accounts (fun _ => 0) (run (fun _ => 0) { toCaps := unpricedCaps } [()]) ↔
      (unpricedCaps.max_usd = .nan → [()] = [] ∨ unpricedCaps.max_calls = 0) ∧
        ((∃ a ∈ (run (fun _ => 0) { toCaps := unpricedCaps } [()]).attempts,
            a.2.isRaised = true) ∨
          ∀ a ∈ (run (fun _ => 0) { toCaps := unpricedCaps } [()]).attempts,
            a.2.Priced fun _ => 0) :=
  accounts_iff _ unpricedCaps _ construct_unpriced [()]

/-- One call of an unpriced model: the spending is fully accounted and nothing was spent. -/
theorem unpriced_call_accounted :
    ∃ m, construct unpricedCaps = .ok m ∧
      (run (fun _ => 0) m [()]).attempts = [((), .result unpricedCall)] ∧
      (run (fun _ => 0) m [()]).meter.provider_calls = 1 ∧
      (run (fun _ => 0) m [()]).meter.spend_is_fully_accounted = true ∧
      ¬ Accounts (fun _ => 0) (run (fun _ => 0) m [()]) := by
  have hcap : (PyReal.finite 1).lt (.finite 0) = false := by decide
  have hrun : run (fun _ => 0) { toCaps := unpricedCaps } [()] =
      ⟨{ toCaps := unpricedCaps, calls := 1, provider_calls := 1 },
        [((), .result unpricedCall)]⟩ := by
    simp [run, runFrom, complete, unpricedCaps, hcap, account, unpricedCall, costOrZero]
  refine ⟨_, construct_unpriced, ?_⟩
  rw [hrun]
  refine ⟨rfl, rfl, rfl, fun hacc => ?_⟩
  have hcost := hacc.accounted rfl _ (List.mem_singleton.mpr rfl) rfl
  simp [Reply.cost, unpricedCall] at hcost

end IncidentGate.SpendMeter
