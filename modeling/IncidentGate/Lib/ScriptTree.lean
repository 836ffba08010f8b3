import Mathlib.Tactic.Lemma

/-!
Programs as trees of questions to their environment.

A script returns, raises, or asks a question and goes on with the answer. Nothing here says
what a question means: a database, a clock or a dependency that may do anything each give
their own reading of the same tree.
-/

namespace IncidentGate.Lib.ScriptTree

variable {Q : Type} {A : Q → Type} {ε ε' ε'' α β γ : Type}

inductive Script (Q : Type) (A : Q → Type) (ε α : Type) where
  | ret (a : α)
  | raise (e : ε)
  | ask (q : Q) (k : A q → Script Q A ε α)

namespace Script

/-- Go on with the outcome of a script, whichever way it ended. -/
def elim : Script Q A ε α → (Except ε α → Script Q A ε' β) → Script Q A ε' β
  | ret a, f => f (.ok a)
  | raise e, f => f (.error e)
  | ask q k, f => ask q fun a => (k a).elim f

def bind (p : Script Q A ε α) (f : α → Script Q A ε β) : Script Q A ε β :=
  p.elim fun
    | .ok a => f a
    | .error e => raise e

/-- An exception handler around a script. -/
def handle (p : Script Q A ε α) (h : ε → Script Q A ε' α) : Script Q A ε' α :=
  p.elim fun
    | .ok a => ret a
    | .error e => h e

/-- The script that ends as an outcome says. -/
def ofExcept : Except ε α → Script Q A ε α
  | .ok a => ret a
  | .error e => raise e

def query (q : Q) : Script Q A ε (A q) := ask q ret

instance : Monad (Script Q A ε) where
  pure := ret
  bind := bind

/-- One script after the other for each element, in order. -/
def each (xs : List β) (f : β → Script Q A ε Unit) : Script Q A ε Unit :=
  match xs with
  | [] => ret ()
  | x :: xs => (f x).bind fun _ => each xs f

@[simp] lemma elim_ret (a : α) (f : Except ε α → Script Q A ε' β) :
    (ret a : Script Q A ε α).elim f = f (.ok a) := rfl

@[simp] lemma elim_raise (e : ε) (f : Except ε α → Script Q A ε' β) :
    (raise e : Script Q A ε α).elim f = f (.error e) := rfl

@[simp] lemma elim_ask (q : Q) (k : A q → Script Q A ε α) (f : Except ε α → Script Q A ε' β) :
    (ask q k).elim f = ask q fun a => (k a).elim f := rfl

@[simp] lemma pure_eq (a : α) : (pure a : Script Q A ε α) = ret a := rfl

@[simp] lemma bind_eq (p : Script Q A ε α) (f : α → Script Q A ε β) : p >>= f = p.bind f := rfl

@[simp] lemma bind_ret (a : α) (f : α → Script Q A ε β) : (ret a).bind f = f a := rfl

@[simp] lemma bind_raise (e : ε) (f : α → Script Q A ε β) : (raise e).bind f = raise e := rfl

@[simp] lemma bind_ask (q : Q) (k : A q → Script Q A ε α) (f : α → Script Q A ε β) :
    (ask q k).bind f = ask q fun a => (k a).bind f := rfl

@[simp] lemma handle_ret (a : α) (h : ε → Script Q A ε' α) : (ret a).handle h = ret a := rfl

@[simp] lemma handle_raise (e : ε) (h : ε → Script Q A ε' α) : (raise e).handle h = h e := rfl

@[simp] lemma ofExcept_ok (a : α) : (ofExcept (.ok a) : Script Q A ε α) = ret a := rfl

@[simp] lemma ofExcept_error (e : ε) : (ofExcept (.error e) : Script Q A ε α) = raise e := rfl

lemma elim_elim (p : Script Q A ε α) (f : Except ε α → Script Q A ε' β)
    (g : Except ε' β → Script Q A ε'' γ) :
    (p.elim f).elim g = p.elim fun r => (f r).elim g := by
  induction p with
  | ret a => rfl
  | raise e => rfl
  | ask q k ih => simp only [elim_ask, ih]

lemma elim_ofExcept (p : Script Q A ε α) : p.elim ofExcept = p := by
  induction p with
  | ret a => rfl
  | raise e => rfl
  | ask q k ih => simp only [elim_ask, ih]

@[simp] lemma bind_ret_self (p : Script Q A ε α) : p.bind ret = p := by
  refine Eq.trans ?_ (elim_ofExcept p)
  exact congrArg p.elim (funext fun r => by cases r <;> rfl)

lemma handle_eq_elim (p : Script Q A ε α) (h : ε → Script Q A ε' α) :
    p.handle h = p.elim fun | .ok a => ret a | .error e => h e := rfl

lemma bind_eq_elim (p : Script Q A ε α) (f : α → Script Q A ε β) :
    p.bind f = p.elim fun | .ok a => f a | .error e => raise e := rfl

/-! ### Questions and exceptions -/

/-- Every question the script can ever ask satisfies `P`, every exception it raises `R`. -/
def Within (P : Q → Prop) (R : ε → Prop) : Script Q A ε α → Prop
  | ret _ => True
  | raise e => R e
  | ask q k => P q ∧ ∀ a, (k a).Within P R

/-- Every question the script can ever ask satisfies `P`. -/
@[reducible] def Asks (P : Q → Prop) (p : Script Q A ε α) : Prop := p.Within P fun _ => True

variable {P : Q → Prop} {R : ε → Prop} {R' : ε' → Prop}

lemma Within.mono {P' : Q → Prop} {R' : ε → Prop} (hP : ∀ q, P q → P' q) (hR : ∀ e, R e → R' e)
    {p : Script Q A ε α} (hp : p.Within P R) : p.Within P' R' := by
  induction p with
  | ret a => trivial
  | raise e => exact hR e hp
  | ask q k ih => exact ⟨hP q hp.1, fun a => ih a (hp.2 a)⟩

lemma Within.asks {P' : Q → Prop} (hP : ∀ q, P q → P' q) {p : Script Q A ε α}
    (hp : p.Within P R) : p.Asks P' := hp.mono hP fun _ _ => trivial

lemma Within.elim {p : Script Q A ε α} {f : Except ε α → Script Q A ε' β} (hp : p.Within P R)
    (hok : ∀ a, (f (.ok a)).Within P R') (herror : ∀ e, R e → (f (.error e)).Within P R') :
    (p.elim f).Within P R' := by
  induction p with
  | ret a => exact hok a
  | raise e => exact herror e hp
  | ask q k ih => exact ⟨hp.1, fun a => ih a (hp.2 a)⟩

lemma Within.bind {p : Script Q A ε α} {f : α → Script Q A ε β} (hp : p.Within P R)
    (hf : ∀ a, (f a).Within P R) : (p.bind f).Within P R :=
  hp.elim hf fun _ he => he

lemma Within.each {xs : List β} {f : β → Script Q A ε Unit} (hf : ∀ x ∈ xs, (f x).Within P R) :
    (Script.each xs f).Within P R := by
  induction xs with
  | nil => trivial
  | cons x xs ih =>
    exact (hf x (List.mem_cons_self ..)).bind fun _ =>
      ih fun y hy => hf y (List.mem_cons_of_mem x hy)

/-- Every way the script can end satisfies `P`. -/
def Ends (P : Except ε α → Prop) : Script Q A ε α → Prop
  | ret a => P (.ok a)
  | raise e => P (.error e)
  | ask _ k => ∀ a, (k a).Ends P

lemma Ends.elim {P : Except ε α → Prop} {P' : Except ε' β → Prop} {p : Script Q A ε α}
    {f : Except ε α → Script Q A ε' β} (hp : p.Ends P) (hf : ∀ r, P r → (f r).Ends P') :
    (p.elim f).Ends P' := by
  induction p with
  | ret a => exact hf _ hp
  | raise e => exact hf _ hp
  | ask q k ih => exact fun a => ih a (hp a)

lemma ends_true (p : Script Q A ε α) : p.Ends fun _ => True := by
  induction p with
  | ret a => trivial
  | raise e => trivial
  | ask q k ih => exact ih

/-- A script that asks nothing more. -/
def Finished : Script Q A ε α → Prop
  | ask _ _ => False
  | _ => True

/-- The question is the last one of the script, wherever the script asks it. -/
def AsksLast (q : Q) : Script Q A ε α → Prop
  | ask q' k => ∀ a, (q' = q → (k a).Finished) ∧ (k a).AsksLast q
  | _ => True

lemma AsksLast.of_finished {q : Q} {p : Script Q A ε α} (h : p.Finished) : p.AsksLast q := by
  cases p with
  | ask q' k => exact False.elim h
  | _ => trivial

lemma AsksLast.elim_of_asks {q : Q} {p : Script Q A ε α} {f : Except ε α → Script Q A ε' β}
    (hp : p.Asks (· ≠ q)) (hf : ∀ r, (f r).AsksLast q) : (p.elim f).AsksLast q := by
  induction p with
  | ret a => exact hf _
  | raise e => exact hf _
  | ask q' k ih => exact fun a => ⟨fun h => absurd h hp.1, ih a (hp.2 a)⟩

lemma Finished.elim {p : Script Q A ε α} {f : Except ε α → Script Q A ε' β} (hp : p.Finished)
    (hf : ∀ r, (f r).Finished) : (p.elim f).Finished := by
  cases p with
  | ret a => exact hf _
  | raise e => exact hf _
  | ask q k => exact False.elim hp

lemma AsksLast.elim_of_finished {q : Q} {p : Script Q A ε α} {f : Except ε α → Script Q A ε' β}
    (hp : p.AsksLast q) (hf : ∀ r, (f r).Finished) : (p.elim f).AsksLast q := by
  induction p with
  | ret a => exact .of_finished (hf _)
  | raise e => exact .of_finished (hf _)
  | ask q' k ih => exact fun a => ⟨fun h => ((hp a).1 h).elim hf, ih a (hp a).2⟩

lemma Asks.elim {p : Script Q A ε α} {f : Except ε α → Script Q A ε' β} (hp : p.Asks P)
    (hf : ∀ r, (f r).Asks P) : (p.elim f).Asks P :=
  Within.elim hp (fun a => hf (.ok a)) fun e _ => hf (.error e)

lemma Asks.bind {p : Script Q A ε α} {f : α → Script Q A ε β} (hp : p.Asks P)
    (hf : ∀ a, (f a).Asks P) : (p.bind f).Asks P := Within.bind hp hf

lemma Asks.each {xs : List β} {f : β → Script Q A ε Unit} (hf : ∀ x ∈ xs, (f x).Asks P) :
    (Script.each xs f).Asks P := Within.each hf

end Script

end IncidentGate.Lib.ScriptTree
