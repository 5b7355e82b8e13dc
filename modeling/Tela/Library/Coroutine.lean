import Mathlib.Tactic

/-!
# Coroutines

A coroutine alternates synchronous acts, which run to completion, with waits, at
which it hands control back. A wait ends with a result or with an exception; a
timed wait may also lapse. Cancellation is an exception like any other, so a
coroutine may catch it and go on.
-/

namespace Coop

/-- The acts and waits a coroutine may use, with the type each one yields. -/
structure Sig where
  Act : Type
  Val : Act → Type
  Wait : Type
  Res : Wait → Type

/-- A coroutine over `S` that raises `ε` and returns `α`. -/
inductive Coro (S : Sig) (ε α : Type) : Type
  | ret (value : α)
  | raise (exc : ε)
  | act (act : S.Act) (next : S.Val act → Coro S ε α)
  | wait (w : S.Wait) (next : Except ε (S.Res w) → Coro S ε α)
  | timed (w : S.Wait) (limit : Nat) (next : Except ε (S.Res w) → Coro S ε α)
      (lapse : Coro S ε α)

namespace Coro

variable {S : Sig} {ε α β : Type}

def bind : Coro S ε α → (α → Coro S ε β) → Coro S ε β
  | ret value, rest => rest value
  | raise exc, _ => raise exc
  | act a next, rest => act a fun v => (next v).bind rest
  | wait w next, rest => wait w fun r => (next r).bind rest
  | timed w limit next lapse, rest =>
      timed w limit (fun r => (next r).bind rest) (lapse.bind rest)

instance : Monad (Coro S ε) where
  pure := ret
  bind := bind

@[simp] theorem pure_eq (value : α) : (pure value : Coro S ε α) = ret value := rfl

@[simp] theorem bind_eq (x : Coro S ε α) (rest : α → Coro S ε β) : x >>= rest = x.bind rest :=
  rfl

/-- Run a coroutine and hand back how it ended. -/
def attempt : Coro S ε α → Coro S ε (Except ε α)
  | ret value => ret (.ok value)
  | raise exc => ret (.error exc)
  | act a next => act a fun v => (next v).attempt
  | wait w next => wait w fun r => (next r).attempt
  | timed w limit next lapse => timed w limit (fun r => (next r).attempt) lapse.attempt

def ofExcept : Except ε α → Coro S ε α
  | .ok value => ret value
  | .error exc => raise exc

/-- Run `final` however `x` ends, then end as `x` did. -/
def ensure (x : Coro S ε α) (final : Coro S ε Unit) : Coro S ε α :=
  x.attempt.bind fun outcome => final.bind fun _ => ofExcept outcome

/-- Replace every exception that leaves the coroutine. -/
def mapRaise (escape : ε → ε) : Coro S ε α → Coro S ε α
  | ret value => ret value
  | raise exc => raise (escape exc)
  | act a next => act a fun v => (next v).mapRaise escape
  | wait w next => wait w fun r => (next r).mapRaise escape
  | timed w limit next lapse =>
      timed w limit (fun r => (next r).mapRaise escape) (lapse.mapRaise escape)

/--
Bound every wait of a coroutine by `limit`. When the limit lapses, the pending
wait ends with `cancelled`; whatever exception then leaves the body passes through
`escape`. The limit lapses at most once.
-/
def within (limit : Nat) (cancelled : ε) (escape : ε → ε) : Coro S ε α → Coro S ε α
  | ret value => ret value
  | raise exc => raise exc
  | act a next => act a fun v => (next v).within limit cancelled escape
  | wait w next =>
      timed w limit (fun r => (next r).within limit cancelled escape)
        ((next (.error cancelled)).mapRaise escape)
  | timed w inner next lapse =>
      if inner ≤ limit then
        timed w inner (fun r => (next r).within limit cancelled escape)
          (lapse.within limit cancelled escape)
      else
        timed w limit (fun r => (next r).within limit cancelled escape)
          ((next (.error cancelled)).mapRaise escape)

/-- Perform one act and return what it yields. -/
def perform (a : S.Act) : Coro S ε (S.Val a) := act a ret

/-- Wait, and raise the exception when the wait ends with one. -/
def await (w : S.Wait) : Coro S ε (S.Res w) := wait w ofExcept

/-! ## Running a coroutine at once -/

section Run

variable {σ : Type} (exec : (a : S.Act) → σ → S.Val a × σ)
  (answer : (w : S.Wait) → σ → Except ε (S.Res w) × σ)

/-- Run a coroutine on a state that answers every wait at once. -/
def run : Coro S ε α → σ → Except ε α × σ
  | ret value, s => (.ok value, s)
  | raise exc, s => (.error exc, s)
  | act a next, s => (next (exec a s).1).run (exec a s).2
  | wait w next, s => (next (answer w s).1).run (answer w s).2
  | timed w _ next _, s => (next (answer w s).1).run (answer w s).2

/-- What follows a part of a coroutine that has been run. -/
def after (rest : α → Coro S ε β) : Except ε α × σ → Except ε β × σ
  | (.ok value, s) => (rest value).run exec answer s
  | (.error exc, s) => (.error exc, s)

theorem run_bind (x : Coro S ε α) (rest : α → Coro S ε β) (s : σ) :
    (x.bind rest).run exec answer s = after exec answer rest (x.run exec answer s) := by
  induction x generalizing s with
  | ret value => rfl
  | raise exc => rfl
  | act a next ih => exact ih _ _
  | wait w next ih => exact ih _ _
  | timed w limit next lapse ih ihLapse => exact ih _ _

theorem run_attempt (x : Coro S ε α) (s : σ) :
    x.attempt.run exec answer s = (.ok (x.run exec answer s).1, (x.run exec answer s).2) := by
  induction x generalizing s with
  | ret value => rfl
  | raise exc => rfl
  | act a next ih => exact ih _ _
  | wait w next ih => exact ih _ _
  | timed w limit next lapse ih ihLapse => exact ih _ _

theorem run_await (w : S.Wait) (s : σ) :
    (await w : Coro S ε (S.Res w)).run exec answer s = answer w s := by
  change (ofExcept (answer w s).1).run exec answer (answer w s).2 = _
  cases answer w s with
  | mk outcome s' =>
      cases outcome with
      | ok value => rfl
      | error exc => rfl

end Run

end Coro

end Coop
