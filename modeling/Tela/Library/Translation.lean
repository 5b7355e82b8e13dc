import Tela.Library.Monitor

/-!
# Coroutines over other coroutines

A coroutine whose acts and waits are carried out by coroutines of a lower level. What
each of these keeps, the whole keeps.
-/

namespace Coop

variable {S S' : Sig} {ε : Type}

namespace Coro

/-- Carry out every act and wait by a coroutine; time limits are not kept. -/
def translate (onAct : (a : S.Act) → Coro S' ε (S.Val a))
    (onWait : (w : S.Wait) → Coro S' ε (S.Res w)) {α : Type} : Coro S ε α → Coro S' ε α
  | ret value => ret value
  | raise exc => raise exc
  | act a next => (onAct a).bind fun v => (next v).translate onAct onWait
  | wait w next => (onWait w).attempt.bind fun r => (next r).translate onAct onWait
  | timed w _ next _ => (onWait w).attempt.bind fun r => (next r).translate onAct onWait

end Coro

/-- A condition that each part keeps is kept by the whole. -/
theorem Follows.translate {G α : Type} {M : Monitor S' G} {keep : G → Prop}
    {onAct : (a : S.Act) → Coro S' ε (S.Val a)} {onWait : (w : S.Wait) → Coro S' ε (S.Res w)}
    (acts : ∀ a g, keep g → Follows M (fun _ => keep) (fun _ => keep) (onAct a) g)
    (waits : ∀ w g, keep g → Follows M (fun _ => keep) (fun _ => keep) (onWait w) g)
    (x : Coro S ε α) {g : G} (kept : keep g) :
    Follows M (fun _ => keep) (fun _ => keep) (x.translate onAct onWait) g := by
  have carried {w : S.Wait} {next : Except ε (S.Res w) → Coro S ε α} {g : G} (kept : keep g)
      (ih : ∀ r g, keep g →
        Follows M (fun _ => keep) (fun _ => keep) ((next r).translate onAct onWait) g) :
      Follows M (fun _ => keep) (fun _ => keep)
        ((onWait w).attempt.bind fun r => (next r).translate onAct onWait) g :=
    bind_iff.mpr (attempt_iff.mpr ((waits w g kept).mono (fun _ => ih _) fun _ => ih _))
  induction x generalizing g with
  | ret value => exact kept
  | raise exc => exact kept
  | act a next ih =>
      exact bind_iff.mpr ((acts a g kept).mono (fun v g kept => ih v kept) fun _ _ kept => kept)
  | wait w next ih => exact carried kept fun r g kept => ih r kept
  | timed w limit next lapse ih _ => exact carried kept fun r g kept => ih r kept

end Coop
