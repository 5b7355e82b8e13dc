import Tela.Library.Solo

/-!
# Postconditions of a coroutine among others

What holds however a coroutine ends, by recursion over the coroutine. An await may
also stop at a time limit, so that what a body secures it secures under a limit too.
Of an await that ends, a postcondition may use what `heard` says of its outcome.
-/

namespace Coop

variable {S : Sig} {ε α β : Type}

section Meaning

variable (W : World S ε) (rely : W.State → W.State → Prop) (task : TaskId)
  (heard : (w : S.Wait) → Except ε (S.Res w) → Prop)

/-- An await ends, or its limit lapses, which the body sees as an exception. -/
def Stops (w : S.Wait) (s : W.State) (outcome : Except ε (S.Res w)) (s' : W.State) : Prop :=
  (Ended W rely task w s outcome s' ∧ heard w outcome) ∨
    ∃ exc limit, outcome = .error exc ∧ Lapsed W rely task w limit s s'

/-- However the coroutine ends from the state, the postcondition holds. -/
def Secures (post : Except ε α → W.State → Prop) : Coro S ε α → W.State → Prop
  | .ret value, s => post (.ok value) s
  | .raise exc, s => post (.error exc) s
  | .act a next, s => Secures post (next (W.exec task a s).1) (W.exec task a s).2
  | .wait w next, s =>
      ∀ outcome s₁, Stops W rely task heard w s outcome s₁ → Secures post (next outcome) s₁
  | .timed w limit next lapse, s =>
      (∀ outcome s₁, Stops W rely task heard w s outcome s₁ → Secures post (next outcome) s₁) ∧
        ∀ s₁, Lapsed W rely task w limit s s₁ → Secures post lapse s₁

/-- What the rest of a sequence must secure where its first part has ended. -/
def Onward (post : Except ε β → W.State → Prop) (rest : α → Coro S ε β) :
    Except ε α → W.State → Prop
  | .ok value, s => Secures W rely task heard post (rest value) s
  | .error exc, s => post (.error exc) s

end Meaning

variable {W : World S ε} {rely : W.State → W.State → Prop} {task : TaskId}
  {heard : (w : S.Wait) → Except ε (S.Res w) → Prop} {s s' : W.State}

/-- The state that an await leaves, when its outcome does not matter. -/
theorem Stops.cases {w : S.Wait} {outcome : Except ε (S.Res w)}
    (stops : Stops W rely task heard w s outcome s') :
    (∃ result, outcome = .ok result ∧ W.enter task w s = (some result, s')) ∨
      ∃ s₁ s₂, W.enter task w s = (none, s₁) ∧ rely s₁ s₂ ∧
        (W.wake task w outcome s₂ = some s' ∨
          ∃ exc limit, outcome = .error exc ∧ W.lapse task w limit s₂ = some s') := by
  rcases stops with ⟨passed | ⟨s₁, s₂, entered, kept, woken⟩, -⟩ |
    ⟨exc, limit, same, s₁, s₂, entered, kept, lapsed⟩
  · exact .inl passed
  · exact .inr ⟨s₁, s₂, entered, kept, .inl woken⟩
  · exact .inr ⟨s₁, s₂, entered, kept, .inr ⟨exc, limit, same, lapsed⟩⟩

/-- An await that returns a result has ended. -/
theorem Stops.hears {w : S.Wait} {result : S.Res w}
    (stops : Stops W rely task heard w s (.ok result) s') : heard w (.ok result) := by
  rcases stops with ⟨-, heard⟩ | ⟨_, _, raised, -⟩
  · exact heard
  · cases raised

namespace Secures

variable {post post' : Except ε α → W.State → Prop}

/-- What a coroutine secures holds of each of its ends, if it has heard no more than allowed. -/
theorem hears {x : Coro S ε α} {answers : List (Answer S ε)} {out : Except ε α}
    (secures : Secures W rely task heard post x s)
    (ran : Hears W rely task x s answers out s')
    (all : ∀ answer ∈ answers, heard answer.1 answer.2) : post out s' := by
  induction x generalizing s answers with
  | ret value =>
      obtain ⟨-, rfl, rfl⟩ := ran
      exact secures
  | raise exc =>
      obtain ⟨-, rfl, rfl⟩ := ran
      exact secures
  | act a next ih => exact ih _ secures ran all
  | wait w next ih =>
      obtain ⟨outcome, s₁, later, rfl, ended, rest⟩ := ran
      obtain ⟨first, all⟩ := List.forall_mem_cons.mp all
      exact ih outcome (secures outcome s₁ (.inl ⟨ended, first⟩)) rest all
  | timed w limit next lapse ih ihLapse =>
      rcases ran with ⟨outcome, s₁, later, rfl, ended, rest⟩ | ⟨s₁, lapsed, rest⟩
      · obtain ⟨first, all⟩ := List.forall_mem_cons.mp all
        exact ih outcome (secures.1 outcome s₁ (.inl ⟨ended, first⟩)) rest all
      · exact ihLapse (secures.2 s₁ lapsed) rest all

theorem of_heard {x : Coro S ε α} {answers : List (Answer S ε)} {out : Except ε α}
    (secures : Secures W rely task (Heard answers) post x s)
    (ran : Hears W rely task x s answers out s') : post out s' :=
  secures.hears ran fun _ among => among

theorem solo {x : Coro S ε α} {out : Except ε α}
    (secures : Secures W rely task (fun _ _ => True) post x s)
    (ran : Solo W rely task x s out s') : post out s' := by
  obtain ⟨_, ran⟩ := solo_iff_hears.mp ran
  exact secures.hears ran fun _ _ => trivial

theorem mono {x : Coro S ε α} (weaker : ∀ out s, post out s → post' out s)
    (secures : Secures W rely task heard post x s) : Secures W rely task heard post' x s := by
  induction x generalizing s with
  | ret value => exact weaker _ _ secures
  | raise exc => exact weaker _ _ secures
  | act a next ih => exact ih _ secures
  | wait w next ih => exact fun outcome s₁ stops => ih outcome (secures outcome s₁ stops)
  | timed w limit next lapse ih ihLapse =>
      exact ⟨fun outcome s₁ stops => ih outcome (secures.1 outcome s₁ stops),
        fun s₁ lapsed => ihLapse (secures.2 s₁ lapsed)⟩

theorem bind {post : Except ε β → W.State → Prop} {x : Coro S ε α} {rest : α → Coro S ε β}
    (first : Secures W rely task heard (Onward W rely task heard post rest) x s) :
    Secures W rely task heard post (x.bind rest) s := by
  induction x generalizing s with
  | ret value => exact first
  | raise exc => exact first
  | act a next ih => exact ih _ first
  | wait w next ih => exact fun outcome s₁ stops => ih outcome (first outcome s₁ stops)
  | timed w limit next lapse ih ihLapse =>
      exact ⟨fun outcome s₁ stops => ih outcome (first.1 outcome s₁ stops),
        fun s₁ lapsed => ihLapse (first.2 s₁ lapsed)⟩

theorem attempt {post : Except ε (Except ε α) → W.State → Prop} {x : Coro S ε α}
    (secures : Secures W rely task heard (fun out => post (.ok out)) x s) :
    Secures W rely task heard post x.attempt s := by
  induction x generalizing s with
  | ret value => exact secures
  | raise exc => exact secures
  | act a next ih => exact ih _ secures
  | wait w next ih => exact fun outcome s₁ stops => ih outcome (secures outcome s₁ stops)
  | timed w limit next lapse ih ihLapse =>
      exact ⟨fun outcome s₁ stops => ih outcome (secures.1 outcome s₁ stops),
        fun s₁ lapsed => ihLapse (secures.2 s₁ lapsed)⟩

theorem mapRaise {escape : ε → ε} {x : Coro S ε α}
    (secures : Secures W rely task heard (fun out => post (out.mapError escape)) x s) :
    Secures W rely task heard post (x.mapRaise escape) s := by
  induction x generalizing s with
  | ret value => exact secures
  | raise exc => exact secures
  | act a next ih => exact ih _ secures
  | wait w next ih => exact fun outcome s₁ stops => ih outcome (secures outcome s₁ stops)
  | timed w limit next lapse ih ihLapse =>
      exact ⟨fun outcome s₁ stops => ih outcome (secures.1 outcome s₁ stops),
        fun s₁ lapsed => ihLapse (secures.2 s₁ lapsed)⟩

theorem ofExcept {outcome : Except ε α} (holds : post outcome s) :
    Secures W rely task heard post (Coro.ofExcept outcome) s := by
  cases outcome <;> exact holds

theorem await {w : S.Wait} {post : Except ε (S.Res w) → W.State → Prop}
    (stopped : ∀ outcome s₁, Stops W rely task heard w s outcome s₁ → post outcome s₁) :
    Secures W rely task heard post (Coro.await w) s :=
  fun outcome s₁ stops => ofExcept (stopped outcome s₁ stops)

/-- The final part starts wherever the body ends. -/
theorem ensure {x : Coro S ε α} {final : Coro S ε Unit}
    (secures : Secures W rely task heard (fun out => Secures W rely task heard
      (fun last s₁ => post (last.bind fun _ => out) s₁) final) x s) :
    Secures W rely task heard post (x.ensure final) s := by
  refine bind (attempt (mono (fun out s₁ finished => ?_) secures))
  refine bind (mono (fun last s₂ holds => ?_) finished)
  cases last with
  | ok value => exact ofExcept holds
  | error exc => exact holds

/-- A limit adds nothing but exceptions that pass through `escape`. -/
theorem within {limit : Nat} {cancelled : ε} {escape : ε → ε} {x : Coro S ε α}
    (secures : Secures W rely task heard (fun out s₁ => post out s₁ ∧ post (out.mapError escape) s₁)
      x s) : Secures W rely task heard post (x.within limit cancelled escape) s := by
  have lapses {w : S.Wait} {next : Except ε (S.Res w) → Coro S ε α} {s : W.State}
      (body : ∀ outcome s₁, Stops W rely task heard w s outcome s₁ → Secures W rely task heard
        (fun out s₁ => post out s₁ ∧ post (out.mapError escape) s₁) (next outcome) s₁)
      (s₁ : W.State) (lapsed : Lapsed W rely task w limit s s₁) :
      Secures W rely task heard post ((next (.error cancelled)).mapRaise escape) s₁ :=
    mapRaise (mono (fun _ _ both => both.2)
      (body _ s₁ (.inr ⟨cancelled, limit, rfl, lapsed⟩)))
  induction x generalizing s with
  | ret value => exact secures.1
  | raise exc => exact secures.1
  | act a next ih => exact ih _ secures
  | wait w next ih =>
      exact ⟨fun outcome s₁ stops => ih outcome (secures outcome s₁ stops), lapses secures⟩
  | timed w inner next lapse ih ihLapse =>
      unfold Coro.within
      split
      · exact ⟨fun outcome s₁ stops => ih outcome (secures.1 outcome s₁ stops),
          fun s₁ lapsed => ihLapse (secures.2 s₁ lapsed)⟩
      · exact ⟨fun outcome s₁ stops => ih outcome (secures.1 outcome s₁ stops),
          lapses secures.1⟩

/-- A loop that keeps an invariant and lets no exception out. -/
theorem forM {items : List α} {body : α → Coro S ε Unit} (keep : W.State → Prop)
    {post : Except ε Unit → W.State → Prop} (holds : keep s)
    (round : ∀ item s, keep s →
      Secures W rely task heard (fun out s₁ => out = .ok () ∧ keep s₁) (body item) s)
    (ended : ∀ s, keep s → post (.ok ()) s) :
    Secures W rely task heard post (items.forM body) s := by
  induction items generalizing s with
  | nil => exact ended s holds
  | cons item items ih =>
      refine bind (x := body item) (mono ?_ (round item s holds))
      rintro out s₁ ⟨rfl, kept⟩
      exact ih kept

end Secures

end Coop
