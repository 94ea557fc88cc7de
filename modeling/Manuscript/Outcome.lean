import Manuscript.Event

/-!
# Outcomes

A step of an export reports events and then either gives a result or fails. A failure ends the
export but keeps what was reported before it. Steps are put together with `do`; the events of the
first come before those of the second.
-/

namespace Manuscript

/-- A check: nothing, if a condition holds. -/
def require {ε : Type} (condition : Bool) (e : ε) : Except ε Unit :=
  if condition then .ok () else .error e

/-- What a step of an export reported, and how it ended. -/
structure Outcome (ε α : Type) where
  log : List Event
  result : Except ε α

namespace Outcome

variable {ε ε' α β : Type}

/-- Ends with a result and reports nothing. -/
protected def pure (a : α) : Outcome ε α := ⟨[], .ok a⟩

/-- Goes on with the result of a step; a failed step ends the whole. -/
protected def bind (x : Outcome ε α) (f : α → Outcome ε β) : Outcome ε β :=
  match x.result with
  | .ok a => ⟨x.log ++ (f a).log, (f a).result⟩
  | .error e => ⟨x.log, .error e⟩

instance : Monad (Outcome ε) where
  pure := Outcome.pure
  bind := Outcome.bind

/-- Fails and reports nothing. -/
def fail (e : ε) : Outcome ε α := ⟨[], .error e⟩

/-- Reports events. -/
def report (events : List Event) : Outcome ε Unit := ⟨events, .ok ()⟩

/-- A result or failure about which nothing is reported. -/
def ofExcept (x : Except ε α) : Outcome ε α := ⟨[], x⟩

/-- The same outcome with its failure seen as one of another type. -/
def mapError (f : ε → ε') (x : Outcome ε α) : Outcome ε' α := ⟨x.log, x.result.mapError f⟩

theorem pure_def (a : α) : (pure a : Outcome ε α) = ⟨[], .ok a⟩ := rfl

theorem bind_ok (log : List Event) (a : α) (f : α → Outcome ε β) :
    (⟨log, .ok a⟩ : Outcome ε α) >>= f = ⟨log ++ (f a).log, (f a).result⟩ := rfl

theorem bind_error (log : List Event) (e : ε) (f : α → Outcome ε β) :
    (⟨log, .error e⟩ : Outcome ε α) >>= f = ⟨log, .error e⟩ := rfl

/-- Two steps give a result when the first does and the second does from it. -/
theorem bind_result_eq_ok_iff {x : Outcome ε α} {f : α → Outcome ε β} {b : β} :
    (x >>= f).result = .ok b ↔ ∃ a, x.result = .ok a ∧ (f a).result = .ok b := by
  obtain ⟨log, _ | a⟩ := x
  · simp [bind_error]
  · simp [bind_ok]

private theorem outcome_id_map (x : Outcome ε α) : id <$> x = x := by
  obtain ⟨log, _ | a⟩ := x
  · rfl
  · show Outcome.bind _ _ = _
    simp [Outcome.bind, Outcome.pure]

private theorem outcome_bind_assoc {γ : Type} (x : Outcome ε α) (f : α → Outcome ε β)
    (g : β → Outcome ε γ) : x >>= f >>= g = x >>= fun a => f a >>= g := by
  obtain ⟨log, _ | a⟩ := x
  · rfl
  · simp only [bind_ok]
    cases h : f a with
    | mk log' result => cases result <;> simp [bind_error, bind_ok]

instance : LawfulMonad (Outcome ε) :=
  .mk' (Outcome ε) outcome_id_map (fun a f => by rw [pure_def, bind_ok]; rfl) outcome_bind_assoc

end Outcome

end Manuscript
