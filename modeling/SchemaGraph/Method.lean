/-!
# Methods

A method works on an object in place: it reads and writes it step by step, and in the end it answers
or fails. A failure undoes nothing. What has been written before it stays written, so whether a
method that fails changes the object depends on the order of its checks and writes.
-/

namespace SchemaGraph

/-- A method of an object with states `σ`, which fails with an `ε` or answers with an `α`. -/
abbrev Method (σ ε α : Type) := ExceptT ε (StateM σ) α

namespace Method

variable {σ τ ε ε' α β : Type}

/-- Calls the method: what it answers, or why it fails, and the object afterwards in either case. -/
def call (p : Method σ ε α) (s : σ) : Except ε α × σ := p.run.run s

/-- The answer with the object afterwards. Of a call that fails only the reason is kept. -/
def outcome (p : Method σ ε α) (s : σ) : Except ε (α × σ) :=
  match p.call s with
  | (.ok a, s') => .ok (a, s')
  | (.error e, _) => .error e

/-- The object afterwards, for a method without an answer. -/
def result (p : Method σ ε Unit) (s : σ) : Except ε σ := (p.outcome s).map (·.2)

/-- Fails unless the condition holds. -/
def require (c : Prop) [Decidable c] (e : ε) : Method σ ε Unit :=
  if c then pure () else throw e

/-- A method of a part, called on the whole. -/
def onPart (part : σ → τ) (put : σ → τ → σ) (p : Method τ ε α) : Method σ ε α :=
  ExceptT.mk fun s =>
    let (answer, t) := p.call (part s)
    (answer, put s t)

/-! ## Calls -/

@[simp] theorem call_pure (a : α) (s : σ) : (pure a : Method σ ε α).call s = (.ok a, s) := rfl

@[simp] theorem call_throw (e : ε) (s : σ) :
    (throw e : Method σ ε α).call s = (.error e, s) := rfl

@[simp] theorem call_get (s : σ) : (get : Method σ ε σ).call s = (.ok s, s) := rfl

@[simp] theorem call_modify (f : σ → σ) (s : σ) :
    (modify f : Method σ ε PUnit).call s = (.ok ⟨⟩, f s) := rfl

@[simp] theorem call_lift (r : Except ε α) (s : σ) :
    (liftM r : Method σ ε α).call s = (r, s) := rfl

@[simp] theorem call_require (c : Prop) [Decidable c] (e : ε) (s : σ) :
    (require c e : Method σ ε Unit).call s = (if c then .ok () else .error e, s) := by
  unfold require
  split <;> rfl

@[simp] theorem call_onPart (part : σ → τ) (put : σ → τ → σ) (p : Method τ ε α) (s : σ) :
    (p.onPart part put).call s = ((p.call (part s)).1, put s (p.call (part s)).2) := rfl

@[simp] theorem call_adapt (wrap : ε → ε') (p : Method σ ε α) (s : σ) :
    Method.call (ExceptT.adapt wrap p) s = ((p.call s).1.mapError wrap, (p.call s).2) := rfl

theorem call_bind (p : Method σ ε α) (f : α → Method σ ε β) (s : σ) :
    (p >>= f).call s = match p.call s with
      | (.ok a, s') => (f a).call s'
      | (.error e, s') => (.error e, s') := by
  unfold call
  rw [ExceptT.run_bind, StateT.run_bind]
  rcases StateT.run (ExceptT.run p) s with ⟨_ | _, _⟩ <;> rfl

/-- What is written before a failure stays. -/
example : (do modify (· + 1); throw () : Method Nat Unit Unit).call 0 = (.error (), 1) := rfl

/-- A failure that is caught finds the object as it was left. -/
theorem call_tryCatch (p : Method σ ε α) (f : ε → Method σ ε α) (s : σ) :
    (tryCatch p f).call s = match p.call s with
      | (.ok a, s') => (.ok a, s')
      | (.error e, s') => (f e).call s' := by
  show StateT.run (ExceptT.run (tryCatch p f)) s = _
  unfold call
  rw [ExceptT.run_tryCatch, StateT.run_bind]
  rcases StateT.run (ExceptT.run p) s with ⟨_ | _, _⟩ <;> rfl

end Method

end SchemaGraph
