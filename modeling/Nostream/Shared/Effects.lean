import Mathlib.Tactic

set_option autoImplicit false

namespace Effects

/-- A computation that reads and writes a state and may throw; what it wrote before throwing stays. -/
structure Effect (σ ε α : Type) where
  run : σ → Except ε α × σ

section Operations

variable {σ τ ε α β : Type}

def done (value : α) : Effect σ ε α := ⟨fun state => (.ok value, state)⟩

def raise (reason : ε) : Effect σ ε α := ⟨fun state => (.error reason, state)⟩

def andThen (first : Effect σ ε α) (next : α → Effect σ ε β) : Effect σ ε β :=
  ⟨fun state =>
    match first.run state with
    | (.ok value, reached) => (next value).run reached
    | (.error reason, reached) => (.error reason, reached)⟩

def handle (body : Effect σ ε α) (handler : ε → Effect σ ε α) : Effect σ ε α :=
  ⟨fun state =>
    match body.run state with
    | (.ok value, reached) => (.ok value, reached)
    | (.error reason, reached) => (handler reason).run reached⟩

def update (change : σ → σ) : Effect σ ε Unit := ⟨fun state => (.ok (), change state)⟩

def answer (result : Except ε α) : Effect σ ε α := ⟨fun state => (result, state)⟩

def zoom (get : σ → τ) (put : τ → σ → σ) (body : Effect τ ε α) : Effect σ ε α :=
  ⟨fun state => ((body.run (get state)).1, put (body.run (get state)).2 state)⟩

instance : Monad (Effect σ ε) where
  pure := done
  bind := andThen

@[simp]
theorem pure_run (value : α) (state : σ) :
    (pure value : Effect σ ε α).run state = (.ok value, state) := rfl

@[simp]
theorem raise_run (reason : ε) (state : σ) :
    (raise reason : Effect σ ε α).run state = (.error reason, state) := rfl

@[simp]
theorem update_run (change : σ → σ) (state : σ) :
    (update change : Effect σ ε Unit).run state = (.ok (), change state) := rfl

@[simp]
theorem answer_run (result : Except ε α) (state : σ) :
    (answer result : Effect σ ε α).run state = (result, state) := rfl

@[simp]
theorem zoom_run (get : σ → τ) (put : τ → σ → σ) (body : Effect τ ε α) (state : σ) :
    (zoom get put body).run state = ((body.run (get state)).1, put (body.run (get state)).2 state) := rfl

theorem bind_run (first : Effect σ ε α) (next : α → Effect σ ε β) (state : σ) :
    (first >>= next).run state = match first.run state with
      | (.ok value, reached) => (next value).run reached
      | (.error reason, reached) => (.error reason, reached) := rfl

theorem bind_ok {first : Effect σ ε α} {next : α → Effect σ ε β} {state reached : σ} {value : α}
    (ran : first.run state = (.ok value, reached)) :
    (first >>= next).run state = (next value).run reached := by
  rw [bind_run, ran]

theorem bind_error {first : Effect σ ε α} {next : α → Effect σ ε β} {state reached : σ} {reason : ε}
    (ran : first.run state = (.error reason, reached)) :
    (first >>= next).run state = (.error reason, reached) := by
  rw [bind_run, ran]

theorem ok_of_bind {first : Except ε α} {next : α → Except ε β} {value : β} (ran : (first >>= next) = .ok value) :
    ∃ intermediate, first = .ok intermediate ∧ next intermediate = .ok value := by
  cases first with
  | error reason => cases ran
  | ok intermediate => exact ⟨intermediate, rfl, ran⟩

@[simp]
theorem bind_update (change : σ → σ) (next : Unit → Effect σ ε β) (state : σ) :
    (update change >>= next).run state = (next ()).run (change state) := rfl

@[simp]
theorem bind_pure_run (value : α) (next : α → Effect σ ε β) (state : σ) :
    ((pure value : Effect σ ε α) >>= next).run state = (next value).run state := rfl

theorem handle_run (body : Effect σ ε α) (handler : ε → Effect σ ε α) (state : σ) :
    (handle body handler).run state = match body.run state with
      | (.ok value, reached) => (.ok value, reached)
      | (.error reason, reached) => (handler reason).run reached := rfl

theorem handle_ok {body : Effect σ ε α} {handler : ε → Effect σ ε α} {state reached : σ} {value : α}
    (ran : body.run state = (.ok value, reached)) :
    (handle body handler).run state = (.ok value, reached) := by
  rw [handle_run, ran]

theorem handle_error {body : Effect σ ε α} {handler : ε → Effect σ ε α} {state reached : σ}
    {reason : ε} (ran : body.run state = (.error reason, reached)) :
    (handle body handler).run state = (handler reason).run reached := by
  rw [handle_run, ran]

end Operations

section Frames

variable {σ ε α β : Type}

def Keeps (relation : σ → σ → Prop) (body : Effect σ ε α) : Prop :=
  ∀ state, relation state (body.run state).2

variable {relation : σ → σ → Prop}

theorem keeps_pure [Std.Refl relation] (value : α) :
    Keeps relation (pure value : Effect σ ε α) :=
  fun state => Std.Refl.refl state

theorem keeps_bind [IsTrans σ relation] {first : Effect σ ε α} {next : α → Effect σ ε β}
    (keepsFirst : Keeps relation first) (keepsNext : ∀ value, Keeps relation (next value)) :
    Keeps relation (first >>= next) := by
  intro state
  have before := keepsFirst state
  rw [bind_run]
  split
  next value reached ran =>
    rw [ran] at before
    exact IsTrans.trans _ _ _ before (keepsNext value reached)
  next reason reached ran => rwa [ran] at before

theorem keeps_ite {condition : Prop} [Decidable condition] {yes no : Effect σ ε α}
    (keepsYes : Keeps relation yes) (keepsNo : Keeps relation no) :
    Keeps relation (if condition then yes else no) := by
  split <;> assumption

end Frames

end Effects
