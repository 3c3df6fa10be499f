/-!
Results together with the messages that were logged on the way to them. Messages stay when the result
is an error.
-/

namespace CosmeticRules

inductive LogLevel
  | error
  | warn
  | info
  | debug
  deriving DecidableEq, Repr, Inhabited

structure LogEntry where
  level : LogLevel
  text : String
  deriving DecidableEq, Repr, Inhabited

/-- A result or an error, and what was logged before it. -/
structure Logged (ε α : Type) where
  result : Except ε α
  log : List LogEntry

namespace Logged

variable {ε ε' α β : Type}

def pure (a : α) : Logged ε α := ⟨.ok a, []⟩

def bind (x : Logged ε α) (f : α → Logged ε β) : Logged ε β :=
  match x.result with
  | .ok a => ⟨(f a).result, x.log ++ (f a).log⟩
  | .error e => ⟨.error e, x.log⟩

instance : Monad (Logged ε) where
  pure := Logged.pure
  bind := Logged.bind

instance : MonadExceptOf ε (Logged ε) where
  throw e := ⟨.error e, []⟩
  tryCatch x handler :=
    match x.result with
    | .ok a => ⟨.ok a, x.log⟩
    | .error e => ⟨(handler e).result, x.log ++ (handler e).log⟩

theorem id_map' (x : Logged ε α) : id <$> x = x := by
  obtain ⟨result, log⟩ := x
  cases result <;> simp [Functor.map, Logged.bind, Logged.pure]

theorem pure_bind' (a : α) (f : α → Logged ε β) : Pure.pure a >>= f = f a := by
  simp [Bind.bind, Pure.pure, Logged.bind, Logged.pure]

theorem bind_assoc' {γ : Type} (x : Logged ε α) (f : α → Logged ε β) (g : β → Logged ε γ) :
    x >>= f >>= g = x >>= fun a => f a >>= g := by
  obtain ⟨result, log⟩ := x
  cases result with
  | error e => rfl
  | ok a =>
    simp only [Bind.bind, Logged.bind]
    cases (f a).result <;> simp

instance : LawfulMonad (Logged ε) := LawfulMonad.mk' (Logged ε) id_map' pure_bind' bind_assoc'

/-- Logs one message. -/
def write (level : LogLevel) (text : String) : Logged ε Unit := ⟨.ok (), [⟨level, text⟩]⟩

def ofExcept (x : Except ε α) : Logged ε α := ⟨x, []⟩

/-- Turns an error into a value, so that the work can go on. -/
def attempt (x : Logged ε α) : Logged ε' (Except ε α) := ⟨.ok x.result, x.log⟩

/-- Logs an error as it passes, and puts another in its place. -/
def reportAs (describe : ε → String) (replace : ε → ε') (x : Logged ε α) : Logged ε' α :=
  match x.result with
  | .ok a => ⟨.ok a, x.log⟩
  | .error e => ⟨.error (replace e), x.log ++ [⟨.error, describe e⟩]⟩

def mapError (replace : ε → ε') (x : Logged ε α) : Logged ε' α :=
  ⟨x.result.mapError replace, x.log⟩

@[simp] theorem result_pure (a : α) : (Pure.pure a : Logged ε α).result = .ok a := rfl

@[simp] theorem result_bind (x : Logged ε α) (f : α → Logged ε β) :
    (x >>= f).result = x.result >>= fun a => (f a).result := by
  obtain ⟨result, log⟩ := x
  cases result <;> rfl

@[simp] theorem result_throw (e : ε) : (throw e : Logged ε α).result = .error e := rfl

@[simp] theorem result_write (level : LogLevel) (text : String) :
    (write level text : Logged ε Unit).result = .ok () := rfl

@[simp] theorem result_ofExcept (x : Except ε α) : (ofExcept x).result = x := rfl

@[simp] theorem result_attempt (x : Logged ε α) :
    (attempt x : Logged ε' (Except ε α)).result = .ok x.result := rfl

@[simp] theorem result_reportAs (describe : ε → String) (replace : ε → ε') (x : Logged ε α) :
    (x.reportAs describe replace).result = x.result.mapError replace := by
  obtain ⟨result, log⟩ := x
  cases result <;> rfl

end Logged

variable {ε ε' α β : Type}

theorem ok_bind (a : α) (f : α → Except ε β) : (Except.ok a >>= f) = f a := rfl

theorem exists_of_bind_eq_ok {x : Except ε α} {f : α → Except ε β} {b : β} (same : x >>= f = .ok b) :
    ∃ a, x = .ok a ∧ f a = .ok b := by
  cases x with
  | error e => simp [bind, Except.bind] at same
  | ok a => exact ⟨a, rfl, same⟩

theorem exists_of_isOk {x : Except ε α} (right : x.isOk = true) : ∃ a : α, x = .ok a := by
  cases x with
  | ok a => exact ⟨a, rfl⟩
  | error e => cases right

theorem eq_ok_of_mapError {x : Except ε α} {f : ε → ε'} {a : α} (same : x.mapError f = .ok a) :
    x = .ok a := by
  cases x with
  | error e =>
    have same : Except.error (f e) = .ok a := same
    cases same
  | ok b => exact congrArg _ (Except.ok.inj same)

end CosmeticRules
