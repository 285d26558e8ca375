/-!
# Logged computations

A `Logged ε α` is a result together with what was logged on the way to it.  A failed computation
keeps the entries that came before the failure.
-/

namespace ActivityForge

namespace Log

inductive Level
  | debug
  | info
  | warn
deriving DecidableEq, Repr

def Level.text : Level → String
  | debug => "DEBUG"
  | info => "INFO"
  | warn => "WARN"

structure Entry where
  level : Level
  text : String
deriving DecidableEq, Repr

def Entry.line (e : Entry) : String := e.level.text ++ " " ++ e.text

end Log

abbrev Log := List Log.Entry

def debug (text : String) : Log := [⟨.debug, text⟩]

def info (text : String) : Log := [⟨.info, text⟩]

def warn (text : String) : Log := [⟨.warn, text⟩]

structure Logged (ε α : Type) where
  log : Log
  result : Except ε α

namespace Logged

variable {ε α β : Type}

instance : Monad (Logged ε) where
  pure a := ⟨[], .ok a⟩
  bind x f :=
    match x.result with
    | .error e => ⟨x.log, .error e⟩
    | .ok a => ⟨x.log ++ (f a).log, (f a).result⟩

/-- A result with nothing logged. -/
def ofExcept (r : Except ε α) : Logged ε α := ⟨[], r⟩

/-- Logs entries and goes on. -/
def note (log : Log) : Logged ε Unit := ⟨log, .ok ()⟩

/-- The same computation with its error seen as a cause of another. -/
def mapError {ε' : Type} (f : ε → ε') (x : Logged ε α) : Logged ε' α := ⟨x.log, x.result.mapError f⟩

@[simp] theorem result_pure (a : α) : (pure a : Logged ε α).result = .ok a := rfl

@[simp] theorem log_pure (a : α) : (pure a : Logged ε α).log = [] := rfl

@[simp] theorem result_bind (x : Logged ε α) (f : α → Logged ε β) :
    (x >>= f).result = x.result >>= fun a => (f a).result := by
  simp only [bind, Except.bind]
  cases x.result <;> rfl

theorem log_bind (x : Logged ε α) (f : α → Logged ε β) :
    (x >>= f).log =
      match x.result with
      | .error _ => x.log
      | .ok a => x.log ++ (f a).log := by
  simp only [bind]
  cases x.result <;> rfl

instance : LawfulMonad (Logged ε) := LawfulMonad.mk' _
  (fun x => by
    obtain ⟨log, result⟩ := x
    cases result <;> simp [Functor.map])
  (fun a f => by simp [bind, pure])
  (fun x f g => by
    obtain ⟨log, result⟩ := x
    cases result with
    | error e => rfl
    | ok a =>
      simp only [bind]
      cases (f a).result <;> simp)

end Logged

end ActivityForge
