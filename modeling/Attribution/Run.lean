import Attribution.Failure

/-!
Operations that change a world, write log lines and may fail. World and log survive a failure.
-/

namespace Attribution

inductive LogLevel where
  | debug
  | warning
  deriving DecidableEq, Repr

structure LogLine where
  level : LogLevel
  text : String
  deriving DecidableEq, Repr

/-- A log line as it is printed. -/
def LogLine.print (l : LogLine) : String :=
  (match l.level with
    | .debug => "DEBUG: "
    | .warning => "WARNING: ") ++ l.text

/-- A world and what has been logged, oldest line first. -/
structure Scene (σ : Type) where
  world : σ
  log : List LogLine

/-- An operation on a world. -/
abbrev Run (σ : Type) := ExceptT Failure (StateM (Scene σ))

namespace Run

variable {σ : Type}

def write (level : LogLevel) (text : String) : Run σ Unit :=
  modify fun s => { s with log := s.log ++ [⟨level, text⟩] }

def debug (text : String) : Run σ Unit := write .debug text

/-- Changes the world. -/
def change (f : σ → σ) : Run σ Unit := modify fun s => { s with world := f s.world }

/-- Fails with a problem. -/
def fail {α : Type} (kind : Problem.Kind) (message : Option String)
    (module : Option ModuleVersion) : Run σ α :=
  throw (.problem (.new kind message module))

end Run

end Attribution
