/-
The log. A record says one thing that was done, and its level, source and text follow from it. `Run` is a computation
that leaves records and then fails or gives a value; running one thing after another appends their records, and
nothing runs after a failure.
-/
import CatalogLint.Catalog.Partition

namespace CatalogLint

inductive Level where
  | debug | info | error
  deriving DecidableEq

/-- the part of the library a record comes from -/
inductive Source where
  | registry | linter | loader
  deriving DecidableEq

inductive Record where
  | registered (rule : String)
  | checking (p : Partition) (entry rule : String)
  | failed (rule message : String)
  | passed (count : Nat) (p : Partition) (rules : Nat)
  | emptyConfig (setting : String)
  | loadedConfig (path : String) (rules : List String)
  | loadedCatalog (path : String) (sizes : Partitioned Nat)
  deriving DecidableEq

namespace Record

def level : Record → Level
  | .registered _ | .checking _ _ _ | .emptyConfig _ => .debug
  | .passed _ _ _ | .loadedConfig _ _ | .loadedCatalog _ _ => .info
  | .failed _ _ => .error

def source : Record → Source
  | .registered _ => .registry
  | .checking _ _ _ | .failed _ _ | .passed _ _ _ => .linter
  | .emptyConfig _ | .loadedConfig _ _ | .loadedCatalog _ _ => .loader

def text : Record → String
  | .registered rule => s!"Registered rule: {rule}"
  | .checking p entry rule => "Checking " ++ p.label ++ s!" '{entry}' against {rule}"
  | .failed rule message => s!"[{rule}] {message}"
  | .passed count p rules => s!"Checked {count} " ++ p.name ++ s!" against {rules} rules"
  | .emptyConfig setting => s!"No config path given and {setting} not set, using empty config"
  | .loadedConfig path rules =>
    s!"Loaded config from {path} (exceptions for rules: [" ++ ", ".intercalate (rules.map Text.quoted) ++ "])"
  | .loadedCatalog path sizes =>
    s!"Loaded catalog from {path}: " ++ toString sizes.dataSources ++ " data sources, " ++
      toString sizes.resources ++ " resources"

end Record

/-- what a computation did and how it ended -/
structure Run (ε α : Type) where
  records : List Record
  outcome : Except ε α

namespace Run

variable {ε α β : Type}

def value (a : α) : Run ε α := ⟨[], .ok a⟩

def fail (e : ε) : Run ε α := ⟨[], .error e⟩

def note (r : Record) : Run ε Unit := ⟨[r], .ok ()⟩

/-- runs `next` on the value of `x`, after it -/
def andThen (x : Run ε α) (next : α → Run ε β) : Run ε β :=
  match x.outcome with
  | .error e => ⟨x.records, .error e⟩
  | .ok a => ⟨x.records ++ (next a).records, (next a).outcome⟩

instance : Monad (Run ε) where
  pure := value
  bind := andThen

def mapError {δ : Type} (f : ε → δ) (x : Run ε α) : Run δ α := ⟨x.records, x.outcome.mapError f⟩

def ofExcept (x : Except ε α) : Run ε α := ⟨[], x⟩

end Run

end CatalogLint
