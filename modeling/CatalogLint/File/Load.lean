/-
Loading catalogs and configurations from files. A file is read as a document and then as a declaration; a document that
counts as empty stands for a declaration without contents. The path of the configuration may be left out: then a setting
of the environment names it, and without that the configuration is empty.

What becomes of a document depends on the document alone, so the loaders take the reader of texts as a parameter
(`loadWith`); `load` is the one for texts as files have them.
-/
import CatalogLint.File.Directory
import CatalogLint.Lint.Record
import CatalogLint.Validation.Catalog
import CatalogLint.Yaml.Contents

namespace CatalogLint

/-- why a file could not be loaded -/
inductive LoadError where
  | missing (what : String) (path : Path)
  | directory
  | tooLong
  | fault (fault : Yaml.Fault)
  | invalid (first : Issue) (others : List Issue)

/-- the text of an error; that of an invalid declaration is the number of its issues -/
def LoadError.message : LoadError → String
  | .missing what path => what ++ " file not found: " ++ path.text
  | .directory | .tooLong => ""
  | .fault f => f.message
  | .invalid _ others => toString (others.length + 1)

/-- the value, or the error that lists all issues -/
def Checked.toExcept {α : Type} : Checked α → Except LoadError α
  | .accepted a => .ok a
  | .rejected first others => .error (.invalid first others)

namespace Document

/-- the document itself, or an empty mapping for one that counts as empty -/
def orEmpty (d : Document) : Document := if d.isBlank then .mapping [] else d

end Document

namespace Directory

/-- the document in a file -/
def document (d : Directory) (parse : String → Except Yaml.Fault Document) (what : String) (path : Path) :
    Except LoadError Document :=
  match d.find path with
  | .absent => .error (.missing what path)
  | .directory => .error .directory
  | .tooLong => .error .tooLong
  | .file text => ((parse text).mapError .fault).map Document.orEmpty

end Directory

namespace Catalog

def loadWith (parse : String → Except Yaml.Fault Document) (d : Directory) (path : Path) : Run LoadError Catalog := do
  let document ← Run.ofExcept (d.document parse "Catalog" path)
  let catalog ← Run.ofExcept (Catalog.read document).toExcept
  Run.note (.loadedCatalog path.text ⟨catalog.size .dataSources, catalog.size .resources⟩)
  return catalog

def load (d : Directory) (path : Path) : Run LoadError Catalog := loadWith (Document.ofYaml .catalog) d path

end Catalog

namespace Config

/-- the setting of the environment that may name the file -/
def setting : String := "SCHEMALINT_CONFIG"

def loadFrom (parse : String → Except Yaml.Fault Document) (d : Directory) (path : Path) : Run LoadError Config := do
  let document ← Run.ofExcept (d.document parse "Config" path)
  let config ← Run.ofExcept (Config.read document).toExcept
  Run.note (.loadedConfig path.text config.exceptions.ruleNames)
  return config

/-- the configuration at a path, or else at the path in the setting; an empty setting counts as none -/
def loadWith (parse : String → Except Yaml.Fault Document) (d : Directory) (setting path : Option String) :
    Run LoadError Config :=
  match path with
  | some p => loadFrom parse d (.ofText p)
  | none =>
    match setting with
    | some s => if s = "" then absent else loadFrom parse d (.ofText s)
    | none => absent
where
  absent : Run LoadError Config := do
    Run.note (.emptyConfig Config.setting)
    return Config.empty

def load (d : Directory) (setting path : Option String) : Run LoadError Config :=
  loadWith (Document.ofYaml .config) d setting path

end Config

end CatalogLint
