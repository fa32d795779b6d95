import DeclGen.Handler.Lua
import DeclGen.Text.Case

/-!
Finding handler sets by name. A specification is an alias or `module:attribute`; modules are looked up
in a catalogue, level by level of their dotted name, and only some of them offer a handler set.
-/
namespace DeclGen

open CodePoint (char)

/-- A module that can be imported: its dotted name, whether modules may lie below it, and the handler
sets among its attributes. -/
structure HandlerModule where
  name : Text
  isPackage : Bool
  sets : List (Text × HandlerSet (Handler Output.Registry))

inductive ImportError where
  | noModule (name : Text)
  | notAPackage (name parent : Text)
  deriving DecidableEq

def ImportError.message : ImportError → Text
  | .noModule name => "No module named ".text ++ Text.quoted name
  | .notAPackage name parent =>
    "No module named ".text ++ Text.quoted name ++ "; ".text ++ Text.quoted parent
      ++ " is not a package".text

inductive HandlerLoadError where
  | invalidSpec (spec : Text)
  | cannotImport (moduleName : Text) (cause : ImportError)
  | notAHandlerSet (target : Text)
  | noneGiven
  | relativeImport (moduleName : Text)
  deriving DecidableEq

namespace Catalogue

def package (name : String) : HandlerModule := ⟨name.text, true, []⟩

def plain (name : String) : HandlerModule := ⟨name.text, false, []⟩

def modules : List HandlerModule :=
  [package "annogen", package "annogen.core", package "annogen.core.ports",
   package "annogen.handlers", package "annogen.project", package "annogen.cli",
   package "annogen.codegen", plain "annogen.config", plain "annogen.models",
   plain "annogen.core.properties", plain "annogen.core.declarations", plain "annogen.core.scope",
   plain "annogen.core.ast", plain "annogen.core.languages", plain "annogen.core.dispatch",
   plain "annogen.core.generate", plain "annogen.core.ports.declarations",
   plain "annogen.codegen.__init__", plain "annogen.codegen.registry", plain "annogen.codegen.writer",
   plain "annogen.handlers.loader",
   ⟨"annogen.handlers.lua".text, false, [("handlers".text, Lua.handlers)]⟩,
   plain "annogen.project.vcxproj", plain "annogen.cli.app", plain "annogen.cli.generate",
   plain "annogen.cli.inspect"]

def aliases : List (Text × Text) :=
  [("lua".text, "annogen.handlers.lua:handlers".text),
   ("sol2".text, "annogen.handlers.lua:handlers".text)]

def resolve (spec : Text) : Text :=
  let trimmed := Text.strip spec
  (aliases.lookup (Text.lower trimmed)).getD trimmed

def module? (name : Text) : Option HandlerModule := modules.find? fun m => m.name == name

def levels (name : Text) : List Text :=
  let names := pieces (.char '.') name
  (List.range names.length).map fun i => joinWith [char '.'] (names.take (i + 1))

def importLevels (parent : HandlerModule) : List Text → Except ImportError HandlerModule
  | [] => .ok parent
  | name :: rest =>
    if parent.isPackage then
      match module? name with
      | some found => importLevels found rest
      | none => .error (.noModule name)
    else .error (.notAPackage name parent.name)

def importModule (name : Text) : Except ImportError HandlerModule :=
  match levels name with
  | [] => .error (.noModule name)
  | top :: rest =>
    match module? top with
    | some found => importLevels found rest
    | none => .error (.noModule top)

/-- The module and the attribute of a target; both are there. -/
def parts? (target : Text) : Option (Text × Text) :=
  match Text.cutFirst? ':' target with
  | some (moduleName, attributeName) =>
    if moduleName.isEmpty || attributeName.isEmpty then none else some (moduleName, attributeName)
  | none => none

def load (spec : Text) : Except HandlerLoadError (HandlerSet (Handler Output.Registry)) :=
  let target := resolve spec
  match parts? target with
  | none => .error (.invalidSpec spec)
  | some (moduleName, attributeName) =>
    if moduleName.head? = some (char '.') then .error (.relativeImport moduleName)
    else
      match importModule moduleName with
      | .error cause => .error (.cannotImport moduleName cause)
      | .ok found =>
        match found.sets.lookup attributeName with
        | some set => .ok set
        | none => .error (.notAHandlerSet target)

def loadAll (specs : List Text) : Except HandlerLoadError (HandlerSet (Handler Output.Registry)) :=
  match specs.mapM load with
  | .error e => .error e
  | .ok sets =>
    match HandlerSet.mergeAll? sets with
    | some merged => .ok merged
    | none => .error .noneGiven

def loadedBefore : List Text → List (Text × HandlerSet (Handler Output.Registry))
  | [] => []
  | spec :: rest =>
    match load spec with
    | .ok set => (resolve spec, set) :: loadedBefore rest
    | .error _ => []

end Catalogue

def HandlerLoadError.message : HandlerLoadError → Text
  | .invalidSpec spec =>
    "Invalid handler spec '".text ++ spec
      ++ "'. Use 'package.module:attribute' or one of [".text
      ++ joinWith ", ".text (Catalogue.aliases.map fun entry => Text.quoted entry.1) ++ [char ']']
  | .cannotImport moduleName cause =>
    "Cannot import handler module '".text ++ moduleName ++ "': ".text ++ cause.message
  | .notAHandlerSet target => "'".text ++ target ++ "' is not a HandlerSet".text
  | .noneGiven => "No handler sets given".text
  | .relativeImport moduleName =>
    "the 'package' argument is required to perform a relative import for ".text
      ++ Text.quoted moduleName

end DeclGen
