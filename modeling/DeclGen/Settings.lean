import DeclGen.Text.Case

/-!
Settings from the environment: which handler sets to load when none are asked for, and which notices
to show.
-/
namespace DeclGen

structure Settings where
  handlers : List Text := ["lua".text]
  logLevel : Text := "WARNING".text
  deriving DecidableEq

namespace Settings

abbrev Environment := List (Text × Text)

inductive EnvironmentError where
  | nullCharacter
  | illegalName
  | emptyName
  deriving DecidableEq

def EnvironmentError.message : EnvironmentError → Text
  | .nullCharacter => "embedded null byte".text
  | .illegalName => "illegal environment variable name".text
  | .emptyName => "[Errno 22] Invalid argument".text

def entryFault? (name value : Text) : Option EnvironmentError :=
  if (name ++ value).any fun c => c.toNat = 0 then some .nullCharacter
  else if name.contains '=' then some .illegalName
  else if name.isEmpty then some .emptyName
  else none

def fault? (env : Environment) : Option EnvironmentError :=
  env.findSome? fun entry => entryFault? entry.1 entry.2

def handlersVariable : Text := "ANNOGEN_HANDLERS".text

def logLevelVariable : Text := "ANNOGEN_LOG_LEVEL".text

/-- The names between commas, without blanks around them; empty ones do not count. -/
def listed (t : Text) : List Text :=
  ((pieces (.char ',') t).map Text.strip).filter fun name => !name.isEmpty

def ofEnvironment (env : Environment) : Settings where
  handlers := listed ((env.lookup handlersVariable).getD "lua".text)
  logLevel := Text.upper ((env.lookup logLevelVariable).getD "WARNING".text)

end Settings

def levelRank? (name : Text) : Option Nat :=
  [("CRITICAL".text, 50), ("FATAL".text, 50), ("ERROR".text, 40), ("WARN".text, 30),
   ("WARNING".text, 30), ("INFO".text, 20), ("DEBUG".text, 10), ("NOTSET".text, 0)].lookup name

end DeclGen
