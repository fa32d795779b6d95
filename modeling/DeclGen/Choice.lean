import DeclGen.Text.Quoted

/-!
Names that are read as one of a closed list of choices.
-/
namespace DeclGen

structure InvalidChoice where
  kind : Text
  name : Text
  deriving DecidableEq

def InvalidChoice.message (e : InvalidChoice) : Text :=
  Text.quoted e.name ++ " is not a valid ".text ++ e.kind

end DeclGen
