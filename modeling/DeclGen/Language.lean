import DeclGen.Path
import DeclGen.Text.Case

/-!
Which files are C or C++, told by the suffix of their name alone, in any letter case.
-/
namespace DeclGen.Language

def headerSuffixes : List Text :=
  [".h".text, ".hh".text, ".hpp".text, ".hxx".text, ".inl".text]

def sourceSuffixes : List Text := [".c".text, ".cc".text, ".cpp".text, ".cxx".text]

def suffixOf (path : Path) : Text := Text.lower path.suffix

def isHeader (path : Path) : Bool := headerSuffixes.contains (suffixOf path)

def isSupported (path : Path) : Bool := sourceSuffixes.contains (suffixOf path) || isHeader path

def cpp : Text := "cpp".text

def detect (path : Path) : Except Text Text :=
  if isSupported path then .ok cpp else .error (suffixOf path)

def unsupportedMessage (suffix : Text) : Text := "Unsupported file extension: ".text ++ suffix

end DeclGen.Language
