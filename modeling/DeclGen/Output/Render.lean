import DeclGen.Output.File

/-!
The text of a generated file. Includes come first, made absolute, each once and in order of their
text; functions keep their order and are named after their key.
-/
namespace DeclGen.Output

open CodePoint (char)

def includeLine (path : Path) : Text := "#include \"".text ++ path.text ++ [char '"']

def lineBreak : Text := ['\n']

def GeneratedFile.includedPaths (file : GeneratedFile) : List Path :=
  (file.includes.map Include.absolute).eraseDups.mergeSort fun p q => Text.le p.text q.text

def parameterList (parameters : List Variable) : Text :=
  joinWith ", ".text (parameters.map fun p => p.type ++ [char ' '] ++ p.name)

def signature (key : Text) (f : GeneratedFunction) : Text :=
  f.header.returnType ++ [char ' '] ++ key ++ [char '('] ++ parameterList f.header.parameters
    ++ [char ')']

/-- A function; its leading text gets no line break of its own. -/
def renderFunction (key : Text) (f : GeneratedFunction) : Text :=
  f.leading ++ joinWith lineBreak ([signature key f, [.char '{']] ++ f.body ++ [[char '}'], []])
    ++ lineBreak

def GeneratedFile.render (file : GeneratedFile) : Text :=
  joinWith lineBreak (file.includedPaths.map includeLine ++ [[]] ++ file.header ++ [[]]) ++ lineBreak
    ++ file.functions.entries.flatMap fun entry => renderFunction entry.1 entry.2

end DeclGen.Output
