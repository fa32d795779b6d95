import DeclGen.Directive.Parser
import DeclGen.Text.Utf8

/-!
Blanking out directive lines. A directive is no C++, so its line is replaced by as many spaces before
the source is parsed; byte offsets and rows stay what they were.
-/
namespace DeclGen.Directive

open Utf8 (Bytes)

def lineFeed : UInt8 := 0x0A

def byteLines (source : Bytes) : List Bytes := pieces lineFeed source

def maskLine (line : Bytes) : Bytes :=
  if isDirectiveLine (Utf8.decode line) then List.replicate line.length 0x20 else line

def mask (source : Bytes) : Bytes := joinWith [lineFeed] ((byteLines source).map maskLine)

end DeclGen.Directive
