import DeclGen.Output.File
import DeclGen.Settings

/-!
Reading entities from plain data. A record may leave out a field that has a default and may have
fields that nobody asks for. Numbers and truth values may be written as texts; everything else must have
exactly the expected shape, and a missing value is never accepted in place of one.
-/
namespace DeclGen

inductive Data where
  | null
  | bool (value : Bool)
  | int (value : Int)
  | float (value : Float)
  | text (value : Text)
  | list (items : List Data)
  | record (fields : List (Text × Data))
deriving Inhabited

namespace Data

abbrev Fields := List (Text × Data)

def asText? : Data → Option Text
  | .text value => some value
  | _ => none

def truthWords : List (String × Bool) :=
  [("0", false), ("off", false), ("f", false), ("false", false), ("n", false), ("no", false),
   ("1", true), ("on", true), ("t", true), ("true", true), ("y", true), ("yes", true)]

def scaled? (m : Nat) : (e : Int) → Option Nat
  | .ofNat e => some (m * Nat.pow 2 e)
  | .negSucc e =>
    let unit : Nat := Nat.pow 2 (e + 1)
    if m % unit = 0 then some (m / unit) else none

def mantissaUnit : Nat := Nat.pow 2 52

def signUnit : Nat := Nat.pow 2 63

/-- The size of a whole float; the exponent of all ones is kept for what is no number. -/
def magnitude? (bits : Nat) : Option Nat :=
  let exponent : Nat := bits / mantissaUnit % 2048
  let mantissa : Nat := bits % mantissaUnit
  if exponent = 2047 then none
  else if exponent = 0 then scaled? mantissa (-1074)
  else scaled? (mantissa + mantissaUnit) ((exponent : Int) - 1075)

/-- The integer that a whole float stands for. It must fit into a word of 64 bits. -/
def wholeFloat? (value : Float) : Option Int :=
  let bits := value.toBits.toNat
  match magnitude? bits with
  | some n =>
    if n < signUnit then some (if bits < signUnit then (n : Int) else -(n : Int)) else none
  | none => none

def truthOf? : Int → Option Bool
  | 0 => some false
  | 1 => some true
  | _ => none

/-- A truth value. The numbers zero and one and some words are taken for one. -/
def asBool? : Data → Option Bool
  | .bool value => some value
  | .int value => truthOf? value
  | .float value => (wholeFloat? value).bind truthOf?
  | .text word =>
    (truthWords.find? fun entry => entry.1.text == word.map CodePoint.toLower).map (·.2)
  | _ => none

/-- The blanks around a written number. The four information separators are none of them. -/
def isNumberBlank (c : CodePoint) : Bool := Text.isBlank c && !(0x1C ≤ c.toNat && c.toNat ≤ 0x1F)

def numberLength : Nat := 4300

def bareNat? (digits : Text) : Option Nat :=
  match digits with
  | '0' :: _ :: _ => none
  | _ => if digits.all CodePoint.isDigit then Text.number? 10 digits else none

def bareInt? (t : Text) : Option Int :=
  if numberLength < t.length then none
  else
    match t with
    | '-' :: digits => (bareNat? digits).map fun n => -(n : Int)
    | digits => (bareNat? digits).map Int.ofNat

def startsNumber (c : CodePoint) : Bool := ('1' ≤ c && c ≤ '9') || c = '-'

/-- What follows the padding behind a leading zero: further zeros and underscores go, and the last
of them stays in front of a point or at the end. -/
def dropPadding (last : CodePoint) : Text → Option Text
  | [] => some [last]
  | c :: rest =>
    if c = '0' || c = '_' then dropPadding c rest
    else if startsNumber c then some (c :: rest)
    else if c = '.' then some (last :: c :: rest)
    else none

def unpadded? : Text → Option Text
  | [] => none
  | c :: rest =>
    if c = '0' then dropPadding c rest else if startsNumber c then some (c :: rest) else none

def dropZeroFraction (t : Text) : Text :=
  match Text.cutFirst? '.' t with
  | some (before, zeros) => if !zeros.isEmpty && zeros.all (· = CodePoint.char '0') then before else t
  | none => t

def dropUnderscores (t : Text) : Text :=
  let groups := pieces (.char '_') t
  if groups.any List.isEmpty then t else groups.flatten

/-- The number that a text writes, with blanks around it, a sign and padding in front, and perhaps a
point and zeros behind. -/
def writtenInt? (t : Text) : Option Int :=
  let finish := fun (cleaned : Text) => bareInt? (dropUnderscores (dropZeroFraction cleaned))
  let signed := fun (trimmed : Text) =>
    match trimmed with
    | '-' :: digits => (unpadded? digits).bind fun rest => finish ('-' :: rest)
    | digits => (unpadded? digits).bind finish
  match bareInt? t with
  | some n => some n
  | none =>
    match ((t.dropWhile isNumberBlank).reverse.dropWhile isNumberBlank).reverse with
    | '+' :: '-' :: _ => none
    | '+' :: digits => signed digits
    | trimmed => signed trimmed

/-- An integer. A truth value counts as zero or one, a whole float for its value, and a text may write
a number. -/
def asInt? : Data → Option Int
  | .int value => some value
  | .bool value => some (if value then 1 else 0)
  | .float value => wholeFloat? value
  | .text written => writtenInt? written
  | _ => none

def asPath? : Data → Option Path
  | .text value => some (Path.ofText value)
  | _ => none

def asList? {α : Type} (item? : Data → Option α) : Data → Option (List α)
  | .list items => items.mapM item?
  | _ => none

def asFields? : Data → Option Fields
  | .record fields => some fields
  | _ => none

def field {α : Type} (fields : Fields) (name : String) (missing : α) (read : Data → Option α) :
    Option α :=
  match fields.lookup name.text with
  | none => some missing
  | some value => read value

/-- How many levels of nested properties are read; what they belong to takes up one more level. -/
def propertyLevels : Nat := 254

/-- A property: a name, and a text or a list of properties as its value. At most `levels` properties
are nested in one another. -/
def asPropertyWithin? : (levels : Nat) → Data → Option Property
  | levels + 1, .record fields =>
    match (fields.lookup "name".text).bind asText?, fields.lookup "value".text with
    | some name, none => some (.flag name)
    | some name, some (.text value) => some (.text name value)
    | some name, some (.list items) =>
      (items.mapM (asPropertyWithin? levels)).map (Property.group name)
    | _, _ => none
  | _, _ => none

def asProperty? (data : Data) : Option Property := asPropertyWithin? (propertyLevels + 1) data

def asEntity? (fields : Fields) : Option Entity := do
  let name ← field fields "name" [] asText?
  let fullNamespace ← field fields "full_namespace" [] asText?
  let path ← field fields "path" Path.here asPath?
  let properties ← field fields "properties" [] (asList? (asPropertyWithin? propertyLevels))
  pure { name, fullNamespace, path, properties }

def asVariable? (data : Data) : Option Variable := do
  let fields ← data.asFields?
  let base ← asEntity? fields
  let type ← field fields "type" "int".text asText?
  pure { base with type }

def asFunction? (data : Data) : Option Function := do
  let fields ← data.asFields?
  let base ← asEntity? fields
  let returnType ← field fields "return_type" "void".text asText?
  let parameters ← field fields "parameters" [] (asList? asVariable?)
  let isConstructor ← field fields "is_constructor" false asBool?
  pure { base with returnType, parameters, isConstructor }

def asClass? (data : Data) : Option Class := do
  let fields ← data.asFields?
  let base ← asEntity? fields
  let members ← field fields "variables" [] (asList? asVariable?)
  let methods ← field fields "functions" [] (asList? asFunction?)
  pure { base with members, methods }

def asUnit? (data : Data) : Option SourceUnit := do
  let fields ← data.asFields?
  let path ← (fields.lookup "path".text).bind asPath?
  let classes ← field fields "classes" [] (asList? asClass?)
  let functions ← field fields "functions" [] (asList? asFunction?)
  let globals ← field fields "variables" [] (asList? asVariable?)
  let skippedParameters ← field fields "skipped_parameters" 0 asInt?
  let unattributed ← field fields "unattributed" 0 asInt?
  pure { path, classes, functions, globals, skippedParameters, unattributed }

def asGeneratedFunction? (data : Data) : Option Output.GeneratedFunction := do
  let fields ← data.asFields?
  let leading ← field fields "prefix" [] asText?
  let header ← field fields "header" {} asFunction?
  let body ← field fields "body" [] (asList? asText?)
  pure { leading, header, body }

def asFunctionTable? : Data → Option (Table Text Output.GeneratedFunction)
  | .record fields =>
    (fields.mapM fun entry => (asGeneratedFunction? entry.2).map (entry.1, ·)).map Table.mk
  | _ => none

def asGeneratedFile? (data : Data) : Option Output.GeneratedFile := do
  let fields ← data.asFields?
  let paths ← field fields "includes" [] (asList? asPath?)
  let header ← field fields "header" [] (asList? asText?)
  let functions ← field fields "functions" {} asFunctionTable?
  let empty : Output.GeneratedFile := { header, functions }
  pure (paths.foldl (fun file path => file.insertInclude (.path path)) empty)

def asSettings? (data : Data) : Option Settings := do
  let fields ← data.asFields?
  let handlers ← field fields "handlers" ["lua".text] (asList? asText?)
  let logLevel ← field fields "log_level" "WARNING".text asText?
  pure { handlers, logLevel }

end Data
end DeclGen
