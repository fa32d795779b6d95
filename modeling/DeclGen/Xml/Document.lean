import DeclGen.Xml.Encoding
import DeclGen.Xml.Token

/-!
XML documents as trees of elements. Names are resolved against the namespaces in scope, so an element
is known by its namespace and base name. Text, comments and instructions leave no trace in the tree,
but a document with a fault in any of them is refused as a whole.
-/
namespace DeclGen.Xml

open Utf8 (Bytes)

structure ExpandedName where
  uri : Text
  base : Text
  deriving DecidableEq, Repr

structure Element where
  name : ExpandedName
  attributes : List (ExpandedName × Text)
  children : List Element
  deriving Repr

inductive XmlError where
  | malformed
  | encoding (error : EncodingError)
  deriving DecidableEq

/-- Prefixes in scope, innermost first; the empty prefix names the default namespace. -/
abbrev Bindings := List (Text × Text)

def xmlUri : Text := "http://www.w3.org/XML/1998/namespace".text

def xmlnsUri : Text := "http://www.w3.org/2000/xmlns/".text

def xmlPrefix : Text := "xml".text

def xmlnsPrefix : Text := "xmlns".text

def declared? (name : QualifiedName) : Option Text :=
  if name.space = some xmlnsPrefix then some name.base
  else if name.space = none ∧ name.base = xmlnsPrefix then some []
  else none

/-- Whether a prefix may be bound to a namespace. The two reserved names are bound for good, and only
the default namespace can be taken back. -/
def mayBind (name uri : Text) : Bool :=
  if uri.contains '}' || name == xmlnsPrefix || uri == xmlnsUri then false
  else if name == xmlPrefix || uri == xmlUri then name == xmlPrefix && uri == xmlUri
  else name.isEmpty || !uri.isEmpty

def bind? (outer : Bindings) (attributes : List (QualifiedName × Text)) : Option Bindings :=
  attributes.foldlM (fun bindings (name, value) =>
    match declared? name with
    | none => some bindings
    | some declaredName =>
      if mayBind declaredName value then some ((declaredName, value) :: bindings) else none) outer

def expand? (bindings : Bindings) (unprefixed : Text) (name : QualifiedName) : Option ExpandedName :=
  match name.space with
  | none => some ⟨unprefixed, name.base⟩
  | some space => (bindings.lookup space).map fun uri => ⟨uri, name.base⟩

def isDistinct {α : Type} [DecidableEq α] : List α → Bool
  | [] => true
  | x :: rest => !rest.contains x && isDistinct rest

def element? (outer : Bindings) (name : QualifiedName) (attributes : List (QualifiedName × Text)) :
    Option (Element × Bindings) := do
  let bindings ← bind? outer attributes
  let own ← expand? bindings ((bindings.lookup []).getD []) name
  let others := attributes.filter fun (name, _) => (declared? name).isNone
  let expanded ← others.mapM fun (name, value) => (expand? bindings [] name).map (·, value)
  if isDistinct (attributes.map (·.1)) && isDistinct (expanded.map (·.1)) then
    pure (⟨own, expanded, []⟩, bindings)
  else none

structure OpenElement where
  written : QualifiedName
  element : Element
  bindings : Bindings

structure Build where
  stack : List OpenElement
  root : Option Element

def Build.bindings (b : Build) : Bindings :=
  match b.stack with
  | [] => [(xmlPrefix, xmlUri)]
  | top :: _ => top.bindings

def Build.close (stack : List OpenElement) (root : Option Element) (done : Element) : Build :=
  match stack with
  | [] => ⟨[], some done⟩
  | top :: outer =>
    ⟨{ top with element := { top.element with children := top.element.children ++ [done] } } :: outer,
      root⟩

/-- One token further. Outside of the root there are only notes and spaces. -/
def Build.step? (b : Build) : Token → Option Build
  | .note => some b
  | .characters areBlank => if b.stack.isEmpty && !areBlank then none else some b
  | .openTag name attributes isEmpty =>
    if b.stack.isEmpty && b.root.isSome then none
    else do
      let (element, bindings) ← element? b.bindings name attributes
      if isEmpty then pure (Build.close b.stack b.root element)
      else pure ⟨⟨name, element, bindings⟩ :: b.stack, b.root⟩
  | .closeTag name =>
    match b.stack with
    | [] => none
    | top :: outer => if top.written = name then some (Build.close outer b.root top.element) else none

def root? (alphabet : Alphabet) (t : Text) : Option Element := do
  let tokens ← tokens? alphabet t
  let done ← tokens.foldlM Build.step? ⟨[], none⟩
  if done.stack.isEmpty then done.root else none

def readSetting? (alphabet : Alphabet) (t : Text) : Option ((Text × Text) × Text) := do
  let next := skipSpace t
  if next.length < t.length then
    let (name, rest) ← readName? alphabet next
    match skipSpace rest with
    | '=' :: rest =>
      match skipSpace rest with
      | quote :: rest =>
        if quote = '"' ∨ quote.toNat = 0x27 then
          let (value, rest) ← Text.cutFirst? quote rest
          if value.all fun c => c.isAlphanum || c = '.' || c = '-' || c = '_' then
            pure ((name, value), rest)
          else none
        else none
      | [] => none
    | _ => none
  else none

def readSettings? (alphabet : Alphabet) (t : Text) : Option (List (Text × Text) × Text) :=
  if "?>".text.isPrefixOf (skipSpace t) then some ([], (skipSpace t).drop 2)
  else
    match readSetting? alphabet t with
    | none => none
    | some (setting, rest) =>
      if _h : rest.length < t.length then
        (readSettings? alphabet rest).map fun (others, rest) => (setting :: others, rest)
      else none
termination_by t.length

def isEncodingName (value : Text) : Bool := (value.head?.map CodePoint.isAlpha).getD false

def isStandalone (value : Text) : Bool := value == "yes".text || value == "no".text

/-- The encoding that the settings name: a version comes first, then perhaps an encoding, then perhaps
whether the document stands alone. -/
def encodingOf? (settings : List (Text × Text)) : Option (Option Text) :=
  let known := fun (setting : Text × Text) (name : String) => setting.1 == name.text
  match settings with
  | [version] => if known version "version" then some none else none
  | [version, second] =>
    if known version "version" ∧ known second "encoding" ∧ isEncodingName second.2 then
      some (some second.2)
    else if known version "version" ∧ known second "standalone" ∧ isStandalone second.2 then some none
    else none
  | [version, second, third] =>
    if known version "version" ∧ known second "encoding" ∧ isEncodingName second.2
        ∧ known third "standalone" ∧ isStandalone third.2 then
      some (some second.2)
    else none
  | _ => none

def declarationStart : Text := "<?xml".text

def hasDeclaration (alphabet : Alphabet) (t : Text) : Bool :=
  declarationStart.isPrefixOf t && !((t.drop 5).head?.map alphabet.isNameChar).getD false

/-- The letters of documents. Those that are written in characters of the Latin table itself, and those
in pairs of bytes, have further ones. -/
def Encoding.alphabet : Encoding → Alphabet
  | .latin1 | .utf16 _ => .extended
  | _ => .plain

def Encoding.declared (shown : Encoding) (name : Text) : Except XmlError Encoding :=
  match Encoding.native? shown (name.map CodePoint.toLower) with
  | some encoding => if shown.agrees encoding then .ok encoding else .error .malformed
  | none =>
    match Encoding.named name with
    | .error error => .error (.encoding error)
    | .ok none => .error .malformed
    | .ok (some encoding) => .ok encoding

/-- The encoding of what follows the declaration, and the number of units that the declaration has. -/
def readDeclaration (shown : Encoding) (t : Text) : Except XmlError (Encoding × Nat) :=
  if hasDeclaration shown.alphabet t then
    match (readSettings? shown.alphabet (t.drop 5)).bind fun (settings, rest) =>
        (encodingOf? settings).map (·, t.length - rest.length) with
    | none => .error .malformed
    | some (none, length) => .ok (shown, length)
    | some (some name, length) => (shown.declared name).map (·, length)
  else .ok (shown, 0)

def parse (bytes : Bytes) : Except XmlError Element := do
  let (shown, content) := Encoding.detect bytes
  let (encoding, length) ← readDeclaration shown (shown.preview content)
  let body := content.drop (shown.unitSize * length)
  match (encoding.decode? body).bind (root? encoding.alphabet) with
  | some root => pure root
  | none => throw .malformed

end DeclGen.Xml
