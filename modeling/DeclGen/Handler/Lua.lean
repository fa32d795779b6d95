import DeclGen.Handler.Dispatch
import DeclGen.Output.Registry

/-!
Bindings for Lua through sol2. A class with the property `LuaClass` becomes a usertype; members and
methods with `LuaInspect` are registered in its table. All lines go into one function of one file,
which includes the sources of the entities that it binds.
-/
namespace DeclGen.Lua

open Output

def bindingsFile : Text := "LuaBindings.cpp.gen".text

def bindingsFunction : Text := "CreateBindings".text

def stateParameter : Variable := { name := "lua_state".text, type := "sol::state&".text }

def hasProperty (properties : List Property) (name : String) : Bool :=
  (Property.find? properties name.text).isSome

def addLine (source : Path) (line : Text) (r : Registry) : Registry :=
  r.updateFile bindingsFile fun file =>
    (file.addInclude source).updateFunction bindingsFunction fun f =>
      (f.addParameter stateParameter).addBody line

def tableName (c : Class) : Text := c.name ++ "_table".text

def classLine (c : Class) : Text :=
  "sol::usertype<".text ++ c.fullNamespace ++ "> ".text ++ tableName c
    ++ " = lua_state.new_usertype<".text ++ c.fullNamespace ++ ">(\"".text ++ c.name
    ++ "\", sol::constructors<".text ++ c.fullNamespace ++ "()>".text ++ [CodePoint.char '{', '}']
    ++ ");".text

def memberLine (member : Entity) (owner : Class) : Text :=
  tableName owner ++ "[\"".text ++ member.name ++ "\"] = &".text ++ member.fullNamespace
    ++ [CodePoint.char ';']

def bindClass : Handler Registry .classType := fun (c : Class) r =>
  if hasProperty c.properties "LuaClass" then addLine c.path (classLine c) r else r

def bindMember : Handler Registry .member := fun ((v, owner) : Variable × Class) r =>
  if hasProperty v.properties "LuaInspect" then addLine v.path (memberLine v.toEntity owner) r else r

def bindMethod : Handler Registry .method := fun ((f, owner) : Function × Class) r =>
  if !f.isConstructor && hasProperty f.properties "LuaInspect" then
    addLine f.path (memberLine f.toEntity owner) r
  else r

def handlers : HandlerSet (Handler Registry) where
  name := "lua".text
  handlersFor := fun
    | .classType => [bindClass]
    | .method => [bindMethod]
    | .member => [bindMember]
    | .unit | .function | .variable => []

end DeclGen.Lua
