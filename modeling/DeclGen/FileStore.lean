import DeclGen.Path
import DeclGen.Table
import DeclGen.Text.FileName

/-!
A file system held in memory. Entries are kept under their location, the names on the way down from
the root; relative paths start in the working directory, and a double dot leads to the directory
above. Entries are directories and plain files, without links, and can always be looked at and read.
Operations answer with the errors that a system reports, and the device below can fail as well: it can
refuse to open a file or to make a directory, and it can break off a write. A write is not all or
nothing. It empties the file first and then looks at the new content, so one that fails after that
leaves a beginning of the content.
-/
namespace DeclGen

open Utf8 (Bytes Unencodable)

/-- What a device reports, such as a full disk, by number and in words. That something is missing is
never for the device to say. -/
structure SystemError where
  number : Nat
  words : String
  notMissing : number ≠ 2
  deriving DecidableEq

inductive FileError where
  | missing (path : Path)
  | alreadyExists (path : Path)
  | notADirectory (path : Path)
  | isADirectory (path : Path)
  | nameTooLong (path : Path)
  /-- The device does not let the path be opened or made. -/
  | refused (error : SystemError) (path : Path)
  /-- The device ended a write that had begun. -/
  | brokenOff (error : SystemError)
  | nullCharacter
  /-- The path, or what was to be written there, has no bytes. -/
  | unencodable (place : Unencodable)
  deriving DecidableEq

namespace FileError

def numbered (number : Nat) (words : String) : Text :=
  "[Errno ".text ++ Text.ofNat number ++ "] ".text ++ words.text

def systemText (number : Nat) (words : String) (path : Path) : Text :=
  numbered number words ++ ": ".text ++ Text.quoted path.text

def message : FileError → Text
  | .missing path => systemText 2 "No such file or directory" path
  | .alreadyExists path => systemText 17 "File exists" path
  | .notADirectory path => systemText 20 "Not a directory" path
  | .isADirectory path => systemText 21 "Is a directory" path
  | .nameTooLong path => systemText 36 "File name too long" path
  | .refused error path => systemText error.number error.words path
  | .brokenOff error => numbered error.number error.words
  | .nullCharacter => "embedded null byte".text
  | .unencodable place => place.message

/-- Whether the system reported the error. The others are found before it is asked. -/
def isSystem : FileError → Bool
  | .nullCharacter | .unencodable _ => false
  | _ => true

end FileError

abbrev Location := List Bytes

inductive FileEntry where
  | directory
  | file (content : Bytes)
  deriving DecidableEq

/-- How a device fails, by the entries that it holds at that moment. -/
structure Device where
  /-- An error instead of opening a file or making a directory. -/
  refuses : Table Location FileEntry → Location → Option SystemError
  /-- An error in writing bytes to an opened file, with how many of them are written all the same. -/
  breaksOff : Table Location FileEntry → Location → Bytes → Option (Nat × SystemError)

def Device.sound : Device := ⟨fun _ _ => none, fun _ _ _ => none⟩

structure FileStore where
  table : Table Location FileEntry
  device : Device := .sound

namespace FileStore

def locationOf (path : Path) : Location := path.absolute.parts.map FileName.bytes

def empty : FileStore where
  table := ⟨[(locationOf Path.here, .directory)]⟩

def entries (s : FileStore) : List (Location × FileEntry) := s.table.entries

/-- What is at a location; the root is a directory. -/
def get? (s : FileStore) (location : Location) : Option FileEntry :=
  if location.isEmpty then some .directory else s.table.get? location

def put (s : FileStore) (location : Location) (entry : FileEntry) : FileStore :=
  { s with table := s.table.update location entry fun _ => entry }

/-- A new entry, seen from any location. The root is never put. -/
theorem get?_put (s : FileStore) {location : Location} (below : location ≠ []) (entry : FileEntry)
    (other : Location) :
    (s.put location entry).get? other = if other = location then some entry else s.get? other := by
  by_cases root : other = []
  · have apart : ([] : Location) ≠ location := fun same => below same.symm
    simp [root, get?, apart]
  · simp [get?, put, Table.get?_update, root]

def dotDot : Bytes := [0x2E, 0x2E]

def longestName : Nat := 255

def longestPath : Nat := 4095

/-- Follows names down from a location; every name but the last must lead out of a directory. -/
def descend (s : FileStore) (path : Path) (location : Location) :
    List Bytes → Except FileError Location
  | [] => .ok location
  | name :: rest =>
    match s.get? location with
    | some .directory =>
      if longestName < name.length then .error (.nameTooLong path)
      else descend s path (if name = dotDot then location.dropLast else location ++ [name]) rest
    | some (.file _) => .error (.notADirectory path)
    | none => .error (.missing path)

/-- The location that a path stands for; nothing needs to be there yet. -/
def locate (s : FileStore) (path : Path) : Except FileError Location :=
  match FileName.encode path.text with
  | .error place => .error (.unencodable place)
  | .ok written =>
    if path.parts.any fun part => part.contains (Char.ofNat 0) then .error .nullCharacter
    else if longestPath < written.length then .error (.nameTooLong path)
    else s.descend path [] (locationOf path)

def find? (s : FileStore) (path : Path) : Option FileEntry :=
  match s.locate path with
  | .ok location => s.get? location
  | .error _ => none

/-- What a path leads to, asked of the system. Only names that it cannot hold are an error. -/
def look (s : FileStore) (path : Path) : Except FileError (Option FileEntry) :=
  match s.locate path with
  | .ok location => .ok (s.get? location)
  | .error (.nameTooLong asked) => .error (.nameTooLong asked)
  | .error _ => .ok none

def isDirectory (s : FileStore) (path : Path) : Bool := s.find? path == some .directory

def read (s : FileStore) (path : Path) : Except FileError Bytes :=
  match s.locate path with
  | .error e => .error e
  | .ok location =>
    match s.get? location with
    | some (.file content) => .ok content
    | some .directory => .error (.isADirectory path)
    | none => .error (.missing path)

/-- Gives an opened file its content, as far as that comes. -/
def fill (s : FileStore) (location : Location) (content : Except Unencodable Bytes) :
    FileStore × Option FileError :=
  match content with
  | .error place => (s, some (.unencodable place))
  | .ok bytes =>
    match s.device.breaksOff s.table location bytes with
    | some (written, error) =>
      (s.put location (.file (bytes.take written)), some (.brokenOff error))
    | none => (s.put location (.file bytes), none)

def write (s : FileStore) (path : Path) (content : Except Unencodable Bytes) :
    FileStore × Option FileError :=
  match s.locate path with
  | .error e => (s, some e)
  | .ok location =>
    if s.get? location = some .directory then (s, some (.isADirectory path))
    else
      match s.device.refuses s.table location with
      | some error => (s, some (.refused error path))
      | none => (s.put location (.file [])).fill location content

def makeDirectory (s : FileStore) (path : Path) : FileStore × Option FileError :=
  match s.locate path with
  | .error e => (s, some e)
  | .ok location =>
    if (s.get? location).isSome then (s, some (.alreadyExists path))
    else
      match s.device.refuses s.table location with
      | some error => (s, some (.refused error path))
      | none => (s.put location .directory, none)

/-- An error in making a directory is none if the directory is there; a name that never reached the
system stays an error. -/
def unlessDirectory (s : FileStore) (path : Path) (e : FileError) : Option FileError :=
  if e.isSystem ∧ s.isDirectory path then none else some e

def makeDirectories (s : FileStore) (path : Path) : FileStore × Option FileError :=
  match s.makeDirectory path with
  | (made, none) => (made, none)
  | (_, some (.missing p)) =>
    if _h : path.parts = [] then (s, some (.missing p))
    else
      match s.makeDirectories path.parent with
      | (above, some e) => (above, some e)
      | (above, none) =>
        match above.makeDirectory path with
        | (made, none) => (made, none)
        | (_, some (.missing q)) => (above, some (.missing q))
        | (_, some e) => (above, above.unlessDirectory path e)
  | (_, some e) => (s, s.unlessDirectory path e)
termination_by path.parts.length
decreasing_by
  have : 0 < path.parts.length := List.length_pos_iff.2 _h
  simp only [Path.parent, List.length_dropLast]
  omega

def writeWithParents (s : FileStore) (path : Path) (content : Except Unencodable Bytes) :
    FileStore × Option FileError :=
  match s.makeDirectories path.parent with
  | (made, none) => made.write path content
  | failed => failed

def children (s : FileStore) (location : Location) : List Location :=
  s.table.keys.filter fun place => place ≠ [] ∧ place.dropLast = location

/-- What lies at most so many levels below a location: what is directly there, and then for each
directory among it what lies below that. -/
def below (s : FileStore) : Nat → Location → List Location
  | 0, _ => []
  | levels + 1, location =>
    let here := s.children location
    here ++ (here.filter fun place => s.get? place = some .directory).flatMap (s.below levels)

def depth (s : FileStore) : Nat :=
  s.table.keys.foldr (fun place deepest => max place.length deepest) 0

def pathsBelow (s : FileStore) (path : Path) : List Path :=
  match s.locate path with
  | .error _ => []
  | .ok location =>
    (s.below s.depth location).map fun place =>
      path.join (Path.normal .relative ((place.drop location.length).map FileName.text))

end FileStore
end DeclGen
