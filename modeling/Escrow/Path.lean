import Escrow.Error
import Escrow.Text.Character
import Escrow.Text.Half

/-!
# Paths of files

A path is read by its parts: a single point is no part, and two points lead one directory up.  Only
the present directory, those above it and a few of the root are taken to be there.
-/

namespace Escrow.Path

/-- The greatest length of a part of a path, in bytes. -/
def greatestPartSize : Nat := 255

/-- The parts of a path, from the first to the last. -/
def partsOf (path : List Char) : List (List Char) :=
  (Text.split '/' path).filter fun part => !part.isEmpty && part != ['.']

/-- A place in the tree of directories: how many directories above the present one it starts, and
the names below that. -/
structure Location where
  above : Nat := 0
  names : List (List Char) := []
  deriving DecidableEq

namespace Location

/-- The location one part farther. -/
def step (location : Location) (part : List Char) : Location :=
  if part = ['.', '.'] then
    if location.names.isEmpty then { location with above := location.above + 1 }
    else { location with names := location.names.dropLast }
  else { location with names := location.names ++ [part] }

/-- The location of parts. -/
def ofParts (parts : List (List Char)) : Location := parts.foldl step {}

/-- Is this one of the locations that the parts lead through, or the place where they start? -/
def isOnWay (location : Location) (parts : List (List Char)) : Bool :=
  location.names.isEmpty ||
    (List.range (parts.length + 1)).any fun count => decide (ofParts (parts.take count) = location)

end Location

/-- How many bytes a part of a path has. -/
def byteSize (part : List Char) : Nat := (String.ofList part).utf8ByteSize

/-- The greatest length of a path, in bytes. -/
def greatestSize : Nat := 4095

/-- The names of the directories that are taken to be in the root. -/
def rootNames : List String :=
  ["bin", "dev", "etc", "home", "lib", "opt", "proc", "root", "run", "sbin", "sys", "tmp", "usr",
    "var"]

/-- Do these parts, of a path from the root or from the present directory, name a directory that is
there? -/
def isDirectory (fromRoot : Bool) (parts : List (List Char)) : Bool :=
  if fromRoot then
    match (Location.ofParts parts).names with
    | [] => true
    | [name] => rootNames.contains (String.ofList name)
    | _ => false
  else parts.all fun part => part = ['.', '.']

/-- What a path can name. -/
inductive Standing where
  | directory
  /-- A file; it can be made only in a directory that is there. -/
  | file (canMake : Bool)
  /-- Nothing, for there can be no such name. -/
  | nothing

/-- What a path can name. -/
def standing (path : String) : Except Fault Standing :=
  let chars := path.toList
  let parts := partsOf chars
  let fromRoot := chars.head? = some '/'
  if chars.contains '\x00' || Text.hasHalf path then .ok .nothing
  else if parts.any (fun part => greatestPartSize < byteSize part) then .error .badPath
  else if greatestSize < byteSize chars then .error .badPath
  else if isDirectory fromRoot parts then .ok .directory
  else .ok (.file (isDirectory fromRoot parts.dropLast))

end Escrow.Path
