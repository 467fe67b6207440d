import Escrow.Path
import Escrow.Text.Numeral

/-!
# Where an archive is kept

The path of an archive names a file, which is made with the directories around it; or it is a URI of
the scheme `file`, whose file must lie in a directory that is there; or it names no file at all, and
then the archive is kept only while it is open.
-/

namespace Escrow.Place

open Escrow.Path

/-- The greatest length of a path, in bytes. -/
def greatestPathSize : Nat := 512

/-- Is a file at these parts of a path one that can be opened, given the parts whose directories
are there? -/
def isOpenable (parts directories : List (List Char)) : Bool :=
  let location := Location.ofParts parts
  parts.all (fun part => byteSize part ≤ greatestPartSize) &&
    byteSize (['/'].intercalate parts) < greatestPathSize &&
    !location.isOnWay directories &&
    Location.isOnWay { location with names := location.names.dropLast } directories

/-! ## URIs -/

/-- What a URI says: a path and its parameters. -/
structure Uri where
  path : List Char
  parameters : List (List Char × List Char)

namespace Uri

/-- A text with its escaped bytes decoded; nothing counts behind a null byte. -/
def decode : List Char → List Char
  | '%' :: a :: b :: rest =>
    match Text.hexNumber? [a, b] with
    | some 0 => []
    | some byte => Char.ofNat byte :: decode rest
    | none => '%' :: decode (a :: b :: rest)
  | c :: rest => c :: decode rest
  | [] => []

/-- A parameter, given as a name and a value around an equals sign. -/
def parameter (text : List Char) : List Char × List Char :=
  (decode (text.takeWhile (· != '=')), decode ((text.dropWhile (· != '=')).drop 1))

/-- The URI of a text behind its scheme; one that names a host has none. -/
def ofText? (text : List Char) : Option Uri :=
  let shown := text.takeWhile (· != '#')
  let path? : Option (List Char) :=
    match shown with
    | '/' :: '/' :: rest =>
      let host := rest.takeWhile (· != '/')
      if host.isEmpty || host = "localhost".toList then some (rest.dropWhile (· != '/')) else none
    | _ => some shown
  path?.map fun path =>
    let query := (path.dropWhile (· != '?')).drop 1
    { path := decode (path.takeWhile (· != '?'))
      parameters := ((Text.split '&' query).map parameter).filter fun entry => !entry.1.isEmpty }

end Uri

/-- Where an archive is kept. -/
inductive Kept where
  /-- Nowhere: it is gone when it is closed. -/
  | transient
  | inFile
  deriving DecidableEq

/-- The name of an archive that is kept nowhere. -/
def memoryName : String := ":memory:"

/-- The start of a URI. -/
def scheme : List Char := "file:".toList

/-- What a parameter of a URI says about where its archive is kept: there is no answer for a value
without meaning, and for one that forbids to make the file. -/
def readParameter (kept : Kept) : List Char × List Char → Option Kept
  | (name, value) =>
    let value := String.ofList value
    match String.ofList name with
    | "mode" =>
      if value = "memory" then some .transient else if value = "rwc" then some kept else none
    | "cache" => if value = "shared" || value = "private" then some kept else none
    | "vfs" =>
      if value = "memdb" then some .transient
      else if value = "unix" || value = "unix-none" || value = "unix-dotfile" ||
        value = "unix-excl" then some kept
      else none
    | _ => some kept

/-- Where the archive of a URI is kept, given the parts whose directories are there. -/
def ofUri (uri : Uri) (directories : List (List Char)) : Except Fault Kept :=
  let usual : Kept :=
    if uri.path.isEmpty || uri.path = memoryName.toList then .transient else .inFile
  match uri.parameters.foldlM readParameter usual with
  | some .transient => .ok .transient
  | some .inFile =>
    if isOpenable (partsOf uri.path) directories then .ok .inFile else .error .unopenable
  | none => .error .unopenable

/-- Where the archive of a path is kept. -/
def ofPath (path : String) : Except Fault Kept :=
  let chars := path.toList
  let parts := partsOf chars
  if path = memoryName then .ok .transient
  else if Text.hasHalf path then .error .unencodable
  else if chars.contains '\x00' then .error .badValue
  else if parts.dropLast.any fun part => greatestPartSize < byteSize part then .error .badPath
  else if path.isEmpty then .ok .transient
  else if scheme.isPrefixOf chars then
    match Uri.ofText? (chars.drop scheme.length) with
    | some uri => ofUri uri parts.dropLast
    | none => .error .unopenable
  else if isOpenable parts parts.dropLast then .ok .inFile
  else .error .unopenable

end Escrow.Place
