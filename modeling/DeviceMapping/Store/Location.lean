/-
**Where a rule database lies.**

The text of a location names a file, with escapes, and says by parameters how it is opened: an
existing file to read and to write unless they say otherwise. A file name may itself be an address
with the scheme `file:` and further parameters. A database is used through several connections, so
one in memory is of use only if the connections share it; this takes an address, and the name
`:memory:` stands for one that is shared.
-/

import DeviceMapping.Files
import DeviceMapping.Store.Rows
import DeviceMapping.Text.Percent

namespace DeviceMapping

/-- What a location leads to: a new database in memory, or the file at a path, which is made where
it is missing if `create` holds. -/
inductive Location where
  | memory
  | file (path : String) (create : Bool)
  deriving DecidableEq

/-- How a database is opened; the system is the part that reaches the files. -/
structure Opening where
  file : String
  readOnly : Bool
  create : Bool
  inMemory : Bool
  shared : Bool
  immutable : Bool
  system : Option String

namespace Opening

/-- What a file is opened with unless a parameter says otherwise. -/
def usual (file : String) : Opening := ⟨file, false, false, false, false, false, none⟩

/-- The opening after one more parameter of a location; unknown names and values are refused. -/
def addParameter (opening : Opening) (name value : String) : Option Opening :=
  match name, value with
  | "mode", "ro" => some { opening with readOnly := true }
  | "mode", "rw" => some opening
  | "mode", "rwc" => some { opening with create := true }
  | "mode", "memory" => some { opening with inMemory := true, shared := true }
  | "cache", "private" => some { opening with shared := false }
  | "cache", "shared" => some { opening with shared := true }
  | "immutable", "true" | "immutable", "1" => some { opening with immutable := true }
  | "immutable", "false" | "immutable", "0" => some { opening with immutable := false }
  | "vfs", system => some { opening with system := some system }
  | _, _ => none

/-- The opening with the file name of an address that carries what only an address can say. -/
def toAddress (opening : Opening) : Opening :=
  let parameters := (if opening.immutable then ["immutable=true"] else []) ++
    (opening.system.map ("vfs=" ++ ·)).toList
  if parameters.isEmpty then opening
  else
    { opening with file := "file:" ++ opening.file ++ "?" ++ String.intercalate "&" parameters }

/-- The opening after a parameter of an address, which may take rights away but not add any; unknown
names do not matter. -/
def addAddressParameter (opening : Opening) (parameter : String × String) : Option Opening :=
  let known := !opening.readOnly || opening.inMemory
  match parameter with
  | ("mode", "ro") => some { opening with readOnly := true, create := false, inMemory := false }
  | ("mode", "rw") =>
    if known then some { opening with readOnly := false, create := false, inMemory := false }
    else none
  | ("mode", "rwc") =>
    if (known && opening.create) || opening.inMemory then
      some { opening with readOnly := false, create := true, inMemory := false }
    else none
  | ("mode", "memory") =>
    some { opening with readOnly := false, create := false, inMemory := true }
  | ("mode", _) => none
  | ("cache", "private") => some { opening with shared := false }
  | ("cache", "shared") => some { opening with shared := true }
  | ("cache", _) => none
  | ("immutable", value) =>
    some { opening with immutable := ["1", "yes", "true", "on"].contains value.toLower }
  | ("vfs", system) => some { opening with system := some system }
  | _ => some opening

/-- The characters behind the host of an address, which must be this one. -/
def dropHost? (address : List Char) : Option (List Char) :=
  match address with
  | '/' :: '/' :: rest =>
    let host := rest.takeWhile (· != '/')
    if host.isEmpty || host = "localhost".toList then some (rest.drop host.length) else none
  | _ => some address

/-- The text before a null character. -/
def beforeNull (text : String) : String :=
  String.ofList (text.toList.takeWhile (· != '\x00'))

/-- The opening of the file that an address names, with the parameters of the address. -/
def ofAddress? (opening : Opening) (address : List Char) : Option Opening := do
  let (name, parameters) := Percent.cut '?' (address.takeWhile (· != '#'))
  let name ← Percent.decode? (← dropHost? name)
  let parameters ← Percent.parameters? parameters
  let known := parameters.map fun (name, value) => (beforeNull name, beforeNull value)
  ({ opening with file := beforeNull name, immutable := false, system := none } : Opening)
    |> known.foldlM addAddressParameter

/-- What an opening leads to. A database without a name is one for a single connection, as is one in
memory that is not shared, and such databases are of no use. -/
def location? (opening : Opening) (addressed : Bool) : Option Location :=
  let writable := !opening.readOnly && !opening.immutable
  let plain := ["unix", "unix-none", "unix-dotfile", "unix-excl"]
  if opening.file = "" || !opening.system.all ("memdb" :: plain).contains then none
  else if opening.inMemory || opening.file = ":memory:" then
    if addressed && opening.shared && !opening.readOnly then some .memory else none
  else if opening.system = some "memdb" then
    if writable && opening.file.startsWith "/" then some .memory else none
  else some (.file opening.file (opening.create && writable))

end Opening

namespace Location

/-- The text without all repetitions of a beginning. -/
def dropAll (beginning text : List Char) : List Char :=
  match beginning with
  | [] => text
  | _ :: _ => go text.length text
where
  /-- Drops at most a number of repetitions. -/
  go : Nat → List Char → List Char
    | 0, text => text
    | steps + 1, text =>
      if beginning.isPrefixOf text then go steps (text.drop beginning.length) else text

/-- The opening of the file that a location names, before its parameters. -/
def opening? (name : List Char) : Option Opening :=
  if name = ":memory:".toList then
    some { Opening.usual "file:memory" with inMemory := true, shared := true }
  else (Percent.decode? name).map Opening.usual

/-- The location that a text names, if it is of use. In the parameters a plus is a blank. -/
def ofText? (text : String) : Option Location := do
  let (name, parameters) := Percent.cut '?'
    (dropAll "sqlite:".toList (dropAll "sqlite://".toList text.toList))
  let parameters ← Percent.parameters? (parameters.map fun c => if c = '+' then ' ' else c)
  let opening ← parameters.foldlM
    (fun opening (name, value) => opening.addParameter name value) (← opening? name)
  let opening := opening.toAddress
  if opening.file.toList.contains '\x00' then none
  else match opening.file.toList with
    | 'f' :: 'i' :: 'l' :: 'e' :: ':' :: address =>
      (opening.ofAddress? address).bind (·.location? true)
    | _ => opening.location? false

/-- The store at a location, given the content of its file if it is known to hold rules. A file
that is made needs a folder to lie in, and an empty file is an empty database. -/
def openStore (location : Location) (files : Files) (content : Option RowStore) :
    Except StoreError RowStore :=
  match location, content with
  | .memory, _ => .ok .empty
  | .file _ _, some store => .ok store
  | .file path create, none =>
    let place := (Files.places path).headD []
    match files.texts.lookup place with
    | some text => if text = "" then .ok .empty else .error .database
    | none =>
      if create && files.isFolder place.dropLast && !files.isFolder place then .ok .empty
      else .error .database

end Location

end DeviceMapping
