/-
**Files.**

The files that a command can see. A path is walked name by name from the working directory or, if it
begins with a slash, from the root: an empty name and `.` stay, `..` goes up, any other name goes
down, and each of these steps starts from a folder. So a path that leads through a file or through
nothing leads nowhere, also where a later `..` would come back. The extension of a path is what
follows the last dot of its last name; a dot that begins the name does not count.
-/

namespace DeviceMapping

/-- The names that lead to a place; from the root the first of them is empty. -/
abbrev Place := List String

namespace Place

/-- Where a path begins, and the names that it goes through. -/
def start (path : String) : Place × List String :=
  match path.splitOn "/" with
  | "" :: name :: names => ([""], name :: names)
  | names => ([], names)

/-- The place above; above the root is the root. -/
def above (place : Place) : Place :=
  match place.getLast? with
  | none | some ".." => place ++ [".."]
  | some "" => place
  | some _ => place.dropLast

/-- The place that a name leads to. -/
def step (place : Place) (name : String) : Place :=
  if name = "" || name = "." then place
  else if name = ".." then place.above
  else place ++ [name]

end Place

/-- The texts of the files that are known, and the folders that are known besides those that hold
these files. -/
structure Files where
  texts : List (Place × String)
  folders : List Place

namespace Files

def empty : Files := ⟨[], []⟩

/-- A place is that of a folder; the working directory and all above it are folders. -/
def isFolder (files : Files) (place : Place) : Bool :=
  place.getLast?.all (fun name => name = "" || name = "..") || files.folders.contains place ||
    files.texts.any fun text => place.isPrefixOf text.1 && place != text.1

/-- The place of a path, if each step starts from a folder; the empty path has none. -/
def place? (files : Files) (path : String) : Option Place :=
  if path.isEmpty then none
  else
    let (place, names) := Place.start path
    names.foldlM (fun place name => if files.isFolder place then some (place.step name) else none)
      place

/-- The text of the file at a path. -/
def textAt? (files : Files) (path : String) : Option String :=
  (files.place? path).bind fun place => files.texts.lookup place

/-- A path is that of a file or of a folder. -/
def pathExists (files : Files) (path : String) : Bool :=
  (files.place? path).any fun place =>
    files.isFolder place || (files.texts.lookup place).isSome

/-- The places that a path goes through, the last one first, without regard to what is there. -/
def places (path : String) : List Place :=
  let (place, names) := Place.start path
  names.foldl (fun places name => (places.headD []).step name :: places) [place]

/-- The files with a folder at a path, and folders all the way to it. -/
def addFolder (files : Files) (path : String) : Files :=
  { files with folders := places path ++ files.folders }

/-- The files with a text at a path, and folders all the way to it. -/
def add (files : Files) (path text : String) : Files :=
  match places path with
  | place :: through =>
    { texts := (place, text) :: files.texts, folders := through ++ files.folders }
  | [] => files

/-- What follows the last dot of a name, if anything stands before that dot. -/
def nameExtension (name : String) : Option String :=
  match (name.splitOn ".").reverse with
  | last :: before => if before.all (· == "") && before.length ≤ 1 then none else some last
  | [] => none

/-- The extension of the last name of a path. -/
def extension (path : String) : Option String :=
  match ((path.splitOn "/").filter fun name => name != "" && name != ".").getLast? with
  | some name => if name == ".." then none else nameExtension name
  | none => none

end Files

end DeviceMapping
