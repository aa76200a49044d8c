import NodeProbe.Text.Quoted

/-!
# Files

The files that the program may read, as a table from places to files and directories, and the place
of the working directory, which is always there. `Files.find` walks a path part by part: every part
but the last one must be a directory, and so must the last one if a slash follows it. No path holds
a NUL, and neither a path nor one of its parts may be too long. `Files.read` takes a path as a text;
for the operating system, and in what it says about a path, U+FFFD stands for a lone half of a
character.
-/

namespace NodeProbe

/-- What a path leads to. -/
inductive Entry where
  | file (content : Bytes)
  | directory
  deriving DecidableEq

/-- The files, each at its place: the parts of its path from the root. The working directory is
known by its place alone if no path can name it. -/
structure Files where
  workingDirectory : List String
  entries : List (List String × Entry)

/-- Why a file cannot be read. -/
inductive FileFault where
  | notFound (path : String)
  | isDirectory
  | notDirectory (path : String)
  | nameTooLong (path : String)
  /-- The path holds a NUL. -/
  | impossible (path : Text)
  deriving DecidableEq, Repr

/-- The wording of the operating system, or of what stands in front of it. -/
def FileFault.message : FileFault → Text
  | notFound path => "ENOENT: no such file or directory, open '" ++ path ++ "'"
  | isDirectory => "EISDIR: illegal operation on a directory, read"
  | notDirectory path => "ENOTDIR: not a directory, open '" ++ path ++ "'"
  | nameTooLong path => "ENAMETOOLONG: name too long, open '" ++ path ++ "'"
  | impossible path =>
    "The argument 'path' must be a string, Uint8Array, or URL without null bytes. Received " ++
      Text.Quoted.shown path

/-- The parts of a path between its slashes. -/
def pathParts (path : String) : List String :=
  (path.toList.splitOn '/').map String.ofList

/-- Resolves the parts of a path from left to right. A part `..` takes away the part before it, and
stands at the beginning of a relative path. -/
def resolveParts (absolute : Bool) (parts : List String) : List String :=
  parts.foldl
    (fun done part =>
      if part = "" || part = "." then done
      else if part = ".." then
        match done.getLast? with
        | none => if absolute then [] else [".."]
        | some ".." => done ++ [".."]
        | some _ => done.dropLast
      else done ++ [part])
    []

/-- Joins parts of a path and resolves the result. A slash at the end stays. -/
def joinPath (parts : List String) : String :=
  let joined := "/".intercalate (parts.filter (· ≠ ""))
  let absolute := joined.startsWith "/"
  let body := "/".intercalate (resolveParts absolute (pathParts joined))
  let ending := if joined.endsWith "/" then "/" else ""
  if absolute then (if body = "" then "/" else "/" ++ body ++ ending)
  else (if body = "" then "." else body) ++ ending

namespace Files

/-- An empty working directory. Its name holds a slash, so that no path leads into it from above. -/
def empty : Files :=
  ⟨["/"], []⟩

/-- Where a path begins: at the root if it begins with a slash. -/
def origin (files : Files) (path : String) : List String :=
  if path.startsWith "/" then [] else files.workingDirectory

/-- One part of a path further. -/
def stepInto (place : List String) (part : String) : List String :=
  if part = "" || part = "." then place
  else if part = ".." then place.dropLast
  else place ++ [part]

/-- The place that a path names. -/
def placeOf (files : Files) (path : String) : List String :=
  (pathParts path).foldl stepInto (files.origin path)

/-- What stands at a place. -/
def at? (files : Files) (place : List String) : Option Entry :=
  if place.isPrefixOf files.workingDirectory then some .directory else files.entries.lookup place

/-- Removes what a path leads to, and everything below it. -/
def remove (files : Files) (path : String) : Files :=
  { files with entries := files.entries.filter fun e => !(files.placeOf path).isPrefixOf e.1 }

/-- The directories that a place is in, from the root on. -/
def parents (place : List String) : List (List String) :=
  (List.range place.length).map place.take

/-- Puts a file or a directory at a path, and creates the directories that it is in. -/
def put (files : Files) (path : String) (entry : Entry) : Files :=
  let place := files.placeOf path
  let created := (parents place).filter fun directory => (files.at? directory).isNone
  { files with
    entries :=
      files.entries.filter (·.1 ≠ place) ++ created.map (·, .directory) ++ [(place, entry)] }

/-- Why a walk ends before its goal. -/
inductive Obstacle where
  | missing
  | notDirectory
  | nameTooLong
  | impossible
  deriving DecidableEq

/-- The greatest number of octets in a part of a path. -/
def greatestPart : Nat := 255

/-- The greatest number of octets in a path. -/
def greatestPath : Nat := 4095

/-- Walks on from a place. -/
def walk (files : Files) (place : List String) : List String → Except Obstacle Entry
  | [] =>
    match files.at? place with
    | some entry => .ok entry
    | none => .error .missing
  | part :: rest =>
    match files.at? place with
    | none => .error .missing
    | some (.file _) => .error .notDirectory
    | some .directory =>
      if greatestPart < part.utf8ByteSize then .error .nameTooLong
      else files.walk (stepInto place part) rest

/-- What a path leads to. The empty path leads nowhere. -/
def find (files : Files) (path : String) : Except Obstacle Entry :=
  if path.toList.contains '\x00' then .error .impossible
  else if path = "" then .error .missing
  else if greatestPath < path.utf8ByteSize then .error .nameTooLong
  else files.walk (files.origin path) (pathParts path)

/-- A path leads to something. -/
def isThere (files : Files) (path : Text) : Bool :=
  match files.find path.toString with
  | .ok _ => true
  | .error _ => false

/-- The content of a file. -/
def read (files : Files) (path : Text) : Except FileFault Bytes :=
  match files.find path.toString with
  | .ok (.file content) => .ok content
  | .ok .directory => .error .isDirectory
  | .error .missing => .error (.notFound path.toString)
  | .error .notDirectory => .error (.notDirectory path.toString)
  | .error .nameTooLong => .error (.nameTooLong path.toString)
  | .error .impossible => .error (.impossible path)

/-- The text of a file. -/
def readText (files : Files) (path : Text) : Except FileFault String :=
  match files.read path with
  | .ok content => .ok (Text.Utf8.decode content)
  | .error fault => .error fault

end Files

end NodeProbe
