/-!
# Files

What stands at a path, as far as the program can see: nothing, a regular file,
or a folder or device.  A working folder is given by the files below it; outside
it lies what every system has.
-/

namespace TaskBoard

/-- What stands at a path. -/
inductive Entry where
  | nothing
  /-- A regular file, and its text if its bytes are one. -/
  | file (text : Option String)
  /-- A folder or a device, and what reading it gives if it can be read. -/
  | special (text : Option String)
  deriving DecidableEq, Repr

namespace Entry

/-- A folder, which cannot be read. -/
def folder : Entry := .special none

/-- Whether something stands at the path. -/
def isPresent : Entry → Bool
  | nothing => false
  | _ => true

/-- What reading gives. -/
def read? : Entry → Option String
  | nothing => none
  | file text => text
  | special text => text

end Entry

/-- The files below a working folder, by their paths from it. -/
structure WorkingFolder where
  files : List (String × String)
  deriving DecidableEq, Repr

namespace WorkingFolder

/-- The names along a path, without those that stay in the same folder. -/
def names (path : String) : List (List Char) :=
  (path.toList.splitOn '/').filter fun name => !(name.isEmpty || name == ['.'])

/-- The name that leads to the folder around. -/
def around : List Char := ['.', '.']

/-- The files with the names along their paths. -/
def paths (folder : WorkingFolder) : List (List (List Char) × String) :=
  folder.files.map fun file => (names file.1, file.2)

/-- The folders outside that are there everywhere. -/
def outsideFolders : List String :=
  ["/", "/bin", "/dev", "/etc", "/home", "/lib", "/media", "/mnt", "/opt", "/proc", "/root",
    "/run", "/sbin", "/srv", "/sys", "/tmp", "/usr", "/usr/bin", "/usr/lib", "/usr/local",
    "/usr/sbin", "/usr/share", "/var", "/var/lib", "/var/log", "/var/tmp"]

/-- The devices and files outside that are there everywhere. -/
def outsideEntries : List (String × Entry) := [
  ("/dev/null", .special (some "")),
  ("/dev/stdin", .special (some "")),
  ("/dev/zero", .special none),
  ("/dev/full", .special none),
  ("/dev/random", .special none),
  ("/dev/urandom", .special none),
  ("/dev/tty", .special none),
  ("/etc/passwd", .file (some "root:x:0:0:root:/root:/bin/sh\n")),
  ("/etc/group", .file (some "root:x:0:\n")),
  ("/etc/hosts", .file (some "127.0.0.1\tlocalhost\n")),
  ("/etc/hostname", .file (some "localhost\n")),
  ("/bin/sh", .file none)]

/-- What stands outside at the end of the names that lead there from the root. -/
def outside (trail : List (List Char)) : Entry :=
  if outsideFolders.any fun path => names path == trail then .folder
  else ((outsideEntries.map fun entry => (names entry.1, entry.2)).lookup trail).getD .nothing

/-- The names that lead from the root to the folder around the working folder. -/
def home : List (List Char) := names "/tmp"

/-- Where a walk along a path stands. -/
inductive Place where
  /-- In a folder below the working folder, by the names that lead to it. -/
  | below (trail : List (List Char))
  /-- Outside the working folder, by the names that lead there from the root. -/
  | outside (trail : List (List Char))
  | atFile (text : String)

/-- What stands at a place. -/
def Place.entry : Place → Entry
  | below _ => .folder
  | outside trail => WorkingFolder.outside trail
  | atFile text => .file (some text)

/-- Go on to a name: the folder around, a folder or a file. -/
def step (folder : WorkingFolder) (place : Place) (name : List Char) : Option Place :=
  if place.entry != .folder then none
  else
    match place with
    | .below trail =>
        if name == around then some (if trail.isEmpty then .outside home else .below trail.dropLast)
        else
          let trail := trail ++ [name]
          match folder.paths.lookup trail with
          | some text => some (.atFile text)
          | none =>
              if folder.paths.any fun file => trail.isPrefixOf file.1 then some (.below trail)
              else none
    | .outside trail => some (.outside (if name == around then trail.dropLast else trail ++ [name]))
    | .atFile _ => none

/-- Whether a path can lead to a folder only: it ends at a separator or at the same folder. -/
def endsAtFolder (path : String) : Bool :=
  match (path.toList.splitOn '/').getLast? with
  | some [] => true
  | some ['.'] => true
  | _ => false

/-- The number of bytes that a path may have. -/
def longestPath : Nat := 4095

/-- What stands at a path from the working folder or from the root. -/
def entry (folder : WorkingFolder) (path : String) : Entry :=
  if path.isEmpty || decide (longestPath < path.utf8ByteSize) then .nothing
  else
    let start : Place := if path.startsWith "/" then .outside [] else .below []
    match (names path).foldlM folder.step start with
    | none => .nothing
    | some place =>
        if endsAtFolder path && place.entry != .folder then .nothing else place.entry

end WorkingFolder

end TaskBoard
