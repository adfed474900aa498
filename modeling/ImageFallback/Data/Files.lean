import ImageFallback.Text.Split

/-!
# A file tree

The files that exist when options are looked for, below one folder. A path is a list of names; the
names `.` and `..` have their usual meaning, and what lies outside of the outermost folder is
unknown and counts as absent. What stands at a place is a folder, a text, or bytes that are no text.
-/

namespace ImageFallback

/-- What stands at a place of a file tree. -/
inductive Entry where
  | folder
  | text (content : String)
  | bytes
  deriving DecidableEq, Repr

/-- A file with the given bytes. -/
def Entry.ofBytes (content : ByteArray) : Entry :=
  match String.fromUTF8? content with
  | some decoded => .text decoded
  | none => .bytes

/-- What stands under a name in some folder. -/
abbrev Folder := String → Option Entry

/-- Files and folders by the names on their paths. -/
structure Files where
  entries : List (List String × Entry)

namespace Files

/-- The names on a path, without empty ones and without those that stay in place. -/
def names (path : String) : List String :=
  (Text.split '/' path).filter fun name => !name.isEmpty && name != "."

/-- Files given by their paths. -/
def ofPaths (paths : List (String × Entry)) : Files :=
  ⟨paths.map fun p => (names p.1, p.2)⟩

/-- What stands at an absolute place, where a file makes all folders above it exist. -/
def entryAt? (files : Files) (place : List String) : Option Entry :=
  match files.entries.find? (·.1 == place) with
  | some (_, entry) => some entry
  | none =>
    if place.isEmpty || files.entries.any (fun e => place.isPrefixOf e.1) then some .folder
    else none

/-- The absolute place of a path that is followed from a folder, if every folder on the way
exists. -/
def follow? (files : Files) : List String → List String → Option (List String)
  | place, [] => some place
  | place, name :: rest =>
    if files.entryAt? place != some .folder then none
    else if name == ".." then
      if place.isEmpty then none else files.follow? place.dropLast rest
    else files.follow? (place ++ [name]) rest

/-- The path ends in a slash or stays in place at its end, so only a folder can stand there. -/
def namesFolder (path : String) : Bool :=
  match (Text.split '/' path).getLast? with
  | some last => last.isEmpty || last == "."
  | none => true

/-- What stands at a path that is followed from a folder. A path from the root of all files leads
out of the tree. -/
def entryFrom? (files : Files) (place : List String) (path : String) : Option Entry :=
  if path.startsWith "/" then none
  else do
    let entry ← (files.follow? place (names path)).bind files.entryAt?
    if namesFolder path && entry != .folder then none else return entry

/-- The path of a name in a folder. -/
def pathIn (root name : String) : String :=
  if root.isEmpty || root.endsWith "/" then root ++ name else root ++ "/" ++ name

/-- The folder at a path. -/
def folderAt (files : Files) (root : String) : Folder := fun name =>
  files.entryFrom? [] (pathIn root name)

end Files

end ImageFallback
