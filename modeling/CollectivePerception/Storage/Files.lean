/-
This file defines what the program needs of a file system: to ask for a file, to read
and to write one, and to make a directory. Making a directory with all those above it is
built on top: the nearest directory that exists is found from below, and those missing
are made on the way back. The file also says what the lines of a text are.
-/

namespace CollectivePerception.Storage

/-! ### Paths -/

/-- The parts of a path, between its slashes. -/
def pathParts (path : String) : List String := (path.toList.splitOn '/').map String.ofList

/-- The names on a path. A dot counts only at the start of a relative path. -/
def pathNames (path : String) : List String :=
  match pathParts path with
  | [] => []
  | first :: rest =>
    (if first.isEmpty then [] else [first]) ++
      rest.filter fun name => !name.isEmpty && name != "."

def isAbsolute (path : String) : Bool := path.toList.head? == some '/'

/-- Whether a path asks for a directory by its end. -/
def asksForDirectory (path : String) : Bool := path.toList.getLast? == some '/'

/-- The path with the given names. -/
def pathOf (absolute : Bool) (names : List String) : String :=
  (if absolute then "/" else "") ++ "/".intercalate names

/-- The path of the directory that a path lies in, which may be empty. -/
def parent? (path : String) : Option String :=
  match pathNames path with
  | [] => none
  | names => some (pathOf (isAbsolute path) names.dropLast)

/-- The path of a name in a directory. -/
def child (directory name : String) : String :=
  if directory.isEmpty || asksForDirectory directory then directory ++ name
  else directory ++ "/" ++ name

/-! ### Lines -/

/-- The lines of a text, of which the last one need not be ended. An end of line may
have a carriage return before it. -/
def linesOf (text : String) : List String :=
  let parts := text.splitOn "\n"
  let lines := if parts.getLast? == some "" then parts.dropLast else parts
  lines.map fun line => if line.endsWith "\r" then (line.dropEnd 1).toString else line

/-- A text of which every line is ended. -/
def ofLines (lines : List String) : String := String.join (lines.map (· ++ "\n"))

/-! ### Operations -/

/-- Why an operation on a file failed. -/
inductive FileError
  | notFound
  | alreadyExists
  | notDirectory
  | isDirectory
  | other (text : String)
deriving DecidableEq, Repr

def FileError.message : FileError → String
  | notFound => "No such file or directory (os error 2)"
  | alreadyExists => "File exists (os error 17)"
  | notDirectory => "Not a directory (os error 20)"
  | isDirectory => "Is a directory (os error 21)"
  | other text => text

/-- The operations of a file system, in a monad that has its state. -/
structure Files (m : Type → Type) where
  /-- Whether there is anything at a path. -/
  isPresent : String → m Bool
  isDirectory : String → m Bool
  read : String → m (Except FileError String)
  /-- Writes a file, in the place of one that was there. -/
  write : (path content : String) → m (Except FileError Unit)
  /-- Makes one directory in one that exists. -/
  createDirectory : String → m (Except FileError Unit)

namespace Files

/-- The operations in another monad that can do what the first one does. -/
def lift {m other : Type → Type} (files : Files m) (run : {α : Type} → m α → other α) :
    Files other where
  isPresent path := run (files.isPresent path)
  isDirectory path := run (files.isDirectory path)
  read path := run (files.read path)
  write path content := run (files.write path content)
  createDirectory path := run (files.createDirectory path)

variable {m : Type → Type} [Monad m]

/-- What came of making a directory, where one that was there before is as good. -/
def settle (files : Files m) (path : String) (result : Except FileError Unit) :
    m (Except FileError Unit) := do
  match result with
  | .ok _ => return .ok ()
  | .error cause => return if ← files.isDirectory path then .ok () else .error cause

/-- Makes a directory and those above it, of which there are at most `depth`. -/
def createAll (files : Files m) : (depth : Nat) → String → m (Except FileError Unit)
  | 0, _ => return .ok ()
  | depth + 1, path => do
    if path.isEmpty then return .ok ()
    match ← files.createDirectory path with
    | .error .notFound =>
      match parent? path with
      | none => return .error .notFound
      | some above =>
        match ← files.createAll depth above with
        | .error cause => return .error cause
        | .ok _ => files.settle path (← files.createDirectory path)
    | result => files.settle path result

/-- Makes a directory and those above it. -/
def createDirectories (files : Files m) (path : String) : m (Except FileError Unit) :=
  files.createAll ((pathNames path).length + 1) path

end Files

end CollectivePerception.Storage
