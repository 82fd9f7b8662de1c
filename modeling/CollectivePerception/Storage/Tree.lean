/-
This file defines a file system that exists in memory alone, as a list of the places at
which there is a file or a directory. It shows what the program does to files without
touching any.
-/

import CollectivePerception.Storage.Files

namespace CollectivePerception.Storage

/-- What there is at a place. -/
inductive Inode
  | directory
  | file (content : String)
deriving DecidableEq, Repr, Inhabited

/-- A place, by the names on the way from the root. -/
abbrev Place := List String

/-- A file system with a working directory. -/
structure Tree where
  here : Place
  nodes : List (Place × Inode)
deriving Inhabited

namespace Tree

/-- What there is at a place. -/
def at? (tree : Tree) (place : Place) : Option Inode :=
  if place.isEmpty then some .directory
  else (tree.nodes.find? fun node => node.1 == place).map (·.2)

/-- The tree with something put at a place, instead of what was there. -/
def put (tree : Tree) (place : Place) (inode : Inode) : Tree :=
  { tree with nodes := (place, inode) :: tree.nodes.filter fun node => node.1 != place }

/-- A place and the places above it but the root. -/
def upTo (place : Place) : List Place :=
  (List.range place.length).map fun above => place.take (above + 1)

/-- The tree with an empty working directory. -/
def empty (here : Place) : Tree :=
  ⟨here, (upTo here).map fun place => (place, .directory)⟩

/-! ### Finding a place -/

/-- The place that names lead to; all but the last must name directories. -/
def walk (tree : Tree) : Place → List String → Except FileError Place
  | place, [] => .ok place
  | place, name :: rest =>
    match tree.at? place with
    | none => .error .notFound
    | some (.file _) => .error .notDirectory
    | some .directory =>
      if name == "." then tree.walk place rest
      else if name == ".." then tree.walk place.dropLast rest
      else tree.walk (place ++ [name]) rest

/-- The place that a path means. -/
def find (tree : Tree) (path : String) : Except FileError Place :=
  if path.isEmpty then .error .notFound
  else
    tree.walk (if isAbsolute path then [] else tree.here)
      ((pathParts path).filter fun name => !name.isEmpty)

/-- What there is at a path. -/
def inspect (tree : Tree) (path : String) : Except FileError Inode := do
  let place ← tree.find path
  match tree.at? place with
  | none => .error .notFound
  | some .directory => .ok .directory
  | some (.file content) =>
    if asksForDirectory path then .error .notDirectory else .ok (.file content)

/-! ### Operations -/

def isPresent (tree : Tree) (path : String) : Bool := (tree.inspect path).isOk

def isDirectory (tree : Tree) (path : String) : Bool :=
  match tree.inspect path with
  | .ok .directory => true
  | _ => false

def read (tree : Tree) (path : String) : Except FileError String :=
  match tree.inspect path with
  | .ok (.file content) => .ok content
  | .ok .directory => .error .isDirectory
  | .error cause => .error cause

def write (tree : Tree) (path content : String) : Except FileError Tree := do
  let place ← tree.find path
  match tree.at? place with
  | some .directory => .error .isDirectory
  | some (.file _) =>
    if asksForDirectory path then .error .notDirectory else .ok (tree.put place (.file content))
  | none =>
    if asksForDirectory path then .error .isDirectory else .ok (tree.put place (.file content))

def createDirectory (tree : Tree) (path : String) : Except FileError Tree := do
  let place ← tree.find path
  match tree.at? place with
  | some _ => .error .alreadyExists
  | none => .ok (tree.put place .directory)

/-- The tree with a file and the directories above it. -/
def plant (tree : Tree) (path content : String) : Tree :=
  let place := tree.here ++ pathNames path
  let directories := (upTo place.dropLast).foldl
    (fun tree above => if (tree.at? above).isSome then tree else tree.put above .directory) tree
  directories.put place (.file content)

/-- The tree after an operation that changes it unless it fails. -/
def attempt (change : Tree → Except FileError Tree) : StateM Tree (Except FileError Unit) :=
  fun tree =>
    match change tree with
    | .ok changed => (.ok (), changed)
    | .error cause => (.error cause, tree)

/-- The operations of a file system in memory. -/
def files : Files (StateM Tree) where
  isPresent path := fun tree => (tree.isPresent path, tree)
  isDirectory path := fun tree => (tree.isDirectory path, tree)
  read path := fun tree => (tree.read path, tree)
  write path content := attempt fun tree => tree.write path content
  createDirectory path := attempt fun tree => tree.createDirectory path

end Tree

end CollectivePerception.Storage
