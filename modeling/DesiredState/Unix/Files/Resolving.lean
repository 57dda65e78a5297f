import DesiredState.Files.Tree

/-!
# Resolving paths

A path can lead to the same node in many ways.  Resolving it gives the one path from the first
directory that has no links and no dots in it; some or all of it may be missing.

## Main definitions

* `Existence` — how much of a path has to be there.
* `FileTree.resolve` — the path that a path stands for.
* `relativePath` — the way from one path to another one.
-/

namespace DesiredState

/-- How much of a path has to be there. -/
inductive Existence where
  | all
  | allButLast
  | nothing
  deriving DecidableEq, Repr

/-- What is behind the directories of a path. -/
inductive PathEnd where
  | nothing
  /-- A file. -/
  | file (name : String)
  /-- Names of what is not there, the last one first. -/
  | missing (names : List String)

/-- A path that was resolved: a directory, and what is behind it. -/
structure ResolvedPath where
  directory : Nat
  behind : PathEnd

namespace FileTree

/-- Resolves components from a directory, of which `links` may be links that are followed. -/
def resolveFrom (tree : FileTree) (existence : Existence) (links : Nat) (names : List String)
    (id : Nat) (behind : PathEnd) : Except Fault ResolvedPath :=
  match names with
  | [] => .ok ⟨id, behind⟩
  | name :: rest =>
      let isDot := name = "" || name = "."
      match behind with
      | .file file =>
          if existence = .nothing then
            if isDot then tree.resolveFrom existence links rest id behind
            else if name = ".." then tree.resolveFrom existence links rest id .nothing
            else tree.resolveFrom existence links rest id (.missing [name, file])
          else .error .notDirectory
      | .missing gone =>
          if isDot then tree.resolveFrom existence links rest id behind
          else if existence ≠ .nothing then .error .notFound
          else if name = ".." then
            tree.resolveFrom existence links rest id
              (if gone.length ≤ 1 then .nothing else .missing (gone.drop 1))
          else tree.resolveFrom existence links rest id (.missing (name :: gone))
      | .nothing =>
          match tree.content id with
          | .directory outer entries =>
              if isDot then tree.resolveFrom existence links rest id .nothing
              else if name = ".." then tree.resolveFrom existence links rest outer .nothing
              else
                match Entries.get? entries name with
                | none =>
                    let isLast := rest.all (· == "")
                    if existence = .all || (existence = .allButLast && !isLast) then
                      .error .notFound
                    else tree.resolveFrom existence links rest id (.missing [name])
                | some child =>
                    match tree.content child with
                    | .link target =>
                        match links with
                        | 0 => .error .tooManyLinks
                        | links + 1 =>
                            tree.resolveFrom existence links (pathComponents target ++ rest)
                              (if isAbsolute target then 0 else id) .nothing
                    | .directory _ _ => tree.resolveFrom existence links rest child .nothing
                    | _ => tree.resolveFrom existence links rest id (.file name)
          | _ => .error .notDirectory
termination_by (links, names.length)

/-- A directory's path with a name behind it. -/
def joinedPath (directory name : String) : String :=
  if directory = "/" then "/" ++ name else directory ++ "/" ++ name

/-- The path that a path from a directory stands for. -/
def resolve (tree : FileTree) (existence : Existence) (start : Nat) (path : String) :
    Except Fault String := do
  if path.isEmpty then throw .notFound
  let found ← tree.resolveFrom existence maxLinks (pathComponents path)
    (if isAbsolute path then 0 else start) .nothing
  let directory := tree.pathOf found.directory
  pure (match found.behind with
    | .nothing => directory
    | .file name => joinedPath directory name
    | .missing names => names.foldr (fun name path => joinedPath path name) directory)

end FileTree

/-- The components of a path from the first directory without dots, which are undone name by
name. -/
def plainComponents (path : String) : List String :=
  ((pathComponents path).foldl (fun names name =>
    if name = "" || name = "." then names
    else if name = ".." then names.drop 1
    else name :: names) []).reverse

/-- The path of components from the first directory. -/
def absolutePath (names : List String) : String := "/" ++ "/".intercalate names

/-- How many components two paths have in common at their start. -/
def commonLength : List String → List String → Nat
  | a :: as, b :: bs => if a = b then commonLength as bs + 1 else 0
  | _, _ => 0

/-- The way from one path from the first directory to another one. -/
def relativePath (start path : String) : String :=
  let a := plainComponents start
  let b := plainComponents path
  let n := commonLength a b
  let names := List.replicate (a.length - n) ".." ++ b.drop n
  if names.isEmpty then "." else "/".intercalate names

end DesiredState
