import Swatch.Text.Basic

/-!
Paths, and a directory of text files in which they are looked up. A path is a sequence of steps, so
that doubled slashes, slashes at the end and steps to the same place leave no trace in it. Steps to
the place above are kept, because what they mean depends on what is found on the way. Steps and
whole paths have a greatest size, and beyond it nothing can be said about what stands there.
-/
namespace Swatch

/-- What stands at a path, if the path is not too long to be looked up. -/
inductive FileEntry where
  | absent
  | directory
  | tooLong
  | text (content : Text)
  deriving DecidableEq

/-- A path: the slashes it begins with, of which only two differ from one, and its steps. -/
structure Path where
  root : Text
  steps : List Text
  deriving DecidableEq

namespace Path

/-- The path that a text spells. -/
def ofText (text : Text) : Path :=
  let slashes := (text.takeWhile (· == '/')).length
  let root := if slashes = 2 then ['/', '/'] else if slashes = 0 then [] else ['/']
  ⟨root, (text.pieces '/').filter fun step => !step.isEmpty && step != ['.']⟩

/-- The text of a path. The path without a step is a dot. -/
def text (path : Path) : Text :=
  let spelled := path.root ++ Text.joined ['/'] path.steps
  if spelled.isEmpty then ['.'] else spelled

/-- The number of bytes that a text takes. -/
def byteCount (text : Text) : Nat := text.foldl (fun count c => count + c.utf8Size) 0

/-- Whether a step is longer than a name can be. -/
def isLongStep (step : Text) : Bool := byteCount step > 255

/-- Whether a path as a whole is longer than one can be. -/
def isLong (path : Path) : Bool := byteCount path.text > 4095

end Path

/-- The files of a directory and of the directories in it, by their steps from there. -/
structure Workspace where
  files : List (List Text × Text)

namespace Workspace

/-- The workspace that holds files with the given names. -/
def ofFiles (files : List (Text × Text)) : Workspace :=
  ⟨files.map fun file => ((Path.ofText file.1).steps, file.2)⟩

/-- Whether there is a directory at a sequence of steps. -/
def hasDirectory (w : Workspace) (place : List Text) : Bool :=
  place.isEmpty || w.files.any fun file => place.isPrefixOf file.1 && place != file.1

/-- What steps lead to from a directory above the workspace. Only the directories straight above it
are known. -/
def above : List Text → FileEntry
  | [] => .directory
  | step :: rest =>
    if step = ['.', '.'] then above rest else if Path.isLongStep step then .tooLong else .absent

/-- What the remaining steps lead to from a directory in the workspace. -/
def follow (w : Workspace) (place : List Text) : List Text → FileEntry
  | [] => .directory
  | step :: rest =>
    if step = ['.', '.'] then
      if place.isEmpty then above rest else w.follow place.dropLast rest
    else if Path.isLongStep step then .tooLong
    else
      let next := place ++ [step]
      match w.files.lookup next with
      | some content => if rest.isEmpty then .text content else .absent
      | none => if w.hasDirectory next then w.follow next rest else .absent

/-- What stands at a path. A path from the root leads out of the workspace, and one with a null
character leads nowhere. -/
def find (w : Workspace) (path : Path) : FileEntry :=
  if path.text.contains '\x00' then .absent
  else if path.isLong then .tooLong
  else if path.root.isEmpty then w.follow [] path.steps
  else above path.steps

end Workspace

end Swatch
