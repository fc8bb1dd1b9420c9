import CloudSynth.Text.Space

/-!
# File paths

A path is read as its components: the parts between slashes, of which empty parts and single dots
name nothing. A leading slash anchors the path at the root and a leading dot at the current
directory; both belong to the path but are no part of its body.
-/

namespace CloudSynth.Text.Path

/-- The path with slashes for backslashes. -/
def slashed (path : List Char) : List Char :=
  path.map fun character => if character = '\\' then '/' else character

/-- The text before and after the last `mark`. -/
def cutLast (mark : Char) : List Char → Option (List Char × List Char)
  | [] => none
  | character :: rest =>
    match cutLast mark rest with
    | some (before, after) => some (character :: before, after)
    | none => if character = mark then some ([], rest) else none

/-- The path without the extension of its last part. -/
def withoutExtension (path : List Char) : List Char :=
  match cutLast '.' path with
  | some (stem, extension) => if '/' ∈ extension then path else stem
  | none => path

/-- The leading slash, or the leading dot that stands for the current directory, and the rest. -/
def split : List Char → List Char × List Char
  | '/' :: body => (['/'], body)
  | ['.'] => (['.'], [])
  | '.' :: '/' :: body => (['.'], '/' :: body)
  | body => ([], body)

/-- An empty part and a single dot name nothing. -/
def namesNothing (part : List Char) : Bool := part = [] || part = ['.']

/-- The parts of a body up to the last one that names something, last part first. -/
def namedParts (body : List Char) : List (List Char) :=
  (pieces (· == '/') body).reverse.dropWhile namesNothing

/-- The path above the last component; the root and the empty path have none. -/
def parent (path : List Char) : Option (List Char) :=
  let (anchor, body) := split path
  match namedParts body with
  | _ :: above =>
    some (anchor ++ ['/'].intercalate (above.dropWhile namesNothing).reverse)
  | [] => if anchor = ['.'] then some [] else none

/-- The last component, unless it is the step to the directory above. -/
def fileName (path : List Char) : Option (List Char) :=
  match namedParts (split path).2 with
  | name :: _ => if name = ['.', '.'] then none else some name
  | [] => none

/-- The file name up to its last dot; a dot in front belongs to the name. -/
def fileStem (path : List Char) : Option (List Char) :=
  (fileName path).map fun name =>
    match cutLast '.' name with
    | some ([], _) => name
    | some (stem, _) => stem
    | none => name

end CloudSynth.Text.Path
