import CloudSynth.Error
import CloudSynth.Text.Path

/-!
# Where resources are defined

A resource remembers the file, line and column of its definition. Some resources must be defined in
the file that convention gives them; the file is compared part by part from its end, without its
extension, and with slashes for backslashes.
-/

namespace CloudSynth

/-- Where a resource was defined. -/
structure DefinitionSite where
  file : String
  line : Nat
  column : Nat
  deriving DecidableEq, Repr, Inhabited

namespace DefinitionSite

/-- File, line and column with colons between them. -/
def print (site : DefinitionSite) : String :=
  site.file ++ ":" ++ toString site.line ++ ":" ++ toString site.column

/-- The file with slashes only. -/
def slashedFile (site : DefinitionSite) : List Char := Text.Path.slashed site.file.toList

/-- The file with slashes only and without its extension. -/
def normalized (site : DefinitionSite) : List Char :=
  Text.Path.withoutExtension site.slashedFile

/-- The directory of the file. -/
def directory? (site : DefinitionSite) : Option (List Char) := Text.Path.parent site.slashedFile

/-- The name of the directory of the file. -/
def directoryName? (site : DefinitionSite) : Option (List Char) :=
  site.directory?.bind Text.Path.fileName

/-- The site is in the file at the expected path: the whole path, or its last parts. -/
def isAt (site : DefinitionSite) (expected : String) : Bool :=
  let actual := site.normalized
  let expected := Text.Path.slashed expected.toList
  actual = expected || ('/' :: expected).isSuffixOf actual

/-- Refuses a definition outside the file at the expected path. -/
def verify (site : DefinitionSite) (expected message : String) : Except BackendError Unit :=
  if site.isAt expected then .ok () else .error (.importPathMismatch message site.print)

end DefinitionSite

end CloudSynth
