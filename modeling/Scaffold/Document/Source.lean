import Scaffold.Path

/-!
# Sources of documents

A text that is a URL names a document on the web; any other text is a path.  Among the dependencies
of a document, URLs and absolute paths are documents and everything else is a package.
-/

namespace Scaffold

/-- What follows the scheme of a URL. -/
def afterScheme? (cs : List Char) : Option (List Char) :=
  ["http://", "https://", "ftp://"].findSome? fun scheme =>
    if scheme.toList.isPrefixOf cs then some (cs.drop scheme.length) else none

/-- A host does not start with a blank or with one of `/`, `$`, `.`, `?` and `#`. -/
def isHostStart (c : Char) : Bool :=
  !Text.isBlank c && !(c == '/' || c == '$' || c == '.' || c == '?' || c == '#')

/-- The host start, any one character that does not end a line, and then no blanks. -/
def isUrlBody : List Char → Bool
  | first :: second :: rest =>
      isHostStart first && second != '\n' && rest.all fun c => !Text.isBlank c
  | _ => false

def isUrl (text : String) : Bool :=
  match afterScheme? text.toList with
  | some body => isUrlBody body
  | none => false

inductive DocumentSource where
  | remote (url : String)
  | «local» (path : Path)
deriving DecidableEq, Repr

namespace DocumentSource

def parse (text : String) : DocumentSource :=
  if isUrl text then .remote text else .local ⟨text⟩

/-- The document that an entry of a dependency list names, if it names one. -/
def ofDependency? (entry : String) : Option DocumentSource :=
  if isUrl entry || (Path.mk entry).isAbsolute then some (parse entry) else none

/-- The text by which documents are told apart. -/
def key : DocumentSource → String
  | .remote url => url
  | .local path => path.text

end DocumentSource
end Scaffold
