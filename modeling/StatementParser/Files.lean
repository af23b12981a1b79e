/-!
The files a path may name: those below the working directory, in folders of any depth. Above the
working directory nothing can be seen but folders. Reading yields the text of a file, or the reason
why there is none.
-/
namespace StatementParser

inductive ReadFault where
  | notFound
  | notFolder
  | isFolder
  | nameTooLong
  | nulInPath
  | notText
  | other (text : String)
  deriving DecidableEq, Repr

def ReadFault.message : ReadFault → String
  | .notFound => "No such file or directory (os error 2)"
  | .notFolder => "Not a directory (os error 20)"
  | .isFolder => "Is a directory (os error 21)"
  | .nameTooLong => "File name too long (os error 36)"
  | .nulInPath => "file name contained an unexpected NUL byte"
  | .notText => "stream did not contain valid UTF-8"
  | .other text => text

inductive Files.Entry where
  | folder
  | file (content : ByteArray)

/-- Entries by the names on the way to them from the working directory. A folder that holds an entry
need not be listed itself. -/
structure Files where
  entries : List (List String × Files.Entry)

namespace Files

inductive Place where
  | below (names : List String)
  | above
  deriving DecidableEq, Repr

def entry? (files : Files) (names : List String) : Option Entry :=
  if names = [] then some .folder
  else
    match files.entries.find? fun entry => entry.1 == names with
    | some found => some found.2
    | none => if files.entries.any fun entry => names.isPrefixOf entry.1 then some .folder else none

def isFolder (files : Files) : Place → Bool
  | .above => true
  | .below names =>
    match files.entry? names with
    | some .folder => true
    | _ => false

def parent : Place → Place
  | .above => .above
  | .below [] => .above
  | .below names => .below names.dropLast

def child (files : Files) (place : Place) (name : String) : Except ReadFault Place :=
  if name = "" ∨ name = "." then .ok place
  else if name = ".." then .ok (parent place)
  else if 255 < name.utf8ByteSize then .error .nameTooLong
  else
    match place with
    | .above => .error .notFound
    | .below names =>
      if (files.entry? (names ++ [name])).isSome then .ok (.below (names ++ [name]))
      else .error .notFound

/-- Follow the names of a path one by one; each but the last must lead to a folder. -/
def follow (files : Files) : Place → List String → Except ReadFault Place
  | place, [] => .ok place
  | place, name :: rest =>
    if files.isFolder place then
      match files.child place name with
      | .ok next => follow files next rest
      | .error fault => .error fault
    else .error .notFolder

def locate (files : Files) (path : String) : Except ReadFault Place :=
  if path.toList.contains '\x00' then .error .nulInPath
  else if path = "" then .error .notFound
  else if 4096 ≤ path.utf8ByteSize then .error .nameTooLong
  else
    let start := if path.toList.head? = some '/' then .above else .below []
    follow files start (path.splitOn "/")

def contentAt (files : Files) : Place → Except ReadFault ByteArray
  | .above => .error .isFolder
  | .below names =>
    match files.entry? names with
    | some (.file content) => .ok content
    | some .folder => .error .isFolder
    | none => .error .notFound

def textOf (content : ByteArray) : Except ReadFault String :=
  match String.fromUTF8? content with
  | some text => .ok text
  | none => .error .notText

def read (files : Files) (path : String) : Except ReadFault String := do
  let place ← files.locate path
  let content ← files.contentAt place
  textOf content

end Files
end StatementParser
