import FixtureImages.Text.Utf8Message

/-!
# File trees

Files and folders by name, and reading a text file by its path.
-/

namespace FixtureImages

set_option autoImplicit false

inductive FileTree
  | file (bytes : List UInt8)
  | folder (entries : List (String × FileTree))
deriving Inhabited

inductive FileFault
  | missing (path : String)
  | isFolder (path : String)
  | notFolder (path : String)
  | encoding (fault : Text.Utf8Fault)
deriving DecidableEq

def FileFault.message : FileFault → String
  | .missing path => "[Errno 2] No such file or directory: '" ++ path ++ "'"
  | .isFolder path => "[Errno 21] Is a directory: '" ++ path ++ "'"
  | .notFolder path => "[Errno 20] Not a directory: '" ++ path ++ "'"
  | .encoding fault => fault.message

/-- The parts of a path; empty ones and single dots lead nowhere. -/
def pathParts (path : String) : List String :=
  ((path.toList.splitOn '/').map String.ofList).filter fun part => part != "" && part != "."

def joinPath (root : String) (parts : List String) : String :=
  parts.foldl (fun path part => path ++ "/" ++ part) root

namespace FileTree

/-- Put something at a path, inside folders that are made on the way. -/
def put (content : FileTree) : List String → FileTree → FileTree
  | [], _ => content
  | part :: rest, tree =>
      let entries := match tree with
        | .folder entries => entries
        | .file _ => []
      let inner := (entries.lookup part).getD (.folder [])
      .folder ((entries.filter fun entry => entry.1 != part) ++ [(part, put content rest inner)])

/-- What stands at a path, or the fault of the whole path `shown`. -/
def find (shown : String) : List String → FileTree → Except FileFault FileTree
  | [], tree => .ok tree
  | _ :: _, .file _ => .error (.notFolder shown)
  | part :: rest, .folder entries =>
      match entries.lookup part with
      | some inner => find shown rest inner
      | none => .error (.missing shown)

/-- Lines may end in a line feed, a carriage return or both; all are read as line feeds. -/
def unifyBreaks : List Char → List Char
  | '\r' :: '\n' :: rest => '\n' :: unifyBreaks rest
  | '\r' :: rest => '\n' :: unifyBreaks rest
  | c :: rest => c :: unifyBreaks rest
  | [] => []

/-- The text of the file at a path below a root of the given name. -/
def readText (root : String) (parts : List String) (tree : FileTree) : Except FileFault String :=
  let shown := joinPath root parts
  match tree.find shown parts with
  | .error fault => .error fault
  | .ok (.folder _) => .error (.isFolder shown)
  | .ok (.file bytes) =>
      match Text.ofUtf8 bytes with
      | .ok text => .ok (String.ofList (unifyBreaks text.toList))
      | .error fault => .error (.encoding fault)

/-- The names in the folder at a path, none when there is no folder. -/
def names (parts : List String) (tree : FileTree) : List String :=
  match tree.find "" parts with
  | .ok (.folder entries) => entries.map Prod.fst
  | _ => []

end FileTree

end FixtureImages
