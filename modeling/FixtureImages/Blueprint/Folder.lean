import FixtureImages.Blueprint.Document
import FixtureImages.FileTree
import FixtureImages.Log

/-!
# Folders of blueprints

Blueprints are kept one a file. A folder is loaded in order of the file names, first the files that
end in `.yaml` and then those that end in `.yml`; no two of them may hold blueprints of one name.
-/

namespace FixtureImages

set_option autoImplicit false

inductive LoadFault
  | file (fault : FileFault)
  | document (fault : DocumentFault)
  | duplicate (name path : String)
deriving DecidableEq

namespace Blueprint

def load (root : String) (parts : List String) (tree : FileTree) : Except LoadFault Blueprint :=
  match tree.readText root parts with
  | .error fault => .error (.file fault)
  | .ok text => (ofYaml text).mapError .document

/-- Put a name in its place among sorted names. -/
def placeName (name : String) : List String → List String
  | [] => [name]
  | other :: rest => if name < other then name :: other :: rest else other :: placeName name rest

def sortNames (names : List String) : List String := names.foldr placeName []

def endsWith (ending name : String) : Bool := ending.toList.reverse.isPrefixOf name.toList.reverse

/-- The names of blueprint files, in the order in which they are loaded. -/
def fileOrder (names : List String) : List String :=
  sortNames (names.filter (endsWith ".yaml")) ++ sortNames (names.filter (endsWith ".yml"))

/-- Load files one after the other, up to the first fault. -/
def loadFiles (root : String) (folder : List String) (tree : FileTree) (loaded : Table Blueprint) :
    List String → List LogRecord × Except LoadFault (Table Blueprint)
  | [] => ([], .ok loaded)
  | file :: rest =>
      let parts := folder ++ [file]
      match load root parts tree with
      | .error fault => ([], .error fault)
      | .ok blueprint =>
          let name := blueprint.name.text
          if loaded.contains name then ([], .error (.duplicate name (joinPath root parts)))
          else
            let (records, result) := loadFiles root folder tree (loaded.insert name blueprint) rest
            (⟨.debug, .store, "[Store] Loaded blueprint '" ++ name ++ "' from " ++ file⟩ :: records,
              result)

/-- Load all blueprints of a folder below a root, by name. -/
def loadFolder (root : String) (folder : List String) (tree : FileTree) :
    List LogRecord × Except LoadFault (Table Blueprint) :=
  loadFiles root folder tree ∅ (fileOrder (tree.names folder))

end Blueprint

/-- The message about a file that cannot be loaded, for faults that have one of their own. -/
def LoadFault.message : LoadFault → String
  | .file fault => fault.message
  | .document (.document fault) => fault.message
  | .document .notMapping => "blueprint YAML must be a mapping"
  | .document (.invalid _) => ""
  | .duplicate name path => "duplicate blueprint '" ++ name ++ "' in " ++ path

end FixtureImages
