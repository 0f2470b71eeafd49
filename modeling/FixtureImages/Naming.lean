import FixtureImages.Query

/-!
# Names of resources

How networks, containers and images are named, and which images are this library's own.
-/

namespace FixtureImages

set_option autoImplicit false

def localRepository : String := "localhost/commander"

def imageReference (scope blueprint server : String) : String × String :=
  (localRepository, contextOf scope blueprint server)

def imageName (scope blueprint server : String) : String :=
  let (repository, tag) := imageReference scope blueprint server
  repository ++ ":" ++ tag

def networkName (scope blueprint : String) : String := "commander_" ++ scope ++ "_" ++ blueprint

def containerName (context : String) : String := "commander_" ++ context

def isLocalTag (tag : String) : Bool := localRepository.toList.isPrefixOf tag.toList

/-- Whether no tag of an image lies outside the local repository. -/
def isLocalImage (tags : Option (List String)) : Bool := (tags.getD []).all isLocalTag

end FixtureImages
