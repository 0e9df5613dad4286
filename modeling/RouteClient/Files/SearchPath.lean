import RouteClient.Files.Tree

namespace RouteClient.Files

abbrev SearchPath := List String

end RouteClient.Files

namespace RouteClient.Files.SearchPath

variable {σ : Type}

/-- Of a root and its `src`, those that are directories. A path that is too long is an error with
the path on which it was met. -/
def projectDirectories (tree : Tree σ) (root : Path) : Except (Obstacle × Path) (List String) := do
  let candidates := [root, root.child "src"]
  let found ← candidates.filterM fun p ↦
    (tree.isDirectory [] p).mapError fun obstacle ↦ (obstacle, p)
  return found.map Path.toString

def enter (path : SearchPath) (directories : List String) : List String × SearchPath :=
  let added := directories.filter fun d ↦ !path.contains d
  (added, added ++ path)

def leave (path : SearchPath) (added : List String) : SearchPath := added.foldl List.erase path

end RouteClient.Files.SearchPath
