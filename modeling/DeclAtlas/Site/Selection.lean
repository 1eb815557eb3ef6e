import DeclAtlas.Site.Options
import DeclAtlas.Tree.Branch

/-!
# Selection

An element is documented if its visibility is exported and so is everything around it; members of
enums and structs only if these are expanded.
-/

namespace DeclAtlas

namespace Branch

mutual

/-- The documented nodes of a branch whose surroundings are documented. -/
def selected (options : ExportOptions) : Branch → List NodeId
  | node _ _ none _ => []
  | node id _ (some element) children =>
    if options.exports element.visibility then
      id :: (if options.expands element.kind then selectedOfAll options children else [])
    else []

/-- The documented nodes of several branches. -/
def selectedOfAll (options : ExportOptions) : List Branch → List NodeId
  | [] => []
  | branch :: branches => branch.selected options ++ selectedOfAll options branches

end

end Branch

/-- Marks the documented nodes below a node, and only these, as exported. -/
def Tree.select (tree : Tree) (id : NodeId) (options : ExportOptions) : Tree :=
  let branch := tree.branch id
  let cleared := branch.ids.tail.foldl (fun tree id => tree.setExportable id false) tree
  (Branch.selectedOfAll options branch.children).foldl (fun tree id => tree.setExportable id true)
    cleared

end DeclAtlas
