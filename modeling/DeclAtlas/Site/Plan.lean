import DeclAtlas.Page.Basic

/-!
# The plan of a site

The root of a tree has the page `index`.  Every documented container below a page has a page in the
folder of that page's members, and its own members go into a folder beside its page that has its
name.
-/

namespace DeclAtlas

/-- One page of a site. -/
structure PlannedPage where
  /-- The node that the page is about. -/
  node : NodeId
  /-- The label of the node. -/
  label : Text
  /-- The file of the page. -/
  path : Path
  /-- What the file holds. -/
  content : Text
  deriving DecidableEq, Repr

namespace Branch

/-- Whether the top node of a branch has a page of its own. -/
def hasPage (branch : Branch) : Bool :=
  branch.element.any fun element => element.exportable && element.kind.isContainer

/-- The branches directly below that have pages of their own. -/
def pageChildren (branch : Branch) : List Branch :=
  branch.children.filter hasPage

/-- The file of the page of a branch, in a folder. -/
def pageFile (extension : Text) (folder : Path) (branch : Branch) : Path :=
  folder.join { text := Page.stem branch.label ++ '.' :: extension }

/-- The folder for the pages below a branch, in a folder. -/
def pageFolder (folder : Path) (branch : Branch) : Path :=
  folder.join { text := Page.stem branch.label }

/-- The links from the page at `path` to the pages below it, which lie in `folder`. -/
def links (extension : Text) (path folder : Path) (branch : Branch) : List (NodeId × Text) :=
  let base := path.parent?.getD folder
  branch.pageChildren.map fun child => (child.id, (pageFile extension folder child).relativeTo base)

/-- The page of the top node of a branch at `path`, with the pages below it in `folder`. -/
def page (options : ExportOptions) (path folder : Path) (branch : Branch) : PlannedPage :=
  { node := branch.id
    label := branch.label
    path
    content := Page.render options branch (branch.links options.extension path folder) }

mutual

/-- The pages of a branch, each before the pages below it. -/
def pages (options : ExportOptions) (path folder : Path) : Branch → List PlannedPage
  | node id label element children =>
    (node id label element children).page options path folder ::
      pagesOfAll options folder children

/-- The pages of those branches that have some, in a folder. -/
def pagesOfAll (options : ExportOptions) (folder : Path) : List Branch → List PlannedPage
  | [] => []
  | branch :: branches =>
    (if branch.hasPage then
        branch.pages options (pageFile options.extension folder branch) (pageFolder folder branch)
      else []) ++
      pagesOfAll options folder branches

end

mutual

/-- The number of pages of a branch. -/
def countPages : Branch → Nat
  | node _ _ _ children => 1 + countPagesOfAll children

/-- The number of pages of those branches that have some. -/
def countPagesOfAll : List Branch → Nat
  | [] => 0
  | branch :: branches =>
    (if branch.hasPage then branch.countPages else 0) + countPagesOfAll branches

end

end Branch

/-- The pages of the site for a tree with its selection, in a folder. -/
def Tree.plan (tree : Tree) (options : ExportOptions) (out : Path) : List PlannedPage :=
  (tree.branch Tree.root).pages options
    (out.join { text := "index." ++ options.extension }) out

end DeclAtlas
