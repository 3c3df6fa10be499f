import CosmeticRules.Markup.Piece

/-!
Adding pieces of markup to a tree below a node. Tags open and close elements; some start tags close
elements that are open before them.
-/

namespace CosmeticRules.Markup

/-- Elements that never have content. -/
def isVoidTag (tag : String) : Bool :=
  ["area", "base", "br", "col", "embed", "hr", "img", "input", "link", "meta", "param", "source",
    "track", "wbr"].contains tag

/-- Tags that end a paragraph. -/
def endsParagraph (tag : String) : Bool :=
  ["address", "article", "aside", "blockquote", "details", "div", "dl", "fieldset", "figcaption",
    "figure", "footer", "form", "h1", "h2", "h3", "h4", "h5", "h6", "header", "hr", "main", "nav",
    "ol", "p", "pre", "section", "table", "ul"].contains tag

/-- An element that ends where one of certain tags starts, unless a boundary is open inside it. -/
structure OptionalEnd where
  openers : List String
  closed : String
  boundaries : List String

def optionalEnds : List OptionalEnd :=
  [⟨["li"], "li", ["ol", "ul", "menu"]⟩, ⟨["dt", "dd"], "dt", ["dl"]⟩, ⟨["dt", "dd"], "dd", ["dl"]⟩,
    ⟨["option", "optgroup"], "option", ["optgroup", "select", "datalist"]⟩,
    ⟨["optgroup"], "optgroup", ["select"]⟩]

/-- The open elements with their tags, the innermost first. -/
abbrev OpenElements := List (NodeId × String)

/-- Closes the innermost open element of a tag and all inside it, if no boundary is met before it. -/
def closeUpTo (closed : String) (boundaries : List String) (all : OpenElements) : OpenElements :=
  match all.find? fun (_, tag) => tag == closed || boundaries.contains tag with
  | some (_, tag) =>
    if tag == closed then (all.dropWhile fun (_, tag) => tag != closed).drop 1 else all
  | none => all

/-- Closes the elements that end where a tag starts. -/
def closeBefore (tag : String) (all : OpenElements) : OpenElements :=
  let all := optionalEnds.foldl (fun all rule =>
    if rule.openers.contains tag then closeUpTo rule.closed rule.boundaries all else all) all
  if endsParagraph tag then closeUpTo "p" [] all else all

/-- A tree to which pieces are being added below a node. -/
structure Growth where
  tree : PageTree
  opened : OpenElements := []

/-- Where the next piece goes: into the innermost open element. -/
def Growth.place (base : NodeId) (g : Growth) : NodeId :=
  match g.opened with
  | (n, _) :: _ => n
  | [] => base

def Growth.add (base : NodeId) (g : Growth) : Piece → Growth
  | .text text => { g with tree := (g.tree.create (some (g.place base)) (.text text)).1 }
  | .comment text => { g with tree := (g.tree.create (some (g.place base)) (.comment text)).1 }
  | .startTag tag attributes selfClosing =>
    let g := { g with opened := closeBefore tag g.opened }
    let (tree, n) := g.tree.createElement (some (g.place base)) tag attributes
    if selfClosing || isVoidTag tag then { g with tree }
    else { tree, opened := (n, tag) :: g.opened }
  | .rawElement tag attributes body =>
    let g := { g with opened := closeBefore tag g.opened }
    let (tree, n) := g.tree.createElement (some (g.place base)) tag attributes
    if body.isEmpty then { g with tree }
    else { g with tree := (tree.create (some n) (.text body)).1 }
  | .endTag tag => { g with opened := closeUpTo tag [] g.opened }

/-- Adds pieces below a node. -/
def graft (t : PageTree) (base : NodeId) (pieces : List Piece) : PageTree :=
  (pieces.foldl (Growth.add base) { tree := t }).tree

/-- Reads markup and adds what it holds below a node; what was read before an error stays. Gives the
nodes that became children of that node. -/
def insert (t : PageTree) (base : NodeId) (html : String) :
    PageTree × Except Error (List NodeId) :=
  let (found, error) := pieces html.toList
  let grown := graft t base found
  match error with
  | some e => (grown, .error e)
  | none => (grown, .ok ((grown.children base).drop (t.children base).length))

end CosmeticRules.Markup
