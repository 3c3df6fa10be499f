import CosmeticRules.Page.Basic

/-!
The steps that scripts take on a page. A refused step leaves the page as it was, except that markup
with an error keeps what was read before the error.
-/

namespace CosmeticRules.Page

inductive ScriptStep
  | appendHtml (parent : NodeId) (html : String)
  | createElement (tag : String)
  | appendChild (parent child : NodeId)
  | insertBefore (parent child reference : NodeId)
  | removeNode (n : NodeId)
  | removeElement (n : NodeId)
  | setAttribute (n : NodeId) (name value : String)
  | removeAttribute (n : NodeId) (name : String)
  | setStyleText (n : NodeId) (text : String)
  | writeStyle (n : NodeId) (text : String)
  | setStyleProperty (n : NodeId) (property value : String) (isImportant : Bool)
  | setText (n : NodeId) (text : String)
  | overrideText (n : NodeId) (text : String)
  | setProperty (n : NodeId) (name : String) (value : Value)
  | addStyleRule (selector : String) (pseudoElement : Option String) (declarations : String)
  | inputEvent (type : String)
  | setReady (ready : Bool)

/-- Whether a step may write a style attribute. -/
def ScriptStep.writesStyle : ScriptStep → Bool
  | .setAttribute _ name _ | .removeAttribute _ name => lowerName name == "style"
  | .setStyleText _ _ | .writeStyle _ _ | .setStyleProperty _ _ _ _ => true
  | _ => false

/-- Steps that add markup keep what was read before an error. -/
def ScriptStep.addsMarkup : ScriptStep → Bool
  | .appendHtml _ _ => true
  | _ => false

/-- The page after a step that may be refused. -/
def orSame {ε : Type} (page : Page) (changed : Except ε Page) : Page :=
  match changed with
  | .ok page => page
  | .error _ => page

/-- The page after a step of a script. -/
def script (page : Page) : ScriptStep → Page
  | .appendHtml parent html => (page.appendHtml parent html).1
  | .createElement tag => (page.createElement tag).1
  | .appendChild parent child => page.orSame (page.appendChild parent child)
  | .insertBefore parent child reference => (page.moveBefore parent child reference).1
  | .removeNode n => page.orSame (page.removeNode n)
  | .removeElement n => (page.removeElement n).1
  | .setAttribute n name value => page.orSame (page.setAttribute n name value)
  | .removeAttribute n name => page.orSame (page.removeAttribute n name)
  | .setStyleText n text => page.orSame (page.setStyleText n text)
  | .writeStyle n text => page.writeStyle n text
  | .setStyleProperty n property value isImportant =>
    page.setStyleProperty n property value isImportant
  | .setText n text => page.orSame (page.setText n text)
  | .overrideText n text => page.overrideText n text
  | .setProperty n name value => page.orSame (page.setProperty n name value)
  | .addStyleRule selector pseudoElement declarations =>
    page.orSame (page.addStyleRule selector pseudoElement declarations)
  | .inputEvent type => page.inputEvent type
  | .setReady ready => { page with ready }

/-- The page of a markup text, without any node if the text is wrong. -/
def ofMarkup (html : String) : Page :=
  match ofHtml html with
  | .ok page => page
  | .error _ => default

end CosmeticRules.Page
