import CosmeticRules.Error

/-!
Selecting elements of a page by the text of an extended selector, without an engine.
-/

namespace CosmeticRules.Page

/-- The elements that an extended selector selects, by the texts that scripts show. -/
def query (page : Page) (selector : String) : Logged Error (List NodeId) := do
  let tree ← Logged.ofExcept ((SelectorTree.parse selector).mapError .selector)
  (Matching.select ⟨page, .visible⟩ tree).mapError .matching

/-- A query that is logged as timed, also if it fails. -/
def timedQuery (page : Page) (selector : String) : Logged Error (List NodeId) :=
  let found := page.query selector
  { found with log := found.log ++ [⟨.info, "[ExtendedCss] Elapsed:"⟩] }

/-- Checks that a selector can be read and selects without error. The marker for removal may stand at its
end. The result is the message of what is wrong. -/
def validate (page : Page) (selector : String) : Logged Error (Option String) := do
  let checked : Logged Error (List NodeId) := do
    let marked ← Logged.ofExcept ((MarkedSelector.read selector).mapError .selector)
    page.query marked.selector
  match ← checked.attempt with
  | .ok _ => return none
  | .error e => return some s!"Error: Invalid selector: '{selector}' -- {e.message}"

end CosmeticRules.Page
