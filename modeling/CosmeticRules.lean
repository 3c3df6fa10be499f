import CosmeticRules.Css.Matching
import CosmeticRules.Css.Nesting
import CosmeticRules.Css.Number
import CosmeticRules.Css.Reader
import CosmeticRules.Css.Syntax
import CosmeticRules.Decimal.Binary64
import CosmeticRules.Decimal.Numeral
import CosmeticRules.Engine.Affected
import CosmeticRules.Engine.Basic
import CosmeticRules.Engine.Configuration
import CosmeticRules.Engine.Pass
import CosmeticRules.Engine.Run
import CosmeticRules.Engine.Throttle
import CosmeticRules.Engine.Timing
import CosmeticRules.Error
import CosmeticRules.Log
import CosmeticRules.Markup.Graft
import CosmeticRules.Markup.Piece
import CosmeticRules.Markup.Reference
import CosmeticRules.Matching.Argument
import CosmeticRules.Matching.Error
import CosmeticRules.Matching.Filter
import CosmeticRules.Matching.Reflected
import CosmeticRules.Matching.Selection
import CosmeticRules.Matching.StyleValue
import CosmeticRules.Page.Basic
import CosmeticRules.Page.InlineStyle
import CosmeticRules.Page.Tree
import CosmeticRules.Pattern.Anchor
import CosmeticRules.Pattern.CharSet
import CosmeticRules.Pattern.Error
import CosmeticRules.Pattern.Extended.Escape
import CosmeticRules.Pattern.Extended.Plan
import CosmeticRules.Pattern.Extended.Printer
import CosmeticRules.Pattern.Extended.Reader
import CosmeticRules.Pattern.Extended.Reading
import CosmeticRules.Pattern.Extended.Syntax
import CosmeticRules.Pattern.Flags
import CosmeticRules.Pattern.Matching
import CosmeticRules.Pattern.Plain.Automaton
import CosmeticRules.Pattern.Plain.CharClass
import CosmeticRules.Pattern.Plain.Matching
import CosmeticRules.Pattern.Plain.Reader
import CosmeticRules.Pattern.Plain.Size
import CosmeticRules.Pattern.Plain.Syntax
import CosmeticRules.Pattern.Property
import CosmeticRules.Pattern.Search
import CosmeticRules.Pattern.Step
import CosmeticRules.Proofs.Engine.AffectedList
import CosmeticRules.Proofs.Engine.Entries
import CosmeticRules.Proofs.Engine.Reachable
import CosmeticRules.Proofs.Engine.RulesInForce
import CosmeticRules.Proofs.Engine.Visit
import CosmeticRules.Proofs.Engine.VisitReach
import CosmeticRules.Proofs.Page.Declared
import CosmeticRules.Proofs.Page.Frame
import CosmeticRules.Proofs.Page.Script
import CosmeticRules.Proofs.Page.StyleText
import CosmeticRules.Proofs.Selector.Inversion
import CosmeticRules.Proofs.Selector.OpenDraft
import CosmeticRules.Proofs.Selector.OpenPart
import CosmeticRules.Proofs.Selector.PrintedText
import CosmeticRules.Proofs.Selector.Printing
import CosmeticRules.Proofs.Selector.ReadPart
import CosmeticRules.Proofs.Selector.MaximalSplit
import CosmeticRules.Proofs.Selector.SplitText
import CosmeticRules.Proofs.Text.Character
import CosmeticRules.Proofs.Text.Trim
import CosmeticRules.Proofs.Text.Split
import CosmeticRules.Query
import CosmeticRules.Rule.Basic
import CosmeticRules.Rule.Block
import CosmeticRules.Rule.Error
import CosmeticRules.Rule.Reader
import CosmeticRules.Rule.RemoveMarker
import CosmeticRules.Rule.Sheet
import CosmeticRules.Rule.Style
import CosmeticRules.Selector.AttributeText
import CosmeticRules.Selector.Draft
import CosmeticRules.Selector.Error
import CosmeticRules.Selector.Folding
import CosmeticRules.Selector.LegacyForm
import CosmeticRules.Selector.PseudoClass
import CosmeticRules.Selector.Reader
import CosmeticRules.Selector.Token
import CosmeticRules.Selector.Tree
import CosmeticRules.Text.Blank
import CosmeticRules.Text.Case
import CosmeticRules.Text.CharacterSet
import CosmeticRules.Text.Digit
import CosmeticRules.Text.Property.Age
import CosmeticRules.Text.Property.Binary
import CosmeticRules.Text.Property.Break
import CosmeticRules.Text.Property.Category
import CosmeticRules.Text.Property.NamedSet
import CosmeticRules.Text.Property.Script
import CosmeticRules.Text.Property.ScriptExtension
import CosmeticRules.Text.Quoted
import CosmeticRules.Text.Search
import CosmeticRules.Value
import CosmeticRules.XPath.Evaluation
import CosmeticRules.XPath.Reader
import CosmeticRules.XPath.Syntax
import CosmeticRules.XPath.Token
import CosmeticRules.Proofs.Markup.Growth
import CosmeticRules.Proofs.Matching.Elements
import CosmeticRules.Proofs.Page.Alteration
import CosmeticRules.Proofs.Page.Built
import CosmeticRules.Proofs.Page.DocumentOrder
import CosmeticRules.Proofs.Css.Meaning
import CosmeticRules.Proofs.Css.Selection
import CosmeticRules.Proofs.Css.Printing
import CosmeticRules.Proofs.Css.NestedText
import CosmeticRules.Proofs.Css.ReadFormula
import CosmeticRules.Proofs.Css.ReadSimple
import CosmeticRules.Proofs.Css.ReadPrinted
import CosmeticRules.Proofs.Css.ReadLinked
import CosmeticRules.Proofs.Page.SingleDocument
import CosmeticRules.Proofs.Page.Recorded
import CosmeticRules.Proofs.Engine.Confined
import CosmeticRules.Proofs.Engine.StyleResidue
import CosmeticRules.Proofs.Engine.Protecting
import CosmeticRules.Proofs.Engine.Watching
import CosmeticRules.Proofs.Page.ShownText
import CosmeticRules.Proofs.Matching.NativeText
import CosmeticRules.Proofs.Matching.Description
import CosmeticRules.Proofs.Matching.Siblings
import CosmeticRules.Proofs.Matching.Alternatives
import CosmeticRules.Proofs.Matching.Following
import CosmeticRules.Proofs.Engine.ShownText
import CosmeticRules.Proofs.XPath.ElementPath
import CosmeticRules.Proofs.Page.Connected
import CosmeticRules.Proofs.XPath.ItemOrder
import CosmeticRules.Proofs.XPath.Walk
import CosmeticRules.Proofs.XPath.ReadPath
import CosmeticRules.Proofs.XPath.Agreement
import CosmeticRules.Proofs.Selector.Shape
import CosmeticRules.Proofs.Selector.Standing
import CosmeticRules.Proofs.Selector.ParsedShape
import CosmeticRules.Proofs.Selector.FoldingRun
import CosmeticRules.Proofs.Text.Search
import CosmeticRules.Proofs.Selector.ReadArgument
import CosmeticRules.Proofs.Selector.Enclosed
import CosmeticRules.Proofs.Selector.QuotedValue
import CosmeticRules.Proofs.Engine.Passes
import CosmeticRules.Proofs.Engine.OwnWrites
import CosmeticRules.Proofs.Engine.Throttling
import CosmeticRules.Proofs.Engine.Removals
import CosmeticRules.Proofs.Engine.Restorations
import CosmeticRules.Proofs.Rule.Declared
import CosmeticRules.Proofs.Engine.Failures
import CosmeticRules.Proofs.Page.FullRecord
import CosmeticRules.Proofs.Engine.Fixpoint
import CosmeticRules.Proofs.Distinct
import CosmeticRules.Proofs.Page.ClosedText
import CosmeticRules.Proofs.Page.Styling
import CosmeticRules.Proofs.Rule.Gathering
import CosmeticRules.Proofs.Rule.RuleList
import CosmeticRules.Proofs.Rule.PrintedBlock
import CosmeticRules.Proofs.Rule.SelectorAndBlock
import CosmeticRules.Proofs.Rule.Composition
import CosmeticRules.Proofs.Selector.Outcome
import CosmeticRules.Proofs.Selector.BraceBehind
import CosmeticRules.Proofs.XPath.NodeSets
import CosmeticRules.Proofs.XPath.Printing
import CosmeticRules.Proofs.XPath.ReadTokens
import CosmeticRules.Proofs.XPath.ReadPrinted
import CosmeticRules.Proofs.Matching.Selected
import CosmeticRules.Proofs.Decimal.Whole
import CosmeticRules.Proofs.XPath.Positions
import CosmeticRules.Proofs.Matching.Ancestors
import CosmeticRules.Proofs.Css.Positions
import CosmeticRules.Proofs.Css.Formula
import CosmeticRules.Proofs.Markup.Confinement
import CosmeticRules.Proofs.Markup.Printing
import CosmeticRules.Proofs.Markup.ReadPrinted
import CosmeticRules.Proofs.Markup.Planting
import CosmeticRules.Proofs.Page.LowerTags
import CosmeticRules.Proofs.Matching.FoundAgain
import CosmeticRules.Proofs.Matching.PropertyChain
import CosmeticRules.Proofs.Selector.Respelling
import CosmeticRules.Proofs.Pattern.LiteralText
import CosmeticRules.Proofs.Matching.LiteralStyle
