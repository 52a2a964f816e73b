import SqlAssembly.Bag
import SqlAssembly.Builder.Basic
import SqlAssembly.Builder.Clause
import SqlAssembly.Builder.Object
import SqlAssembly.Builder.Render
import SqlAssembly.Calendar.Civil
import SqlAssembly.Calendar.Layout
import SqlAssembly.Calendar.Moment
import SqlAssembly.Calendar.Text
import SqlAssembly.Coercion.FieldType
import SqlAssembly.Coercion.Integers
import SqlAssembly.Coercion.Scalar
import SqlAssembly.Comparison
import SqlAssembly.Config
import SqlAssembly.Derive.ConstantName
import SqlAssembly.Derive.Declaration
import SqlAssembly.Derive.Generics
import SqlAssembly.Derive.Model
import SqlAssembly.Derive.Token
import SqlAssembly.Derive.Tree
import SqlAssembly.Derive.ValueType
import SqlAssembly.Derive.Variants
import SqlAssembly.Entries
import SqlAssembly.Enumeration
import SqlAssembly.Error
import SqlAssembly.Event
import SqlAssembly.Ident
import SqlAssembly.Json.Basic
import SqlAssembly.Json.Number
import SqlAssembly.Json.Printer
import SqlAssembly.Json.Reader
import SqlAssembly.Number.Binary
import SqlAssembly.Number.Decimal
import SqlAssembly.Number.Layout
import SqlAssembly.Number.Numeral
import SqlAssembly.Number.Shortest
import SqlAssembly.Number.Width
import SqlAssembly.Pagination
import SqlAssembly.Params
import SqlAssembly.Placeholder
import SqlAssembly.Query.Basic
import SqlAssembly.Query.Field
import SqlAssembly.Statement
import SqlAssembly.Statement.Mode
import SqlAssembly.Text.Ascii
import SqlAssembly.Text.Blank
import SqlAssembly.Text.CaseData
import SqlAssembly.Text.HiddenData
import SqlAssembly.Text.LetterData
import SqlAssembly.Text.Literal
import SqlAssembly.Text.Lowercase
import SqlAssembly.Text.Name
import SqlAssembly.Text.NameData
import SqlAssembly.Text.Ranges
import SqlAssembly.Text.Split
import SqlAssembly.Text.UpperData
import SqlAssembly.Text.Uppercase
import SqlAssembly.Text.Word
import SqlAssembly.Text.WordData
import SqlAssembly.Value.Basic
import SqlAssembly.Proofs.AddedFragments
import SqlAssembly.Proofs.AttributeSettings
import SqlAssembly.Proofs.BagDifferences
import SqlAssembly.Proofs.BagHistory
import SqlAssembly.Proofs.BagKeys
import SqlAssembly.Proofs.BagReads
import SqlAssembly.Proofs.BoundNames
import SqlAssembly.Proofs.BoundPlaceholders
import SqlAssembly.Proofs.CallEffects
import SqlAssembly.Proofs.CallWrites
import SqlAssembly.Proofs.CivilDays
import SqlAssembly.Proofs.ClauseHistory
import SqlAssembly.Proofs.ConditionalCalls
import SqlAssembly.Proofs.DecimalText
import SqlAssembly.Proofs.DerivedModels
import SqlAssembly.Proofs.ElementValues
import SqlAssembly.Proofs.EmptyAliases
import SqlAssembly.Proofs.EnumerationValues
import SqlAssembly.Proofs.FragmentShapes
import SqlAssembly.Proofs.IdentifierText
import SqlAssembly.Proofs.IncompleteFields
import SqlAssembly.Proofs.IndependentCalls
import SqlAssembly.Proofs.InsertAlignment
import SqlAssembly.Proofs.IntegerLists
import SqlAssembly.Proofs.IntegerLiterals
import SqlAssembly.Proofs.IntegerNarrowing
import SqlAssembly.Proofs.JsonValues
import SqlAssembly.Proofs.KeptBindings
import SqlAssembly.Proofs.LastBinding
import SqlAssembly.Proofs.LayoutText
import SqlAssembly.Proofs.ListConditions
import SqlAssembly.Proofs.LoggedText
import SqlAssembly.Proofs.Lookups
import SqlAssembly.Proofs.LowerCase
import SqlAssembly.Proofs.MomentText
import SqlAssembly.Proofs.MomentsAsTexts
import SqlAssembly.Proofs.PageSplit
import SqlAssembly.Proofs.PageWindows
import SqlAssembly.Proofs.PlaceholderSearch
import SqlAssembly.Proofs.PlaceholderTokens
import SqlAssembly.Proofs.PlainFragments
import SqlAssembly.Proofs.PlainNames
import SqlAssembly.Proofs.PredicateRuns
import SqlAssembly.Proofs.RadixNumerals
import SqlAssembly.Proofs.RangeBounds
import SqlAssembly.Proofs.RenderableRuns
import SqlAssembly.Proofs.RenderedPlaceholders
import SqlAssembly.Proofs.RequestBindings
import SqlAssembly.Proofs.RequestIndependence
import SqlAssembly.Proofs.RequestedOrder
import SqlAssembly.Proofs.RunFragments
import SqlAssembly.Proofs.SharedPlaceholders
import SqlAssembly.Proofs.StatementCount
import SqlAssembly.Proofs.StatementPieces
import SqlAssembly.Proofs.StatementSplitting
import SqlAssembly.Proofs.StatementText
import SqlAssembly.Proofs.Violations
