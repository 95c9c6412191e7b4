import TypedQuery.Arguments.Apply
import TypedQuery.Declaration.Enumeration
import TypedQuery.Declaration.Record
import TypedQuery.Description
import TypedQuery.Json.Arguments
import TypedQuery.Json.Filter
import TypedQuery.Json.Text
import TypedQuery.Proofs.Hooks.Outcome
import TypedQuery.Proofs.Where.Derivation
import TypedQuery.Proofs.Accessor.Resolution
import TypedQuery.Proofs.Where.Siblings
import TypedQuery.Proofs.Clause.Leaf
import TypedQuery.Proofs.Filter.Meaning
import TypedQuery.Proofs.Filter.Agreement
import TypedQuery.Proofs.Where.Meaning
import TypedQuery.Proofs.Arguments.Steps
import TypedQuery.Proofs.Order.Preorder
import TypedQuery.Proofs.Order.StableSort
import TypedQuery.Proofs.Arguments.Selection
import TypedQuery.Proofs.Source.Lockstep
import TypedQuery.Proofs.Accessor.Links
import TypedQuery.Proofs.Accessor.Language
import TypedQuery.Proofs.Clause.Elements
import TypedQuery.Proofs.Value.Comparison
import TypedQuery.Proofs.Clause.Range
import TypedQuery.Proofs.Accessor.Typing
import TypedQuery.Proofs.Where.Composition
import TypedQuery.Proofs.Filter.Typing
import TypedQuery.Proofs.Value.Standing
import TypedQuery.Proofs.Order.ByValues
import TypedQuery.Proofs.Value.Written
import TypedQuery.Proofs.Filter.Json
import TypedQuery.Proofs.Hooks.Attempts
import TypedQuery.Proofs.Hooks.Walk
import TypedQuery.Proofs.Arguments.Protocol
import TypedQuery.Proofs.Clause.Acceptance
import TypedQuery.Proofs.Where.Leaves
import TypedQuery.Proofs.Source.Paging
import TypedQuery.Proofs.Value.Alike
import TypedQuery.Proofs.Where.Reads
import TypedQuery.Proofs.Source.Places
import TypedQuery.Proofs.Arguments.Visibility
import TypedQuery.Proofs.Where.Editing
import TypedQuery.Proofs.Where.Growth
import TypedQuery.Proofs.Declaration.Exposure
import TypedQuery.Proofs.Order.Runs
import TypedQuery.Proofs.Declaration.Addresses
import TypedQuery.Proofs.Text.Pattern
import TypedQuery.Proofs.Clause.Pattern
import TypedQuery.Proofs.Json.ReadingBack
import TypedQuery.Proofs.Number.Rounding
import TypedQuery.Proofs.Number.Order
import TypedQuery.Proofs.Text.Trimming
import TypedQuery.Proofs.Declaration.Variants
import TypedQuery.Proofs.Text.Escaping
import TypedQuery.Proofs.Clause.Needles
import TypedQuery.Proofs.Order.Successive
import TypedQuery.Proofs.Source.Rearranging
import TypedQuery.Proofs.Arguments.Pages
import TypedQuery.Proofs.Clause.Equivalence
import TypedQuery.Proofs.Where.Duality
import TypedQuery.Proofs.Clause.Membership
import TypedQuery.Proofs.Path.Offsets
import TypedQuery.Proofs.Path.Letters
import TypedQuery.Proofs.Accessor.Letters
import TypedQuery.Proofs.Clause.Letters
import TypedQuery.Proofs.Value.Agreement
import TypedQuery.Proofs.Text.Numeral
import TypedQuery.Proofs.Clause.Integers
import TypedQuery.Proofs.Calendar.Clock
import TypedQuery.Proofs.Calendar.Instants
import TypedQuery.Proofs.Number.PartialOrder
import TypedQuery.Proofs.Declaration.Numbering
import TypedQuery.Proofs.Text.Cases
import TypedQuery.Proofs.Text.Identifiers
import TypedQuery.Proofs.Declaration.Words
import TypedQuery.Proofs.Declaration.Constants
import TypedQuery.Proofs.Declaration.Refusals
import TypedQuery.Proofs.Declaration.Renaming
import TypedQuery.Proofs.Arguments.Faults
