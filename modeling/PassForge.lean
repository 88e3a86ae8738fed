import PassForge.BufferPool
import PassForge.Config.Decimal
import PassForge.Config.Decode
import PassForge.Config.Json
import PassForge.DepthFirst
import PassForge.Digest.Xxh3
import PassForge.Emit.Evaluation
import PassForge.Emit.Expansion
import PassForge.Emit.FunctionLibrary
import PassForge.Event
import PassForge.Generator.Basic
import PassForge.Generator.Branch
import PassForge.Generator.Plan
import PassForge.Graph.Arena
import PassForge.Graph.Basic
import PassForge.Graph.Node
import PassForge.Graph.Requirements
import PassForge.Graph.ValueType
import PassForge.Graph.Walk
import PassForge.Graph.Walker
import PassForge.Keyword.Basic
import PassForge.Keyword.Group
import PassForge.Keyword.Guard
import PassForge.Keyword.Registers
import PassForge.NameSet
import PassForge.Pass.Description
import PassForge.Pass.RenderState
import PassForge.Pass.Stencil
import PassForge.Proofs.ActiveFields
import PassForge.Proofs.Aggregation
import PassForge.Proofs.BranchSelection
import PassForge.Proofs.Buffers
import PassForge.Proofs.Closure
import PassForge.Proofs.Collect
import PassForge.Proofs.Conditionals
import PassForge.Proofs.DepthFirst
import PassForge.Proofs.Enumeration
import PassForge.Proofs.Families
import PassForge.Proofs.Gating
import PassForge.Proofs.GraphStore
import PassForge.Proofs.Handover
import PassForge.Proofs.Includes
import PassForge.Proofs.Independence
import PassForge.Proofs.Loading
import PassForge.Proofs.Locality
import PassForge.Proofs.Members
import PassForge.Proofs.Nesting
import PassForge.Proofs.Paths
import PassForge.Proofs.Placeholders
import PassForge.Proofs.PlainCode
import PassForge.Proofs.Plan
import PassForge.Proofs.Product
import PassForge.Proofs.Recursion
import PassForge.Proofs.Scope
import PassForge.Proofs.SharedFunctions
import PassForge.Proofs.StoreInvariant
import PassForge.Proofs.Suppliers
import PassForge.Proofs.SymbolSet
import PassForge.Proofs.Variables
import PassForge.Proofs.VariantIndex
import PassForge.Proofs.VariantLimit
import PassForge.Proofs.Walk
import PassForge.Schema.Basic
import PassForge.Schema.Closure
import PassForge.Schema.Cycle
import PassForge.Schema.Registry
import PassForge.Schema.Standard
import PassForge.Source.Code
import PassForge.Source.Writer
import PassForge.SymbolTable
import PassForge.Template.Argument
import PassForge.Template.Arithmetic
import PassForge.Template.Context
import PassForge.Template.Cursor
import PassForge.Template.Eval
import PassForge.Template.ExprParser
import PassForge.Template.Fault
import PassForge.Template.Filter.Choice
import PassForge.Template.Filter.Number
import PassForge.Template.Filter.Sequence
import PassForge.Template.Filter.Text
import PassForge.Template.Function
import PassForge.Template.Heap
import PassForge.Template.Lexer
import PassForge.Template.Library
import PassForge.Template.Numeral
import PassForge.Template.Operation
import PassForge.Template.Order
import PassForge.Template.Parser
import PassForge.Template.Path
import PassForge.Template.Render
import PassForge.Template.Slice
import PassForge.Template.Splice
import PassForge.Template.State
import PassForge.Template.Store
import PassForge.Template.Stream
import PassForge.Template.StringLiteral
import PassForge.Template.Test
import PassForge.Template.Token
import PassForge.Template.Tree
import PassForge.Template.Value
import PassForge.Text.Blank
import PassForge.Text.Case
import PassForge.Text.CaseTable
import PassForge.Text.Escape
import PassForge.Text.Hidden
import PassForge.Text.Identifier
import PassForge.Text.Lines
import PassForge.Text.Markup
import PassForge.Text.Number
import PassForge.Text.Pieces
import PassForge.Text.Quoted
import PassForge.Text.Shortest
import PassForge.Variant.Enumeration
import PassForge.Variant.Enumerator
import PassForge.Variant.Groups
import PassForge.Variant.Index
import PassForge.Variant.Set
import PassForge.Variant.Table
