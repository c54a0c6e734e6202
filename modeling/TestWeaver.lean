import TestWeaver.Action
import TestWeaver.CommandLine.Help
import TestWeaver.CommandLine.Invocation
import TestWeaver.CommandLine.Option
import TestWeaver.CommandLine.Run
import TestWeaver.Context
import TestWeaver.Failure
import TestWeaver.Feature.Document
import TestWeaver.Feature.Source
import TestWeaver.Feature.Step
import TestWeaver.Files.Error
import TestWeaver.Files.Store
import TestWeaver.Form.Action
import TestWeaver.Form.Artifact
import TestWeaver.Form.Basic
import TestWeaver.Form.Generation
import TestWeaver.Form.Project
import TestWeaver.Form.Requirement
import TestWeaver.Generation.FromRecording
import TestWeaver.Generation.FromTicket
import TestWeaver.Generation.Result
import TestWeaver.Generation.Structure
import TestWeaver.Generation.Write
import TestWeaver.Json.Printer
import TestWeaver.Json.Reader
import TestWeaver.Json.Token
import TestWeaver.Layout
import TestWeaver.Log.Logger
import TestWeaver.Log.Record
import TestWeaver.Main
import TestWeaver.Markup.Plain
import TestWeaver.Markup.Reference
import TestWeaver.Markup.Token
import TestWeaver.Markup.Tree
import TestWeaver.Naming.Derived
import TestWeaver.Naming.Readable
import TestWeaver.Naming.Words
import TestWeaver.Number.Binary64
import TestWeaver.Number.Limit
import TestWeaver.Number.Shortest
import TestWeaver.Number.Written
import TestWeaver.Ordinal
import TestWeaver.Page.Module
import TestWeaver.Page.Path
import TestWeaver.Page.Source
import TestWeaver.Path
import TestWeaver.Project.Basic
import TestWeaver.Project.Environment
import TestWeaver.Project.Registry
import TestWeaver.Project.Saved
import TestWeaver.Project.Stories
import TestWeaver.Recording.Literal
import TestWeaver.Recording.Role
import TestWeaver.Recording.Shape
import TestWeaver.Recording.Transcript
import TestWeaver.Requirement.Basic
import TestWeaver.Requirement.Detect
import TestWeaver.Requirement.Scenarios
import TestWeaver.Requirement.Synthesis
import TestWeaver.Session
import TestWeaver.Steps.Module
import TestWeaver.Steps.Source
import TestWeaver.Story.Basic
import TestWeaver.Story.Criteria
import TestWeaver.Story.Library
import TestWeaver.Text.Base64
import TestWeaver.Text.Basic
import TestWeaver.Text.Blank
import TestWeaver.Text.Case
import TestWeaver.Text.Halves
import TestWeaver.Text.Numeral
import TestWeaver.Text.Printable
import TestWeaver.Text.Quoted
import TestWeaver.Text.Stream
import TestWeaver.Text.Utf8
import TestWeaver.Text.Word
import TestWeaver.Tracker.Account
import TestWeaver.Tracker.Client
import TestWeaver.Tracker.Document
import TestWeaver.Tracker.Exchange
import TestWeaver.Tracker.Source
import TestWeaver.Url.Host
import TestWeaver.Url.Split
import TestWeaver.Value.Access
import TestWeaver.Value.Basic
import TestWeaver.Value.Calendar
import TestWeaver.Value.Shown
import TestWeaver.Workflow.Basic
import TestWeaver.Workflow.Generate
import TestWeaver.Workflow.Overview
import TestWeaver.Workflow.Run
import TestWeaver.Yaml.Cursor
import TestWeaver.Yaml.Kind
import TestWeaver.Yaml.Node
import TestWeaver.Yaml.Printer
import TestWeaver.Yaml.Reader
import TestWeaver.Yaml.Scalar
import TestWeaver.Yaml.Sheet
import TestWeaver.Yaml.Source
import TestWeaver.Yaml.Thing
import TestWeaver.Yaml.Token
import TestWeaver.Yaml.Typed
import TestWeaver.Proofs.Action.Order
import TestWeaver.Proofs.Context.Gate
import TestWeaver.Proofs.Feature.Lines
import TestWeaver.Proofs.Generation.Documents
import TestWeaver.Proofs.Generation.Runs
import TestWeaver.Proofs.Naming.Columns
import TestWeaver.Proofs.Naming.Names
import TestWeaver.Proofs.Page.Build
import TestWeaver.Proofs.Page.Reference
import TestWeaver.Proofs.Recording.Accounting
import TestWeaver.Proofs.Recording.Chains
import TestWeaver.Proofs.Recording.Accessors
import TestWeaver.Proofs.Recording.Grammar
import TestWeaver.Proofs.Recording.Lines
import TestWeaver.Proofs.Recording.Literals
import TestWeaver.Proofs.Recording.Roles
import TestWeaver.Proofs.Steps.Calls
import TestWeaver.Proofs.Steps.Coupling
import TestWeaver.Proofs.Steps.Handlers
import TestWeaver.Proofs.Steps.Matching
import TestWeaver.Proofs.Steps.Scenario
import TestWeaver.Proofs.Text.Alphabet
import TestWeaver.Proofs.Text.Arguments
import TestWeaver.Proofs.Text.Parts
import TestWeaver.Proofs.Text.Replace
import TestWeaver.Proofs.Feature.Table
import TestWeaver.Proofs.Steps.Types
import TestWeaver.Proofs.Files.Changes
import TestWeaver.Proofs.Naming.Files
import TestWeaver.Proofs.Generation.Writing
import TestWeaver.Proofs.Generation.Tickets
import TestWeaver.Proofs.Context.Tally
import TestWeaver.Proofs.Generation.Typed
import TestWeaver.Proofs.Generation.Balance
import TestWeaver.Proofs.Requirement.Elements
import TestWeaver.Proofs.Requirement.Binding
import TestWeaver.Proofs.Project.Loading
import TestWeaver.Proofs.Generation.Failures
import TestWeaver.Proofs.Workflow.Ends
import TestWeaver.Proofs.Text.Lines
import TestWeaver.Proofs.Story.Criteria
import TestWeaver.Proofs.Tracker.Nodes
import TestWeaver.Proofs.Text.Reading
import TestWeaver.Proofs.Text.Breaks
import TestWeaver.Proofs.Story.Sections
import TestWeaver.Proofs.Tracker.Outline
import TestWeaver.Proofs.Tracker.Sections
import TestWeaver.Proofs.Markup.Runs
import TestWeaver.Proofs.Tracker.Formats
import TestWeaver.Proofs.Feature.Headers
import TestWeaver.Proofs.Project.Keys
import TestWeaver.Proofs.Project.Directory
import TestWeaver.Proofs.Project.Saving
import TestWeaver.Proofs.Feature.Keywords
import TestWeaver.Proofs.Naming.Classes
import TestWeaver.Proofs.Generation.Bytes
import TestWeaver.Proofs.Generation.Validation
import TestWeaver.Proofs.Requirement.Making
import TestWeaver.Proofs.Feature.Rows
import TestWeaver.Proofs.Requirement.Scenarios
import TestWeaver.Proofs.Steps.Values
import TestWeaver.Proofs.Steps.Names
import TestWeaver.Proofs.Steps.Functions
import TestWeaver.Proofs.Text.Letters
import TestWeaver.Proofs.Naming.Spelling
import TestWeaver.Proofs.Naming.Accessible
import TestWeaver.Proofs.Recording.Labels
import TestWeaver.Proofs.Story.Marks
import TestWeaver.Proofs.Story.Grouping
import TestWeaver.Proofs.Page.Members
import TestWeaver.Proofs.Page.Base
import TestWeaver.Proofs.Files.Relative
import TestWeaver.Proofs.Steps.Reference
import TestWeaver.Proofs.Naming.Stems
import TestWeaver.Proofs.Generation.Apart
import TestWeaver.Proofs.Yaml.Tokens
import TestWeaver.Proofs.Yaml.Nodes
import TestWeaver.Proofs.Yaml.Things
import TestWeaver.Proofs.Story.Library
import TestWeaver.Proofs.Steps.Turns
import TestWeaver.Proofs.Context.Ledger
import TestWeaver.Proofs.Context.Copies
