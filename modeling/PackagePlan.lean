import PackagePlan.Number.Digits
import PackagePlan.Number.Range
import PackagePlan.Number.Shortest
import PackagePlan.Text.Blank
import PackagePlan.Text.Lines
import PackagePlan.Text.Lowercase
import PackagePlan.Text.Quoted
import PackagePlan.Text.Replace
import PackagePlan.Text.Utf8
import PackagePlan.Table
import PackagePlan.Yaml.Fault
import PackagePlan.Yaml.Token
import PackagePlan.Yaml.Token.Gap
import PackagePlan.Yaml.Token.Plain
import PackagePlan.Yaml.Token.Quoted
import PackagePlan.Yaml.Token.Block
import PackagePlan.Yaml.Token.Stream
import PackagePlan.Yaml.Event
import PackagePlan.Yaml.Node
import PackagePlan.Yaml.Datum
import PackagePlan.Yaml.Record
import PackagePlan.Yaml.Form
import PackagePlan.Argument
import PackagePlan.Error
import PackagePlan.Spec
import PackagePlan.Spec.Yaml
import PackagePlan.Definition
import PackagePlan.Definition.Yaml
import PackagePlan.Paths
import PackagePlan.Template
import PackagePlan.Inputs
import PackagePlan.Catalog
import PackagePlan.Catalog.Bundled
import PackagePlan.Script
import PackagePlan.InstallScript
import PackagePlan.Manifest
import PackagePlan.Settings
import PackagePlan.Plan
import PackagePlan.Plan.Listing
import PackagePlan.Compiler
import PackagePlan.Json
import PackagePlan.Spec.Json
import PackagePlan.Plan.Json
import PackagePlan.Toml.Text
import PackagePlan.Toml.Scalar
import PackagePlan.Toml.Value
import PackagePlan.Toml.Document
import PackagePlan.Settings.Toml
import PackagePlan.Session
import PackagePlan.CommandLine
import PackagePlan.Main
import PackagePlan.Proofs.Catalog
import PackagePlan.Proofs.Steps
import PackagePlan.Proofs.Session
import PackagePlan.Proofs.Synthesis
import PackagePlan.Proofs.Fragments
import PackagePlan.Proofs.Catalog.Names
import PackagePlan.Proofs.Reached
import PackagePlan.Proofs.Cache
import PackagePlan.Proofs.Listing
import PackagePlan.Proofs.Locality
import PackagePlan.Proofs.Settings
import PackagePlan.Proofs.Settings.Faults
import PackagePlan.Proofs.Settings.Kept
import PackagePlan.Proofs.Wiring
import PackagePlan.Proofs.CommandLine
import PackagePlan.Proofs.Replace
import PackagePlan.Proofs.Template.Leftover
import PackagePlan.Proofs.Template.Division
import PackagePlan.Proofs.Dependencies
import PackagePlan.Proofs.Inputs
import PackagePlan.Proofs.Template.Marks
import PackagePlan.Proofs.Template.Simultaneous
import PackagePlan.Proofs.Template.Expansion
import PackagePlan.Proofs.RenderedStep
import PackagePlan.Proofs.InstallScript
import PackagePlan.Proofs.Compiler
import PackagePlan.Proofs.Packages
import PackagePlan.Proofs.Manifest
import PackagePlan.Proofs.Repositories
import PackagePlan.Proofs.Json
import PackagePlan.Proofs.PlanTree
import PackagePlan.Proofs.Yaml.Datum
import PackagePlan.Proofs.Yaml.Record
import PackagePlan.Proofs.SpecTree
import PackagePlan.Proofs.Argument
import PackagePlan.Proofs.Validation
import PackagePlan.Proofs.Inputs.Forms
import PackagePlan.Proofs.Workdir
import PackagePlan.Proofs.Template.Order
import PackagePlan.Proofs.Template.Cover
import PackagePlan.Proofs.Inputs.Cover
import PackagePlan.Proofs.Catalog.Bundled
import PackagePlan.Proofs.Repositories.ReadBack
import PackagePlan.Proofs.Signing
import PackagePlan.Proofs.Yaml.Members
import PackagePlan.Proofs.Yaml.Form
import PackagePlan.Proofs.SpecDocument
import PackagePlan.Proofs.Number.Digits
import PackagePlan.Proofs.Integers
import PackagePlan.Proofs.Settings.Precedence
import PackagePlan.Proofs.Error
import PackagePlan.Proofs.Text.Utf8
import PackagePlan.Proofs.Yaml.Misfit
import PackagePlan.Proofs.SpecFaults
