import Dialect.Archive.Chapters
import Dialect.Archive.Vocabulary
import Dialect.Path.Boundary
import Dialect.Path.Reader
import Dialect.Proofs.Archive.Flags
import Dialect.Proofs.Archive.Lookups
import Dialect.Proofs.Archive.NamedFeatures
import Dialect.Proofs.Archive.Parts
import Dialect.Proofs.Archive.Quotation
import Dialect.Proofs.Archive.Ratio
import Dialect.Proofs.Archive.Shorthand
import Dialect.Proofs.Archive.Warnings
import Dialect.Proofs.Feature.Extremes
import Dialect.Proofs.Grammar.Assembly
import Dialect.Proofs.Grammar.Unquoted
import Dialect.Proofs.Path.Closure
import Dialect.Proofs.Path.Locality
import Dialect.Proofs.Path.Resolution
import Dialect.Proofs.Path.Stopping
import Dialect.Proofs.Query.Acceptance
import Dialect.Proofs.Query.Algebra
import Dialect.Proofs.Query.Comparators
import Dialect.Proofs.Query.Dependence
import Dialect.Proofs.Query.Inverse
import Dialect.Proofs.Query.Narrowing
import Dialect.Proofs.Query.Spelling
import Dialect.Proofs.Template.Acceptance
import Dialect.Proofs.Template.CustomFields
import Dialect.Proofs.Template.Execution
import Dialect.Proofs.Template.Failures
import Dialect.Proofs.Template.JoinReference
import Dialect.Proofs.Template.Repetition
import Dialect.Proofs.Template.Requirements
import Dialect.Proofs.Template.Span
import Dialect.Proofs.Template.Suffix
import Dialect.Proofs.Template.Unselected
import Dialect.Query.Engine
import Dialect.Settings.Load
import Dialect.Settings.LogFilter
import Dialect.Template.Engine
