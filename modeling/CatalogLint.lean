import CatalogLint.File.Load
import CatalogLint.Lint.Linter
import CatalogLint.Proofs.Lint.Grandfathering
import CatalogLint.Proofs.Lint.Isolation
import CatalogLint.Proofs.Lint.KeyOrder
import CatalogLint.Proofs.Lint.Relaxation
import CatalogLint.Proofs.Lint.Trace
import CatalogLint.Proofs.Validation.Acceptance
import CatalogLint.Proofs.Validation.Locality
import CatalogLint.Proofs.Validation.Tagging
import CatalogLint.Rule.Flagged
import CatalogLint.Proofs.Lint.Splitting
import CatalogLint.Proofs.Lint.RuleOrder
import CatalogLint.Rule.Session
import CatalogLint.Proofs.Rule.Session
import CatalogLint.Proofs.Exceptions.LowerCase
import CatalogLint.Proofs.Lint.LetterCase
import CatalogLint.Proofs.Rule.RepairLoop
import CatalogLint.Proofs.Schema.Extension
import CatalogLint.Proofs.Validation.FlatForm
import CatalogLint.Proofs.Validation.KindAndType
import CatalogLint.Proofs.File.Loading
import CatalogLint.Proofs.Schema.Descent
import CatalogLint.Proofs.Validation.Accessors
import CatalogLint.Proofs.Violation.Nesting
import CatalogLint.Proofs.Violation.PathText
