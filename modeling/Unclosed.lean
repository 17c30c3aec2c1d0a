import Unclosed.Analyzer
import Unclosed.Proofs.Mask
import Unclosed.Proofs.History
import Unclosed.Proofs.Flags
import Unclosed.Proofs.NameList
import Unclosed.Proofs.Settings
import Unclosed.Proofs.Preference
import Unclosed.Proofs.QualifiedName
import Unclosed.Proofs.Imports
import Unclosed.Proofs.WellKnown
import Unclosed.Proofs.Canonical
import Unclosed.Proofs.Backlog
import Unclosed.Proofs.Descent
import Unclosed.Proofs.Files
import Unclosed.Proofs.Coverage
import Unclosed.Proofs.Scope
import Unclosed.Proofs.Suppression
import Unclosed.Proofs.Comparison
import Unclosed.Proofs.Bindings
import Unclosed.Proofs.Parentheses
import Unclosed.Proofs.Checks
import Unclosed.Proofs.CloserNames
import Unclosed.Proofs.Variation
import Unclosed.Proofs.Insertion
import Unclosed.Proofs.Renaming
import Unclosed.Proofs.Layout
import Unclosed.Proofs.Layout.Findings
import Unclosed.Proofs.Spelling
import Unclosed.Proofs.Directive
import Unclosed.Proofs.Suppression.Addition
import Unclosed.Proofs.Suppression.Search
import Unclosed.Proofs.CloserFlag
