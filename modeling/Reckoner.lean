import Reckoner.Cursor.Program
import Reckoner.Main
import Reckoner.Proofs.Agreement
import Reckoner.Proofs.Ambiguity
import Reckoner.Proofs.Exactness
import Reckoner.Proofs.Faults
import Reckoner.Proofs.Grouped.Grammar
import Reckoner.Proofs.Infixed.Recursion
import Reckoner.Proofs.Nesting.Limit
import Reckoner.Proofs.Postfixed.Height
import Reckoner.Proofs.Prefixed.Incomplete
import Reckoner.Proofs.Infixed.Groups
import Reckoner.Proofs.Relocation
import Reckoner.Proofs.Text.Lines
import Reckoner.Proofs.Session.Batch
import Reckoner.Proofs.Settings
import Reckoner.Proofs.Settings.Independence
import Reckoner.Proofs.Menu
import Reckoner.Proofs.Session.Interactive
import Reckoner.Proofs.Token.Requests
import Reckoner.Proofs.Cursor.Moments
import Reckoner.Proofs.Diagnostics
import Reckoner.Proofs.Infixed.Conventional
import Reckoner.Proofs.Token.Separators
import Reckoner.Proofs.Token.Literals
import Reckoner.Proofs.Token.Slices
import Reckoner.Proofs.Token.Printing
import Reckoner.Proofs.Double.Rounding
import Reckoner.Proofs.Double.Unpacked
import Reckoner.Proofs.Double.Values
import Reckoner.Proofs.Double.Decimals
import Reckoner.Proofs.Double.Arithmetic
import Reckoner.Proofs.Equality
