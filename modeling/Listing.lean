import Listing.Service
import Listing.Proofs.Paging
import Listing.Proofs.Condition.Filter
import Listing.Proofs.Selection.Meaning
import Listing.Proofs.Arrangement
import Listing.Proofs.Range
import Listing.Proofs.Operand
import Listing.Proofs.Selection.Agreement
import Listing.Proofs.Blame
import Listing.Proofs.Containment
import Listing.Proofs.Selection.Conjunction
import Listing.Proofs.InputOrder
import Listing.Proofs.Strictness
import Listing.Proofs.NamedFields
import Listing.Proofs.Condition.Reach
import Listing.Proofs.Selection.Demand
import Listing.Proofs.Registration
import Listing.Proofs.Clauses
import Listing.Proofs.Arrangement.Chain
import Listing.Proofs.Arrangement.Mirror
import Listing.Proofs.Trichotomy
import Listing.Proofs.Extent
import Listing.Proofs.Window.Resolution
import Listing.Proofs.Tag
import Listing.Proofs.Date
import Listing.Proofs.Integer
import Listing.Proofs.Containment.Folded
import Listing.Proofs.SortKey
import Listing.Proofs.Decimal
import Listing.Proofs.Condition.Offsets
import Listing.Proofs.Settings
