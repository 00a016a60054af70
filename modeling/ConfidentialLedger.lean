import ConfidentialLedger.Core
import ConfidentialLedger.Proto
import ConfidentialLedger.Budget
import ConfidentialLedger.Service
import ConfidentialLedger.Effects
import ConfidentialLedger.Clock
import ConfidentialLedger.Lifecycle
import ConfidentialLedger.CreateKey
import ConfidentialLedger.Authorize
import ConfidentialLedger.Budgets
import ConfidentialLedger.Spending
import ConfidentialLedger.Accounting
import ConfidentialLedger.Grants
import ConfidentialLedger.Independence
import ConfidentialLedger.Confidentiality
