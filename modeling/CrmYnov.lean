import CrmYnov.Agenda.Slots
import CrmYnov.Appointments.Warnings
import CrmYnov.Assignment.Balance
import CrmYnov.Assignment.Configurations
import CrmYnov.Assignment.Turns
import CrmYnov.Bootstrap.BlockOperator
import CrmYnov.Bootstrap.Columns
import CrmYnov.Bootstrap.Contacts
import CrmYnov.Bootstrap.Coverage
import CrmYnov.Bootstrap.Upload
import CrmYnov.Broadcast.Delivery
import CrmYnov.BusinessMail.Activation
import CrmYnov.BusinessMail.Budget
import CrmYnov.BusinessMail.Preparation
import CrmYnov.Chat.Messages
import CrmYnov.Closing.FourEyes
import CrmYnov.Collaboration.Runs
import CrmYnov.Commercial.Completions
import CrmYnov.Commercial.Reminding
import CrmYnov.Cutover.Exclusivity
import CrmYnov.Cutover.Literal
import CrmYnov.Desktop.Delivery
import CrmYnov.Desktop.Redial
import CrmYnov.Desktop.WithdrawalFlow
import CrmYnov.Documents.Checklist
import CrmYnov.Forminator.Webhook
import CrmYnov.ImportMapping.Mapping
import CrmYnov.ImportProfile.Csv
import CrmYnov.ImportReview.Decisions
import CrmYnov.Ingestion.Accounting
import CrmYnov.Ingestion.Foresight
import CrmYnov.JiraSync.Sync
import CrmYnov.Leads.ActivityKeys
import CrmYnov.MigrationPolicy.Policy
import CrmYnov.Outbox.Liveness
import CrmYnov.Permissions.Collection
import CrmYnov.Permissions.Repository
import CrmYnov.References.Registry
import CrmYnov.Reporting.Treatments
import CrmYnov.Reporting.Work
import CrmYnov.Sessions.RateLimit
import CrmYnov.Sessions.Revocation
import CrmYnov.SheetImport.Append.Guarantees
import CrmYnov.SheetImport.Exclusion
import CrmYnov.Telephony.Agent
import CrmYnov.Telephony.Service
