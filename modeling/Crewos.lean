import Crewos.Agent.Acceptance
import Crewos.Agent.AnswerAgreement
import Crewos.Agent.Classification
import Crewos.Agent.Counting
import Crewos.Agent.FinalBranch
import Crewos.Agent.Histories
import Crewos.Agent.Receipts
import Crewos.Agent.Spending
import Crewos.Api.AgentOutcomes
import Crewos.Api.DocumentReceipts
import Crewos.Api.DocumentSearch
import Crewos.Api.PublicRecord
import Crewos.Api.Redelivery
import Crewos.Chunking.Windows
import Crewos.Documents.Corpus
import Crewos.Documents.JobFencing
import Crewos.Documents.JobRows
import Crewos.Documents.Processor
import Crewos.Documents.StoredText
import Crewos.Documents.Submission
import Crewos.Documents.Tenants
import Crewos.Foundation.Transition
import Crewos.Llm.LocalPointers
import Crewos.Retrieval.Agreement
import Crewos.RunStore.Abandonment
import Crewos.RunStore.Cancellation
import Crewos.RunStore.Fencing
import Crewos.RunStore.Ledger
import Crewos.RunStore.Reconciliation
import Crewos.RunStore.Submission
import Crewos.RunStore.Tenants
