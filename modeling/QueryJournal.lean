import QueryJournal.Dns.Unpacking
import QueryJournal.Journal.Upkeep
import QueryJournal.Main
import QueryJournal.Proofs.Inspection.Checking
import QueryJournal.Proofs.Inspection.Printing
import QueryJournal.Proofs.Journal.Anonymity
import QueryJournal.Proofs.Journal.Clearing
import QueryJournal.Proofs.Journal.Course
import QueryJournal.Proofs.Journal.Fullness
import QueryJournal.Proofs.Journal.Memory
import QueryJournal.Proofs.Journal.Occupancy
import QueryJournal.Proofs.Journal.Recovery
import QueryJournal.Proofs.Journal.Retrieval
import QueryJournal.Proofs.Journal.Vacancy
import QueryJournal.Proofs.Record.Host
import QueryJournal.Proofs.Search.Deadline
import QueryJournal.Proofs.Search.Paging
import QueryJournal.Proofs.Search.Term
import QueryJournal.Proofs.Segment.Alignment
import QueryJournal.Proofs.Segment.Landing
import QueryJournal.Proofs.Journal.Refusals
