import DetectorSearch.Catalog
import DetectorSearch.CommandLine
import DetectorSearch.Detector
import DetectorSearch.Enrichment.Lookup
import DetectorSearch.Enrichment.Schedule
import DetectorSearch.Join
import DetectorSearch.Main
import DetectorSearch.Parameters
import DetectorSearch.Profile
import DetectorSearch.Proofs.Catalog
import DetectorSearch.Proofs.Catalog.Order
import DetectorSearch.Proofs.Catalog.Walk
import DetectorSearch.Proofs.Clock
import DetectorSearch.Proofs.CommandLine.Arguments
import DetectorSearch.Proofs.CommandLine.Console
import DetectorSearch.Proofs.CommandLine.Options
import DetectorSearch.Proofs.CommandLine.Search
import DetectorSearch.Proofs.Decimal.Numeral
import DetectorSearch.Proofs.Enrichment.Accounting
import DetectorSearch.Proofs.Enrichment.Answers
import DetectorSearch.Proofs.Enrichment.CallOff
import DetectorSearch.Proofs.Enrichment.Correlation
import DetectorSearch.Proofs.Enrichment.Deadline
import DetectorSearch.Proofs.Enrichment.Ending
import DetectorSearch.Proofs.Enrichment.Exactness
import DetectorSearch.Proofs.Enrichment.FirstFailure
import DetectorSearch.Proofs.Enrichment.Independence
import DetectorSearch.Proofs.Enrichment.Order
import DetectorSearch.Proofs.Enrichment.Run
import DetectorSearch.Proofs.Enrichment.Solo
import DetectorSearch.Proofs.Enrichment.Timeline
import DetectorSearch.Proofs.Http
import DetectorSearch.Proofs.Http.Address
import DetectorSearch.Proofs.Http.Path
import DetectorSearch.Proofs.Join
import DetectorSearch.Proofs.Join.Arrivals
import DetectorSearch.Proofs.Json.Writable
import DetectorSearch.Proofs.Keyed
import DetectorSearch.Proofs.Operation
import DetectorSearch.Proofs.Outcome
import DetectorSearch.Proofs.Parameters
import DetectorSearch.Proofs.Parameters.Spelling
import DetectorSearch.Proofs.Presentation
import DetectorSearch.Proofs.Profile
import DetectorSearch.Proofs.Profile.Spelling
import DetectorSearch.Proofs.Query
import DetectorSearch.Proofs.Query.Meaning
import DetectorSearch.Proofs.Query.Pattern
import DetectorSearch.Proofs.Query.Tree
import DetectorSearch.Proofs.Retry
import DetectorSearch.Proofs.Service
import DetectorSearch.Proofs.Service.Addressing
import DetectorSearch.Proofs.Service.Agreement
import DetectorSearch.Proofs.Service.Replies
import DetectorSearch.Proofs.Text
import DetectorSearch.Proofs.Text.Blank
import DetectorSearch.Proofs.Text.Cut
import DetectorSearch.Proofs.Text.Glob
import DetectorSearch.Proofs.Text.Letter
import DetectorSearch.Proofs.Text.Percent
import DetectorSearch.Proofs.Text.Utf8
import DetectorSearch.Proofs.Tool
import DetectorSearch.Proofs.Tool.Failures
import DetectorSearch.Proofs.Tool.Meaning
import DetectorSearch.Proofs.Tool.Memory
import DetectorSearch.Proofs.Tool.Requests
import DetectorSearch.Proofs.Value.Order
import DetectorSearch.Proofs.Value.Sort
import DetectorSearch.Service.CatalogSearch
import DetectorSearch.Service.StatusLookup
import DetectorSearch.SettingsFile
import DetectorSearch.Tool
import DetectorSearch.Yaml.Document
