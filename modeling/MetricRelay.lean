import MetricRelay.Text.Split
import MetricRelay.Text.Quoted
import MetricRelay.Text.Alphanumeric
import MetricRelay.Text.Case
import MetricRelay.Text.Blank
import MetricRelay.Decimal.Style
import MetricRelay.Decimal.Numeral
import MetricRelay.Time.Span
import MetricRelay.Json.Reader
import MetricRelay.Json.Printer
import MetricRelay.Time.Timestamp
import MetricRelay.Time.Duration
import MetricRelay.Monitoring.Series
import MetricRelay.Delta.Sweeper
import MetricRelay.DescriptorCache
import MetricRelay.Exposition.Sink
import MetricRelay.Exposition.Text
import MetricRelay.Exposition.Meters
import MetricRelay.Settings.Filter
import MetricRelay.Settings.Prefixes
import MetricRelay.Scrape.Exporter
import MetricRelay.Monitoring.Client
import MetricRelay.Settings.Load
import MetricRelay.Control
import MetricRelay.Startup
import MetricRelay.Main
import MetricRelay.Proofs.Delta.Growth
import MetricRelay.Proofs.LabelKey
import MetricRelay.Proofs.Scrape.Paging
import MetricRelay.Proofs.Exposition.Sink
import MetricRelay.Proofs.Scrape.Exchange
import MetricRelay.Proofs.Scrape.Descriptors
import MetricRelay.Proofs.Intake.Kind
import MetricRelay.Proofs.Scrape.Independence
import MetricRelay.Proofs.Scrape.Trace
import MetricRelay.Proofs.Settings.Check
import MetricRelay.Proofs.Settings.Environment
import MetricRelay.Proofs.Settings.Prefixes
import MetricRelay.Proofs.Scrape.Listing
import MetricRelay.Proofs.Scrape.Once
import MetricRelay.Proofs.Delta.Repeat
import MetricRelay.Proofs.Scrape.Rescrape
import MetricRelay.Proofs.Scrape.Hit
import MetricRelay.Proofs.Scrape.Failure
import MetricRelay.Proofs.Scrape.FirstFault
import MetricRelay.Proofs.Exposition.Exposed
import MetricRelay.Proofs.Exposition.Unambiguous
import MetricRelay.Proofs.Exposition.Uniform
import MetricRelay.Proofs.Intake.Filled
import MetricRelay.Proofs.Scrape.LabelNames
import MetricRelay.Proofs.DescriptorCache
import MetricRelay.Proofs.Scrape.Caching
import MetricRelay.Proofs.Scrape.Requests
import MetricRelay.Proofs.Scrape.Protocol
import MetricRelay.Proofs.Intake.Delegated
import MetricRelay.Proofs.Settings.Faults
import MetricRelay.Proofs.Monitoring.Answer
import MetricRelay.Proofs.Histogram.Distribution
import MetricRelay.Proofs.Settings.Cover
import MetricRelay.Proofs.Histogram.Summation
import MetricRelay.Proofs.Histogram.Closing
import MetricRelay.Proofs.Intake.Groups
import MetricRelay.Proofs.Intake.Completion
import MetricRelay.Proofs.Text.Digit
import MetricRelay.Proofs.Time.Calendar
import MetricRelay.Proofs.Time.Form
import MetricRelay.Proofs.Time.Spelling
import MetricRelay.Time.Zoned
import MetricRelay.Proofs.Time.RoundTrip
import MetricRelay.Proofs.Intake.Routing
import MetricRelay.Proofs.Exposition.Conservation
import MetricRelay.Proofs.Time.Duration
import MetricRelay.Proofs.Delta.Sweep
import MetricRelay.Proofs.Intake.Merge
import MetricRelay.Proofs.Monitoring.Selection
import MetricRelay.Proofs.Delta.Totals
