import ClusterMetrics.Api.Answer
import ClusterMetrics.Api.MetricQuery
import ClusterMetrics.Api.QueryString
import ClusterMetrics.Api.Route
import ClusterMetrics.Api.Server
import ClusterMetrics.Api.StoreRequest
import ClusterMetrics.Bucket.Plan
import ClusterMetrics.Bucket.Rule
import ClusterMetrics.Calendar.Date
import ClusterMetrics.Calendar.Iso
import ClusterMetrics.Calendar.Timestamp
import ClusterMetrics.Calendar.Unit
import ClusterMetrics.Calendar.WallClock
import ClusterMetrics.CommandLine
import ClusterMetrics.Config.Load
import ClusterMetrics.Config.Server
import ClusterMetrics.Config.Startup
import ClusterMetrics.Decimal.Binary
import ClusterMetrics.Decimal.Fixed
import ClusterMetrics.Decimal.Reading
import ClusterMetrics.Decimal.Shortest
import ClusterMetrics.Fault
import ClusterMetrics.Json.Reader
import ClusterMetrics.Json.Writer
import ClusterMetrics.Main
import ClusterMetrics.Proofs.AdjacentRanges
import ClusterMetrics.Proofs.AnswerAccounts
import ClusterMetrics.Proofs.AnswerableRows
import ClusterMetrics.Proofs.AnsweredRecords
import ClusterMetrics.Proofs.BucketCounts
import ClusterMetrics.Proofs.CalendarBuckets
import ClusterMetrics.Proofs.CanonicalScopes
import ClusterMetrics.Proofs.CatalogListings
import ClusterMetrics.Proofs.ClusterIsolation
import ClusterMetrics.Proofs.ClusterSummaries
import ClusterMetrics.Proofs.CorruptValues
import ClusterMetrics.Proofs.CountedCells
import ClusterMetrics.Proofs.DecodedRows
import ClusterMetrics.Proofs.EnclosedSamples
import ClusterMetrics.Proofs.EntitySeries
import ClusterMetrics.Proofs.ExactWidths
import ClusterMetrics.Proofs.FormEncoding
import ClusterMetrics.Proofs.FoundNames
import ClusterMetrics.Proofs.Groups
import ClusterMetrics.Proofs.IncidentListings
import ClusterMetrics.Proofs.JsonSpelling
import ClusterMetrics.Proofs.KeptSamples
import ClusterMetrics.Proofs.LevelIsolation
import ClusterMetrics.Proofs.ListedItems
import ClusterMetrics.Proofs.MetricNames
import ClusterMetrics.Proofs.MonthStarts
import ClusterMetrics.Proofs.NamedQueries
import ClusterMetrics.Proofs.Narrowing
import ClusterMetrics.Proofs.NearestDoubles
import ClusterMetrics.Proofs.NearestMagnitudes
import ClusterMetrics.Proofs.NearestRatios
import ClusterMetrics.Proofs.NewestSamples
import ClusterMetrics.Proofs.NodeSeries
import ClusterMetrics.Proofs.NodeSummaryCells
import ClusterMetrics.Proofs.Numerals
import ClusterMetrics.Proofs.OversizedIdentifiers
import ClusterMetrics.Proofs.PaddedFields
import ClusterMetrics.Proofs.PathIdentifiers
import ClusterMetrics.Proofs.PodPaths
import ClusterMetrics.Proofs.PodRecords
import ClusterMetrics.Proofs.PodSnapshots
import ClusterMetrics.Proofs.PrintedTimes
import ClusterMetrics.Proofs.QueryZones
import ClusterMetrics.Proofs.RangeSeconds
import ClusterMetrics.Proofs.RecountedSums
import ClusterMetrics.Proofs.Rejections
import ClusterMetrics.Proofs.RepeatedRows
import ClusterMetrics.Proofs.RepresentedRatios
import ClusterMetrics.Proofs.ResolvedNames
import ClusterMetrics.Proofs.ResolvedScopes
import ClusterMetrics.Proofs.Rollups
import ClusterMetrics.Proofs.RoundedBounds
import ClusterMetrics.Proofs.RoundedOperations
import ClusterMetrics.Proofs.RowFields
import ClusterMetrics.Proofs.Selections
import ClusterMetrics.Proofs.SeparateParameters
import ClusterMetrics.Proofs.SeriesCells
import ClusterMetrics.Proofs.SeriesRecords
import ClusterMetrics.Proofs.SeriesRollups
import ClusterMetrics.Proofs.SeriesSelections
import ClusterMetrics.Proofs.SetBackClocks
import ClusterMetrics.Proofs.ShapedGroups
import ClusterMetrics.Proofs.ShapedLayouts
import ClusterMetrics.Proofs.SilentCells
import ClusterMetrics.Proofs.SnapshotSums
import ClusterMetrics.Proofs.SortedRows
import ClusterMetrics.Proofs.Statements
import ClusterMetrics.Proofs.SteppedBuckets
import ClusterMetrics.Proofs.StoredDoubles
import ClusterMetrics.Proofs.UniqueIds
import ClusterMetrics.Proofs.UnitBoundaries
import ClusterMetrics.Proofs.UptimeFields
import ClusterMetrics.Proofs.WrittenTimestamps
import ClusterMetrics.Query.Catalog
import ClusterMetrics.Query.Names
import ClusterMetrics.Query.Scope
import ClusterMetrics.Query.Selection
import ClusterMetrics.Query.Series
import ClusterMetrics.Query.Snapshot
import ClusterMetrics.Record.Coerce
import ClusterMetrics.Record.Kind
import ClusterMetrics.Record.Shape
import ClusterMetrics.Record.Validation
import ClusterMetrics.Status.Duration
import ClusterMetrics.Status.Incident
import ClusterMetrics.Status.Stats
import ClusterMetrics.Store.Backend
import ClusterMetrics.Store.Cell
import ClusterMetrics.Store.Database
import ClusterMetrics.Store.Edit
import ClusterMetrics.Store.Reading
import ClusterMetrics.Store.Tables
import ClusterMetrics.Text.Characters
import ClusterMetrics.Text.Percent
import ClusterMetrics.Text.Printable
import ClusterMetrics.Text.Quoted
import ClusterMetrics.Text.Utf8
import ClusterMetrics.Value
import ClusterMetrics.Yaml.Cursor
import ClusterMetrics.Yaml.Document
import ClusterMetrics.Yaml.Lexer
import ClusterMetrics.Yaml.Node
import ClusterMetrics.Yaml.Plain
import ClusterMetrics.Yaml.Scalar
import ClusterMetrics.Yaml.Token
import ClusterMetrics.Zone.Basic
import ClusterMetrics.Zone.Database
import ClusterMetrics.Zone.Encoding
import ClusterMetrics.Zone.Table.Africa
import ClusterMetrics.Zone.Table.AmericaFirst
import ClusterMetrics.Zone.Table.AmericaSecond
import ClusterMetrics.Zone.Table.Asia
import ClusterMetrics.Zone.Table.Europe
import ClusterMetrics.Zone.Table.Links
import ClusterMetrics.Zone.Table.Oceans
import ClusterMetrics.Zone.Table.Placeless
