import RankAdvisor.Binary64.Basic
import RankAdvisor.Binary64.Round
import RankAdvisor.Binary64.Shortest
import RankAdvisor.Binary64.Fixed
import RankAdvisor.Text.Blank
import RankAdvisor.Text.Digit
import RankAdvisor.Text.Printable
import RankAdvisor.Text.Cased
import RankAdvisor.Text.Numeral
import RankAdvisor.Json.Value
import RankAdvisor.Json.Read
import RankAdvisor.Json.Write
import RankAdvisor.Json.Literal
import RankAdvisor.Calendar.Date
import RankAdvisor.Calendar.Clock
import RankAdvisor.Calendar.Error
import RankAdvisor.Calendar.Iso
import RankAdvisor.Calendar.Pattern
import RankAdvisor.Fault
import RankAdvisor.Number
import RankAdvisor.Market.Figures
import RankAdvisor.Market.Field
import RankAdvisor.Market.TradingDay
import RankAdvisor.Market.Basic
import RankAdvisor.Market.Dataset
import RankAdvisor.Market.Rows
import RankAdvisor.Advice.Basic
import RankAdvisor.Advice.Narrative
import RankAdvisor.Advice.Reading
import RankAdvisor.Advice.Prompt
import RankAdvisor.Advice.Advisor
import RankAdvisor.Advice.Cache
import RankAdvisor.Advice.Provider
import RankAdvisor.Advice.Retry
import RankAdvisor.Advice.Setup
import RankAdvisor.Analysis.Job
import RankAdvisor.Analysis.JobStore
import RankAdvisor.Bench.Session
import RankAdvisor.Calendar.Duration
import RankAdvisor.Calendar.Zone
import RankAdvisor.Codec.Analysis
import RankAdvisor.Codec.Market
import RankAdvisor.Codec.Value
import RankAdvisor.Collection
import RankAdvisor.CommandLine
import RankAdvisor.Config
import RankAdvisor.Environment
import RankAdvisor.Http.Exchange
import RankAdvisor.MarketData.Client
import RankAdvisor.MarketData.Feed
import RankAdvisor.MarketData.Token
import RankAdvisor.Pool
import RankAdvisor.Schedule
import RankAdvisor.Store.Basic
import RankAdvisor.Store.Row
import RankAdvisor.Text.Case
import RankAdvisor.Analysis.Pipeline
import RankAdvisor.Analysis.Service
import RankAdvisor.Codec.Store
import RankAdvisor.Calendar.Fault
import RankAdvisor.Bench.Run
import RankAdvisor.Analysis.Report
import RankAdvisor.Main
import RankAdvisor.Proofs.JobLifecycle
import RankAdvisor.Proofs.RunOutcome
import RankAdvisor.Proofs.TokenCallers
import RankAdvisor.Proofs.TokenSingleFlight
import RankAdvisor.Proofs.AdviceCacheHistory
import RankAdvisor.Proofs.PoolSlots
import RankAdvisor.Proofs.Binary64Rounding
import RankAdvisor.Proofs.ShortestDecimal
import RankAdvisor.Proofs.NumberText
import RankAdvisor.Proofs.JsonReadBack
import RankAdvisor.Proofs.AdviceReadBack
import RankAdvisor.Proofs.CollectionCalls
import RankAdvisor.Proofs.FanOutGather
import RankAdvisor.Proofs.ServiceDesk
import RankAdvisor.Proofs.FeedFailures
import RankAdvisor.Proofs.ReadingOutcomes
import RankAdvisor.Proofs.RankingPrefix
import RankAdvisor.Proofs.CalendarDays
import RankAdvisor.Proofs.TradingWindow
import RankAdvisor.Proofs.FeedOutcomes
import RankAdvisor.Proofs.AdviceRetries
import RankAdvisor.Proofs.WholeFields
import RankAdvisor.Proofs.ProviderCalls
import RankAdvisor.Proofs.TradeDateText
import RankAdvisor.Proofs.QueryCalls
import RankAdvisor.Proofs.DatasetWindow
import RankAdvisor.Proofs.AdviceHistory
import RankAdvisor.Proofs.PriceUpserts
import RankAdvisor.Proofs.ServiceWiring
import RankAdvisor.Proofs.StockCodes
