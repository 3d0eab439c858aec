import RankAdvisor.Codec.Value
import RankAdvisor.Advice.Setup
import RankAdvisor.Analysis.Job

/-! # Analysis values as JSON

Advice, records, jobs, settings and provider descriptions in their JSON forms. Advice is
shown with its unreadable mark and its structured part; a record is shown without its
storing time; a job with its records, message, whether it is terminal and whether it has
finished.
-/

namespace RankAdvisor

namespace Codec

def adviceView (a : Advice) : Json :=
  .obj [("recommendation", .str a.recommendation.word), ("confidence", .num a.confidence),
    ("summary", a.summary), ("narrative", a.narrative),
    ("is_error", .bool a.isUnreadable), ("payload", a.payload)]

def recommendationOf (word : Json) : Except Fault Recommendation :=
  match word with
  | .str s => match Recommendation.ofWord? s with
    | some r => .ok r
    | none => .error (Fault.badValue s!"{word.literal} is not a valid RecommendationStatus")
  | _ => .error (Fault.badValue s!"{word.literal} is not a valid RecommendationStatus")

/-- Advice from its JSON form: the confidence defaults to zero, the texts to empty. -/
def adviceOf (v : Json) : Except Fault Advice := do
  pure ⟨← recommendationOf (← need v "recommendation"),
    ← toDouble ((opt v "confidence").getD (.num (Binary64.zero false))),
    (opt v "summary").getD (.str ""), (opt v "narrative").getD (.str "")⟩

/-- A record from its JSON form: the code defaults to null, the name and texts to empty,
the confidence to zero; an empty storing time counts as none. -/
def recordOf (v : Json) : Except Fault Record := do
  pure {
    stockCode := (opt v "stock_code").getD .null
    stockName := (opt v "stock_name").getD (.str "")
    analysisDate := ← readDate (← need v "analysis_date")
    recommendation := ← recommendationOf (← need v "recommendation")
    confidence := ← toDouble ((opt v "confidence").getD (.num (Binary64.zero false)))
    summary := (opt v "summary").getD (.str "")
    narrative := (opt v "narrative").getD (.str "")
    createdAt := ← match opt v "created_at" with
      | some t => if t.isEmptyish then pure none else some <$> readDateTime t
      | none => pure none }

/-- A record as JSON, without its storing time. -/
def recordView (r : Record) : Json :=
  .obj [("stock_code", r.stockCode), ("stock_name", r.stockName),
    ("analysis_date", .str r.analysisDate.iso), ("recommendation", .str r.recommendation.word),
    ("confidence", .num r.confidence), ("summary", r.summary), ("narrative", r.narrative)]

def jobOf (v : Json) : Except Fault Job := do
  let sw ← need v "status"
  let status ← match sw with
    | .str s => match JobStatus.ofWord? s with
      | some st => pure st
      | none => throw (Fault.badValue s!"{sw.literal} is not a valid AnalysisStatus")
    | _ => throw (Fault.badValue s!"{sw.literal} is not a valid AnalysisStatus")
  pure {
    id := ← need v "job_id"
    status := status
    results := ← match opt v "results" with
      | some .null | none => pure []
      | some rs => (← listOf rs).mapM recordOf
    errorMessage := match opt v "error_message" with
      | some .null | none => none
      | some m => some m
    finished := (opt v "finished").map asBool |>.getD false }

def jobView (j : Job) : Json :=
  .obj [("job_id", j.id), ("status", .str j.status.word),
    ("results", .arr (j.results.map recordView)),
    ("error_message", j.errorMessage.getD .null),
    ("is_terminal", .bool j.isTerminal), ("finished", .bool j.finished)]

/-- Settings from an object of named fields over the defaults, each value kept as given;
the list of warnings may be named and is left out; an unknown name is a wrong argument. -/
def configOf (v : Json) : Except Fault Config := do
  let kvs ← match v with
    | .obj kvs => pure kvs
    | _ => throw (Fault.wrongType "Config() argument after ** must be a mapping")
  kvs.foldlM (fun (c : Config) (kx : String × Json) => do
    let (k, x) := kx
    match k with
    | "kis_base_url" => pure { c with kisBaseUrl := x }
    | "kis_app_key" => pure { c with kisAppKey := x }
    | "kis_app_secret" => pure { c with kisAppSecret := x }
    | "kis_timeout" => pure { c with kisTimeout := x }
    | "token_lease_seconds" => pure { c with tokenLeaseSeconds := x }
    | "market_timezone" => pure { c with marketTimezone := x }
    | "market_close_time" => pure { c with marketCloseTime := x }
    | "days_back" => pure { c with daysBack := x }
    | "rank_top_n" => pure { c with rankTopN := x }
    | "strict_ranking" => pure { c with strictRanking := x }
    | "collect_max_workers" => pure { c with collectMaxWorkers := x }
    | "collect_queue_capacity" => pure { c with collectQueueCapacity := x }
    | "analysis_max_workers" => pure { c with analysisMaxWorkers := x }
    | "analysis_queue_capacity" => pure { c with analysisQueueCapacity := x }
    | "job_max_workers" => pure { c with jobMaxWorkers := x }
    | "job_queue_capacity" => pure { c with jobQueueCapacity := x }
    | "llm_provider" => pure { c with llmProvider := x }
    | "claude_api_key" => pure { c with claudeApiKey := x }
    | "claude_model" => pure { c with claudeModel := x }
    | "claude_base_url" => pure { c with claudeBaseUrl := x }
    | "openai_api_key" => pure { c with openaiApiKey := x }
    | "openai_model" => pure { c with openaiModel := x }
    | "openai_base_url" => pure { c with openaiBaseUrl := x }
    | "llm_max_tokens" => pure { c with llmMaxTokens := x }
    | "llm_timeout" => pure { c with llmTimeout := x }
    | "llm_max_retries" => pure { c with llmMaxRetries := x }
    | "llm_retry_initial_delay" => pure { c with llmRetryInitialDelay := x }
    | "llm_retry_max_delay" => pure { c with llmRetryMaxDelay := x }
    | "llm_cache_ttl_hours" => pure { c with llmCacheTtlHours := x }
    | "database_path" => pure { c with databasePath := x }
    | "database_url" => pure { c with databaseUrl := x }
    | "log_dir" => pure { c with logDir := x }
    | "schedule_enabled" => pure { c with scheduleEnabled := x }
    | "schedule_time" => pure { c with scheduleTime := x }
    | "warnings" => pure c
    | _ => throw (Fault.wrongType s!"Config.__init__() got an unexpected keyword argument {Json.quoteLiteral k}")) {}

def configView (c : Config) : Json :=
  .obj [("kis_base_url", c.kisBaseUrl),
    ("kis_app_key", c.kisAppKey),
    ("kis_app_secret", c.kisAppSecret),
    ("kis_timeout", c.kisTimeout),
    ("token_lease_seconds", c.tokenLeaseSeconds),
    ("market_timezone", c.marketTimezone),
    ("market_close_time", c.marketCloseTime),
    ("days_back", c.daysBack),
    ("rank_top_n", c.rankTopN),
    ("strict_ranking", c.strictRanking),
    ("collect_max_workers", c.collectMaxWorkers),
    ("collect_queue_capacity", c.collectQueueCapacity),
    ("analysis_max_workers", c.analysisMaxWorkers),
    ("analysis_queue_capacity", c.analysisQueueCapacity),
    ("job_max_workers", c.jobMaxWorkers),
    ("job_queue_capacity", c.jobQueueCapacity),
    ("llm_provider", c.llmProvider),
    ("claude_api_key", c.claudeApiKey),
    ("claude_model", c.claudeModel),
    ("claude_base_url", c.claudeBaseUrl),
    ("openai_api_key", c.openaiApiKey),
    ("openai_model", c.openaiModel),
    ("openai_base_url", c.openaiBaseUrl),
    ("llm_max_tokens", c.llmMaxTokens),
    ("llm_timeout", c.llmTimeout),
    ("llm_max_retries", c.llmMaxRetries),
    ("llm_retry_initial_delay", c.llmRetryInitialDelay),
    ("llm_retry_max_delay", c.llmRetryMaxDelay),
    ("llm_cache_ttl_hours", c.llmCacheTtlHours),
    ("database_path", c.databasePath),
    ("database_url", c.databaseUrl),
    ("log_dir", c.logDir),
    ("schedule_enabled", c.scheduleEnabled),
    ("schedule_time", c.scheduleTime)]

/-- A provider from its JSON form: kind (`claude` for the messages interface, any other for
the chat interface), key (empty unless given), model (`m` unless given), with optional
address, token limit and timeout. -/
def providerOf (v : Json) : Except Fault Provider := do
  let kind := match opt v "kind" with
    | some (.str "claude") => ProviderKind.messages
    | _ => ProviderKind.chat
  let base := match kind with
    | .messages => "https://api.anthropic.com"
    | .chat => "https://api.openai.com/v1"
  pure {
    kind := kind
    apiKey := (opt v "api_key").getD (.str "")
    model := (opt v "model").getD (.str "m")
    baseUrl := ← Http.baseOf ((opt v "base_url").getD (.str base))
    maxTokens := (opt v "max_tokens").getD (.int 2000)
    timeout := (opt v "timeout").getD (.num 45) }

end Codec

end RankAdvisor
