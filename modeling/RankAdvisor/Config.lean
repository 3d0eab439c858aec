import RankAdvisor.Json.Order
import RankAdvisor.Json.Literal
import RankAdvisor.Text.Numeral
import RankAdvisor.Text.Case

/-! # Configuration

Every setting of a run, with its default: the market data service and its credentials,
the market's time zone and closing time, the chart window and ranking size, the sizes of
the worker pools, the advice provider with its retry and cache settings, the store, and
the daily schedule.

`Config.fromEnv` reads the settings from named variables. A text setting is trimmed; a
whole-number or decimal setting that is set but not a numeral is a configuration error; a
switch is on for `1`, `true`, `yes` or `on` in any case. `Config.validate` lists what is
missing or out of range; it fails only on a count that cannot be ordered against a whole
number.
-/

namespace RankAdvisor

def supportedProviders : List String := ["claude", "gpt"]

def providerChoices : String := ", ".intercalate supportedProviders

/-- The settings of a run. Each is kept as the value it was given, of whatever kind: the
parts that use a setting decide what they accept, and a report echoes it unchanged. -/
structure Config where
  kisBaseUrl : Json := .str "https://openapi.koreainvestment.com:9443"
  kisAppKey : Json := .str ""
  kisAppSecret : Json := .str ""
  kisTimeout : Json := .num 10
  tokenLeaseSeconds : Json := .int 86400
  marketTimezone : Json := .str "Asia/Seoul"
  marketCloseTime : Json := .str "15:30"
  daysBack : Json := .int 60
  rankTopN : Json := .int 10
  strictRanking : Json := .bool false
  collectMaxWorkers : Json := .int 10
  collectQueueCapacity : Json := .int 100
  analysisMaxWorkers : Json := .int 3
  analysisQueueCapacity : Json := .int 50
  jobMaxWorkers : Json := .int 3
  jobQueueCapacity : Json := .int 50
  llmProvider : Json := .str "claude"
  claudeApiKey : Json := .str ""
  claudeModel : Json := .str "claude-3-5-sonnet-20241022"
  claudeBaseUrl : Json := .str "https://api.anthropic.com"
  openaiApiKey : Json := .str ""
  openaiModel : Json := .str "gpt-4o-mini"
  openaiBaseUrl : Json := .str "https://api.openai.com/v1"
  llmMaxTokens : Json := .int 2000
  llmTimeout : Json := .num 45
  llmMaxRetries : Json := .int 2
  llmRetryInitialDelay : Json := .num 2
  llmRetryMaxDelay : Json := .num 8
  llmCacheTtlHours : Json := .num 6
  databasePath : Json := .str "./data/stock_analysis.db"
  databaseUrl : Json := .str ""
  logDir : Json := .str "./logs"
  scheduleEnabled : Json := .bool false
  scheduleTime : Json := .str "16:00"
  deriving Repr, Inhabited

namespace Config

/-- A variable's trimmed text; an unset variable reads as `d`. -/
def readText (env : String → Option String) (name : String) (d : String := "") : String :=
  Text.trimBlank ((env name).getD d)

/-- A text variable; unset gives the default's text. -/
def readTextOr (env : String → Option String) (name : String) (d : Json) : Json :=
  .str (readText env name d.plainText)

/-- A whole-number variable; unset or blank gives the default. -/
def readWhole (env : String → Option String) (name : String) (d : Json) : Except Fault Json :=
  let v := readText env name
  if v.isEmpty then .ok d
  else match Numeral.readWhole? v with
    | some n => .ok (.int n)
    | none => .error ⟨.config, s!"环境变量 {name} 不是合法的整数: {v}", none⟩

/-- A decimal variable; unset or blank gives the default. -/
def readDecimal (env : String → Option String) (name : String) (d : Json) : Except Fault Json :=
  let v := readText env name
  if v.isEmpty then .ok d
  else match Numeral.readDecimal? v with
    | some x => .ok (.num x)
    | none => .error ⟨.config, s!"环境变量 {name} 不是合法的数字: {v}", none⟩

/-- A switch variable; unset or blank gives the default. -/
def readSwitch (env : String → Option String) (name : String) (d : Json) : Json :=
  let v := Text.lower (readText env name)
  if v.isEmpty then d else .bool (["1", "true", "yes", "on"].contains v)

/-- The settings named by the variables of `env`, defaults for the rest. -/
def fromEnv (env : String → Option String) : Except Fault Config := do
  let d : Config := {}
  pure {
    kisBaseUrl := readTextOr env "KIS_BASE_URL" d.kisBaseUrl
    kisAppKey := .str (readText env "KIS_APP_KEY")
    kisAppSecret := .str (readText env "KIS_APP_SECRET")
    kisTimeout := ← readDecimal env "KIS_TIMEOUT" d.kisTimeout
    tokenLeaseSeconds := ← readWhole env "KIS_TOKEN_LEASE_SECONDS" d.tokenLeaseSeconds
    marketTimezone := readTextOr env "MARKET_TIMEZONE" d.marketTimezone
    marketCloseTime := readTextOr env "MARKET_CLOSE_TIME" d.marketCloseTime
    daysBack := ← readWhole env "DAYS_BACK" d.daysBack
    rankTopN := ← readWhole env "RANK_TOP_N" d.rankTopN
    strictRanking := readSwitch env "STRICT_RANKING" d.strictRanking
    collectMaxWorkers := ← readWhole env "COLLECT_MAX_WORKERS" d.collectMaxWorkers
    collectQueueCapacity := ← readWhole env "COLLECT_QUEUE_CAPACITY" d.collectQueueCapacity
    analysisMaxWorkers := ← readWhole env "ANALYSIS_MAX_WORKERS" d.analysisMaxWorkers
    analysisQueueCapacity := ← readWhole env "ANALYSIS_QUEUE_CAPACITY" d.analysisQueueCapacity
    jobMaxWorkers := ← readWhole env "JOB_MAX_WORKERS" d.jobMaxWorkers
    jobQueueCapacity := ← readWhole env "JOB_QUEUE_CAPACITY" d.jobQueueCapacity
    llmProvider := .str (Text.lower (readText env "LLM_PROVIDER" d.llmProvider.plainText))
    claudeApiKey := .str (readText env "CLAUDE_API_KEY")
    claudeModel := readTextOr env "CLAUDE_MODEL" d.claudeModel
    claudeBaseUrl := readTextOr env "CLAUDE_BASE_URL" d.claudeBaseUrl
    openaiApiKey := .str (readText env "OPENAI_API_KEY")
    openaiModel := readTextOr env "OPENAI_MODEL" d.openaiModel
    openaiBaseUrl := readTextOr env "OPENAI_BASE_URL" d.openaiBaseUrl
    llmMaxTokens := ← readWhole env "LLM_MAX_TOKENS" d.llmMaxTokens
    llmTimeout := ← readDecimal env "LLM_TIMEOUT" d.llmTimeout
    llmMaxRetries := ← readWhole env "LLM_MAX_RETRIES" d.llmMaxRetries
    llmRetryInitialDelay := ← readDecimal env "LLM_RETRY_INITIAL_DELAY" d.llmRetryInitialDelay
    llmRetryMaxDelay := ← readDecimal env "LLM_RETRY_MAX_DELAY" d.llmRetryMaxDelay
    llmCacheTtlHours := ← readDecimal env "LLM_CACHE_TTL_HOURS" d.llmCacheTtlHours
    databasePath := readTextOr env "DATABASE_PATH" d.databasePath
    databaseUrl := .str (readText env "DATABASE_URL")
    logDir := readTextOr env "LOG_DIR" d.logDir
    scheduleEnabled := readSwitch env "SCHEDULE_ENABLED" d.scheduleEnabled
    scheduleTime := readTextOr env "SCHEDULE_TIME" d.scheduleTime }

def envNames : List String :=
  ["KIS_BASE_URL", "KIS_APP_KEY", "KIS_APP_SECRET", "KIS_TIMEOUT", "KIS_TOKEN_LEASE_SECONDS",
   "MARKET_TIMEZONE", "MARKET_CLOSE_TIME", "DAYS_BACK", "RANK_TOP_N", "STRICT_RANKING",
   "COLLECT_MAX_WORKERS", "COLLECT_QUEUE_CAPACITY", "ANALYSIS_MAX_WORKERS",
   "ANALYSIS_QUEUE_CAPACITY", "JOB_MAX_WORKERS", "JOB_QUEUE_CAPACITY", "LLM_PROVIDER",
   "CLAUDE_API_KEY", "CLAUDE_MODEL", "CLAUDE_BASE_URL", "OPENAI_API_KEY", "OPENAI_MODEL",
   "OPENAI_BASE_URL", "LLM_MAX_TOKENS", "LLM_TIMEOUT", "LLM_MAX_RETRIES",
   "LLM_RETRY_INITIAL_DELAY", "LLM_RETRY_MAX_DELAY", "LLM_CACHE_TTL_HOURS", "DATABASE_PATH",
   "DATABASE_URL", "LOG_DIR", "SCHEDULE_ENABLED", "SCHEDULE_TIME"]

/-- Whether a setting counts as set: not null, false, zero or empty. -/
def isSet (v : Json) : Bool := !v.isEmptyish

/-- What is missing or out of range, in a fixed order: the market data credentials, the
provider and its key, the chart window, and each pool's worker count. A count that cannot
be ordered against a whole number fails. -/
def validate (c : Config) : Except Fault (List String) := do
  let credentials :=
    if !isSet c.kisAppKey || !isSet c.kisAppSecret then
      ["未配置 KIS_APP_KEY / KIS_APP_SECRET，无法获取行情数据"] else []
  let provider := c.llmProvider
  let shown := provider.plainText
  let providerNote :=
    if !supportedProviders.any fun p => Json.sameValue provider (.str p) then
      [s!"LLM_PROVIDER={shown} 不受支持，可选值: {providerChoices}"]
    else if Json.sameValue provider (.str "claude") && !isSet c.claudeApiKey then
      ["LLM_PROVIDER=claude 但未配置 CLAUDE_API_KEY"]
    else if Json.sameValue provider (.str "gpt") && !isSet c.openaiApiKey then
      ["LLM_PROVIDER=gpt 但未配置 OPENAI_API_KEY"]
    else []
  let days := c.daysBack.plainText
  let window := if ← Json.lt c.daysBack (.int 1) then [s!"DAYS_BACK={days} 无效，至少为 1"] else []
  let pools ← [("COLLECT_MAX_WORKERS", c.collectMaxWorkers),
    ("ANALYSIS_MAX_WORKERS", c.analysisMaxWorkers), ("JOB_MAX_WORKERS", c.jobMaxWorkers)].filterMapM
      fun (name, n) => do
        if ← Json.lt n (.int 1) then pure (some s!"{name} 必须大于 0") else pure none
  pure (credentials ++ providerNote ++ window ++ pools)

/-- The store's address when one is given explicitly. -/
def dbUrl? (c : Config) : Option Json :=
  if isSet c.databaseUrl then some c.databaseUrl else none

end Config

end RankAdvisor
