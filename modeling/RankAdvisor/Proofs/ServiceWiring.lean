import RankAdvisor.Analysis.Service
import RankAdvisor.Proofs.JobLifecycle
import RankAdvisor.Proofs.PoolSlots

/-! # What `validate` leaves to the wiring

`Config.validate` lists what is missing or out of range: the market data credentials, the
provider's name and key, the chart window and each pool's worker count. An empty list says
exactly that these hold (`Config.validate_eq_nil_iff`).

The service is assembled from more settings than that, and each part refuses what it cannot
use: the market data address must be a text, each pool's queue must not be negative, the
closing time must read as `HH:MM`, the time zone must name a zone, the chosen provider's
address and key must be texts, and the cache lifetime must convert to a duration. On a
configuration with no warnings the assembly succeeds exactly when those hold
(`validated_setup_ok_iff`); a negative queue is one a validated configuration can still
have (`negative_queue_fails_setup`). The retry settings are read by no part of the
assembly.
-/

namespace RankAdvisor

set_option autoImplicit false

/-! ## Sequenced checks -/

theorem Except.bind_eq_ok {ε α β : Type} {x : Except ε α} {f : α → Except ε β} {b : β} :
    (x >>= f) = .ok b ↔ ∃ a, x = .ok a ∧ f a = .ok b := by
  cases x <;> simp [bind, Except.bind]

theorem filterMapM_eq_ok_nil {α β : Type} {f : α → Except Fault (Option β)} (l : List α) :
    l.filterMapM f = .ok [] ↔ ∀ x ∈ l, f x = .ok none := by
  induction l with
  | nil => simp [List.filterMapM, List.filterMapM.loop, pure, Except.pure]
  | cons x l ih =>
    rw [List.filterMapM_cons, Except.bind_eq_ok, List.forall_mem_cons, ← ih]
    constructor
    · rintro ⟨r, hr, hrest⟩
      cases r with
      | none => exact ⟨hr, hrest⟩
      | some b =>
        -- a finding is kept, so the list is not empty
        obtain ⟨t, -, ht⟩ := Except.bind_eq_ok.1 hrest
        cases ht
    · rintro ⟨hx, hl⟩
      exact ⟨none, hx, hl⟩

/-! ## Validation -/

namespace Config

/-- What a configuration with no warnings has: both market data credentials, a supported
provider with its key, a chart window of at least a day, and a worker in each pool. -/
structure Clean (c : Config) : Prop where
  credentials : isSet c.kisAppKey = true ∧ isSet c.kisAppSecret = true
  provider : c.llmProvider = .str "claude" ∧ isSet c.claudeApiKey = true ∨
    c.llmProvider = .str "gpt" ∧ isSet c.openaiApiKey = true
  window : Json.lt c.daysBack (.int 1) = .ok false
  workers : ∀ n ∈ [c.collectMaxWorkers, c.analysisMaxWorkers, c.jobMaxWorkers],
    Json.lt n (.int 1) = .ok false

theorem worker_check_none (name : String) (n : Json) :
    (do if ← Json.lt n (.int 1) then pure (some s!"{name} 必须大于 0") else pure none :
      Except Fault (Option String)) = .ok none ↔ Json.lt n (.int 1) = .ok false := by
  rw [Except.bind_eq_ok]
  constructor
  · rintro ⟨b, hb, hnone⟩
    cases b
    · exact hb
    · simp [pure, Except.pure] at hnone
  · intro h
    exact ⟨false, h, rfl⟩

theorem providerNote_eq_nil (c : Config) :
    (if (!supportedProviders.any fun p => Json.sameValue c.llmProvider (.str p)) = true then
        [s!"LLM_PROVIDER={c.llmProvider.plainText} 不受支持，可选值: {providerChoices}"]
      else if (Json.sameValue c.llmProvider (.str "claude") && !isSet c.claudeApiKey) = true then
        ["LLM_PROVIDER=claude 但未配置 CLAUDE_API_KEY"]
      else if (Json.sameValue c.llmProvider (.str "gpt") && !isSet c.openaiApiKey) = true then
        ["LLM_PROVIDER=gpt 但未配置 OPENAI_API_KEY"]
      else []) = [] ↔
      c.llmProvider = .str "claude" ∧ isSet c.claudeApiKey = true ∨
        c.llmProvider = .str "gpt" ∧ isSet c.openaiApiKey = true := by
  by_cases hc : c.llmProvider = .str "claude"
  · simp [supportedProviders, hc, Json.sameValue]
  · by_cases hg : c.llmProvider = .str "gpt"
    · simp [supportedProviders, hg, Json.sameValue]
    · simp [supportedProviders, hc, hg, Json.sameValue_str_right_false]

theorem validate_eq_nil_iff (c : Config) : c.validate = .ok [] ↔ c.Clean := by
  unfold validate
  simp only [Except.bind_eq_ok, pure, Except.pure, Except.ok.injEq, List.append_eq_nil_iff]
  constructor
  · rintro ⟨window, hwin, pools, hpools, ⟨⟨hcred, hprov⟩, hwarn⟩, rfl⟩
    have hnone := (filterMapM_eq_ok_nil _).1 hpools
    cases window
    · refine ⟨by simpa using hcred, (providerNote_eq_nil c).1 hprov, hwin, ?_⟩
      simp only [List.mem_cons, List.not_mem_nil, or_false]
      rintro n (rfl | rfl | rfl)
      · exact (worker_check_none _ _).1 (hnone _ List.mem_cons_self)
      · exact (worker_check_none _ _).1 (hnone ("ANALYSIS_MAX_WORKERS", _) (by simp))
      · exact (worker_check_none _ _).1 (hnone ("JOB_MAX_WORKERS", _) (by simp))
    · simp at hwarn
  · rintro ⟨⟨hkey, hsecret⟩, hprov, hwin, hworkers⟩
    refine ⟨false, hwin, [], ?_, ⟨⟨by simp [hkey, hsecret], (providerNote_eq_nil c).2 hprov⟩, rfl⟩,
      rfl⟩
    rw [filterMapM_eq_ok_nil]
    simp only [List.mem_cons, List.not_mem_nil, or_false]
    rintro x (rfl | rfl | rfl)
    · exact (worker_check_none _ _).2 (hworkers _ List.mem_cons_self)
    · exact (worker_check_none _ _).2 (hworkers c.analysisMaxWorkers (by simp))
    · exact (worker_check_none _ _).2 (hworkers c.jobMaxWorkers (by simp))

end Config

/-! ## The parts of the assembly -/

theorem Pool.create_ok_iff (name w q : Json) :
    (∃ p, Pool.create name w q = .ok p) ↔ Json.lt w (.int 1) = .ok false ∧
      Json.lt q (.int 0) = .ok false ∧ ∃ x, Json.plus w q = .ok x := by
  unfold Pool.create
  -- the three checks in turn: the workers, the queue, the sum
  cases hw : Json.lt w (.int 1) with
  | error e => simp [bind, Except.bind]
  | ok bw =>
    cases hq : Json.lt q (.int 0) with
    | error e => cases bw <;> simp [bind, Except.bind, throw, throwThe, MonadExceptOf.throw]
    | ok bq =>
      cases hp : Json.plus w q <;> cases bw <;> cases bq <;>
        simp [bind, Except.bind, throw, throwThe, MonadExceptOf.throw, pure, Except.pure]

theorem chartFeed_of_keyOf {v : Json} {zone : String} (h : Zone.keyOf v = .ok zone)
    (close : TimeOfDay) : ∃ f, MarketData.ChartFeed.create close zone = .ok f := by
  cases v with
  | str key =>
    obtain ⟨u, hcheck, hkey⟩ := Except.bind_eq_ok.1 h
    cases hkey
    exact ⟨⟨close, zone⟩,
      by simp [MarketData.ChartFeed.create, hcheck, bind, Except.bind, pure, Except.pure]⟩
  | _ => simp [Zone.keyOf] at h

theorem Provider.isAvailable_ok_iff (p : Provider) (hk : Config.isSet p.apiKey = true) :
    (∃ b, p.isAvailable = .ok b) ↔ ∃ k, p.apiKey = .str k := by
  unfold Provider.isAvailable
  cases h : p.apiKey <;> simp_all [Config.isSet]

theorem Provider.chosen_ok_iff (kind : ProviderKind) (key model base maxTokens timeout : Json)
    (hk : Config.isSet key = true) :
    (∃ p a, Http.baseOf base = .ok a ∧ ∃ b,
        Provider.isAvailable ⟨kind, key, model, a, maxTokens, timeout⟩ = .ok b ∧
          (⟨kind, key, model, a, maxTokens, timeout⟩ : Provider) = p) ↔
      (∃ u, Http.baseOf base = .ok u) ∧ ∃ k, key = .str k := by
  constructor
  · rintro ⟨_, u, hu, b, hb, -⟩
    exact ⟨⟨u, hu⟩, (Provider.isAvailable_ok_iff _ hk).1 ⟨b, hb⟩⟩
  · rintro ⟨⟨u, hu⟩, hkey⟩
    obtain ⟨b, hb⟩ :=
      (Provider.isAvailable_ok_iff ⟨kind, key, model, u, maxTokens, timeout⟩ hk).2 hkey
    exact ⟨_, u, hu, b, hb, rfl⟩

theorem Provider.ofConfig_ok_iff {c : Config}
    (hprov : c.llmProvider = .str "claude" ∧ Config.isSet c.claudeApiKey = true ∨
      c.llmProvider = .str "gpt" ∧ Config.isSet c.openaiApiKey = true) :
    (∃ p, Provider.ofConfig c = .ok p) ↔
      (c.llmProvider = .str "claude" ∧ (∃ u, Http.baseOf c.claudeBaseUrl = .ok u) ∧
          ∃ k, c.claudeApiKey = .str k) ∨
        (c.llmProvider = .str "gpt" ∧ (∃ u, Http.baseOf c.openaiBaseUrl = .ok u) ∧
          ∃ k, c.openaiApiKey = .str k) := by
  -- the name is lowered and matched; the chosen service's address is read, then its key
  have hclaude : Text.lower "claude" = "claude" := by decide +kernel
  have hgpt : Text.lower "gpt" = "gpt" := by decide +kernel
  rcases hprov with ⟨hc, hk⟩ | ⟨hg, hk⟩
  · unfold Provider.ofConfig
    simp only [hc, hclaude, Except.bind_eq_ok, pure, Except.pure, Except.ok.injEq,
      exists_eq_left', Json.str.injEq, true_and]
    simp only [show ("claude" = "gpt") = False by decide, false_and, or_false]
    exact Provider.chosen_ok_iff _ _ _ _ _ _ hk
  · unfold Provider.ofConfig
    simp only [hg, hgpt, Except.bind_eq_ok, pure, Except.pure, Except.ok.injEq,
      exists_eq_left', Json.str.injEq, true_and]
    simp only [show ("gpt" = "claude") = False by decide, false_and, false_or]
    exact Provider.chosen_ok_iff _ _ _ _ _ _ hk

/-! ## The assembly -/

namespace Analysis

/-- `validate` warns of nothing exactly on a clean configuration, and on such a configuration
the service is assembled exactly when the settings `validate` does not look at are taken. -/
theorem validated_setup_ok_iff (c : Config) (topN : Option Json) :
    (c.validate = .ok [] ↔ c.Clean) ∧
    (c.validate = .ok [] → ((∃ st, Setup.check c topN = .ok st) ↔
      (∃ u, Http.baseOf c.kisBaseUrl = .ok u) ∧
      (∀ pool ∈ [(c.collectMaxWorkers, c.collectQueueCapacity),
          (c.analysisMaxWorkers, c.analysisQueueCapacity), (c.jobMaxWorkers, c.jobQueueCapacity)],
        Json.lt pool.2 (.int 0) = .ok false ∧ ∃ x, Json.plus pool.1 pool.2 = .ok x) ∧
      (∃ t, MarketData.closeTimeOf c.marketCloseTime = .ok t) ∧
      (∃ zone, Zone.keyOf c.marketTimezone = .ok zone) ∧
      ((c.llmProvider = .str "claude" ∧ (∃ u, Http.baseOf c.claudeBaseUrl = .ok u) ∧
          ∃ k, c.claudeApiKey = .str k) ∨
        (c.llmProvider = .str "gpt" ∧ (∃ u, Http.baseOf c.openaiBaseUrl = .ok u) ∧
          ∃ k, c.openaiApiKey = .str k)) ∧
      ∃ d, Duration.hoursOf c.llmCacheTtlHours = .ok d)) := by
  refine ⟨Config.validate_eq_nil_iff c, fun hv => ?_⟩
  have hclean := (Config.validate_eq_nil_iff c).1 hv
  -- the worker counts passed validation, so a pool is made exactly when its queue is taken
  have hpool : ∀ name w q, w ∈ [c.collectMaxWorkers, c.analysisMaxWorkers, c.jobMaxWorkers] →
      ((∃ p, Pool.create name w q = .ok p) ↔
        Json.lt q (.int 0) = .ok false ∧ ∃ x, Json.plus w q = .ok x) := by
    intro name w q hw
    rw [Pool.create_ok_iff, hclean.workers w hw]
    simp
  have hcollect := hpool (.str "collect") c.collectMaxWorkers c.collectQueueCapacity
    List.mem_cons_self
  have hanalysis := hpool (.str "analysis") c.analysisMaxWorkers c.analysisQueueCapacity
    (by simp)
  have hjob := hpool (.str "job") c.jobMaxWorkers c.jobQueueCapacity (by simp)
  simp only [Setup.check, Except.bind_eq_ok]
  constructor
  · rintro ⟨st, u, hu, p₁, hp₁, p₂, hp₂, jobs, hjobs, t, ht, zone, hzone, -, -, p, hp, d, hd, -⟩
    refine ⟨⟨u, hu⟩, ?_, ⟨t, ht⟩, ⟨zone, hzone⟩,
      (Provider.ofConfig_ok_iff hclean.provider).1 ⟨p, hp⟩, ⟨d, hd⟩⟩
    simp only [List.mem_cons, List.not_mem_nil, or_false]
    rintro pool (rfl | rfl | rfl)
    · exact hcollect.1 ⟨p₁, hp₁⟩
    · exact hanalysis.1 ⟨p₂, hp₂⟩
    · exact hjob.1 ⟨jobs, hjobs⟩
  · rintro ⟨⟨u, hu⟩, hqueues, ⟨t, ht⟩, ⟨zone, hzone⟩, hprov, ⟨d, hd⟩⟩
    obtain ⟨p₁, hp₁⟩ := hcollect.2 (hqueues _ List.mem_cons_self)
    obtain ⟨p₂, hp₂⟩ := hanalysis.2 (hqueues (c.analysisMaxWorkers, _) (by simp))
    obtain ⟨jobs, hjobs⟩ := hjob.2 (hqueues (c.jobMaxWorkers, _) (by simp))
    obtain ⟨f, hf⟩ := chartFeed_of_keyOf hzone t
    obtain ⟨p, hp⟩ := (Provider.ofConfig_ok_iff hclean.provider).2 hprov
    exact ⟨_, u, hu, p₁, hp₁, p₂, hp₂, jobs, hjobs, t, ht, zone, hzone, f, hf, p, hp, d, hd, rfl⟩

theorem validated_setup_ok_iff_keys_set :
    let c : Config :=
      { kisAppKey := .str "key", kisAppSecret := .str "secret",
        claudeApiKey := .str "sk-ant-0123456789" }
    c.validate = .ok [] ∧
      ((∃ st, Setup.check c none = .ok st) ↔
        (∃ u, Http.baseOf c.kisBaseUrl = .ok u) ∧
        (∀ pool ∈ [(c.collectMaxWorkers, c.collectQueueCapacity),
            (c.analysisMaxWorkers, c.analysisQueueCapacity), (c.jobMaxWorkers, c.jobQueueCapacity)],
          Json.lt pool.2 (.int 0) = .ok false ∧ ∃ x, Json.plus pool.1 pool.2 = .ok x) ∧
        (∃ t, MarketData.closeTimeOf c.marketCloseTime = .ok t) ∧
        (∃ zone, Zone.keyOf c.marketTimezone = .ok zone) ∧
        ((c.llmProvider = .str "claude" ∧ (∃ u, Http.baseOf c.claudeBaseUrl = .ok u) ∧
            ∃ k, c.claudeApiKey = .str k) ∨
          (c.llmProvider = .str "gpt" ∧ (∃ u, Http.baseOf c.openaiBaseUrl = .ok u) ∧
            ∃ k, c.openaiApiKey = .str k)) ∧
        ∃ d, Duration.hoursOf c.llmCacheTtlHours = .ok d) :=
  have hv : Config.validate
      { kisAppKey := .str "key", kisAppSecret := .str "secret",
        claudeApiKey := .str "sk-ant-0123456789" } = .ok [] :=
    (Config.validate_eq_nil_iff _).2
      ⟨⟨rfl, rfl⟩, .inl ⟨rfl, rfl⟩, by simp [Pool.lt_int], by simp [Pool.lt_int]⟩
  ⟨hv, (validated_setup_ok_iff _ none).2 hv⟩

/-- A negative queue passes validation and stops the assembly. -/
theorem negative_queue_fails_setup :
    let c : Config :=
      { kisAppKey := .str "key", kisAppSecret := .str "secret",
        claudeApiKey := .str "sk-ant-0123456789", collectQueueCapacity := .int (-1) }
    c.validate = .ok [] ∧
      Setup.check c none = .error (Fault.badValue "queue_capacity 不能为负数: -1") := by
  intro c
  have hshown : (Json.int (-1)).plainText = "-1" := by decide +kernel
  refine ⟨(Config.validate_eq_nil_iff c).2
    ⟨⟨rfl, rfl⟩, .inl ⟨rfl, rfl⟩, by simp [c, Pool.lt_int], by simp [c, Pool.lt_int]⟩, ?_⟩
  -- the address is read, then the first pool refuses its queue
  simp only [c, Setup.check, Http.baseOf, Pool.create_int, bind, Except.bind, hshown,
    Int.reduceLT, ↓reduceIte]
  rfl

end Analysis

end RankAdvisor
