import RankAdvisor.Proofs.TradingWindow

/-! # What gets through the market data feeds

The ranking and the chart degrade a transport failure, an unreadable answer, an answer of
the wrong shape and an unreadable row to no entries or no bars, as `RankingOf` and
`ChartOf` say of each run against its query. Over a session of wire outcomes, what escapes
the degrading is a refused credential, a whole number spelled as an infinite number (it
overflows) or an answer nested too deep to read (`feeds_fail_only`). The last two are
faults of a row or of the reading, not of the query: a row whose volume reads `inf` fails
the whole ranking (`infinite_volume_fails_ranking`).
-/

namespace RankAdvisor

set_option autoImplicit false

namespace MarketData

section Feeds

variable {σ : Type} {L : Json} (send : Http.Request → StateM σ Http.Outcome)
  (clock : StateM σ Number) (c : Client)

/-- The faults the feeds let through and what they give for those they degrade: over wire
outcomes only `FeedFault` escapes, and every run gives what `RankingOf` or `ChartOf` says of
its query's run. -/
theorem feeds_fail_only (now : StateM σ DateTime) (hsend : ∀ q s, WireOutcome ((send q).run s).1)
    (hclock : ∀ s, ∃ x, (clock.run s).1 = .double x) (hL : Leased L) :
    (∀ n : Json, (n = .null ∨ ∃ k : Int, n = .int k) →
      Runs L FeedFault (fun _ => True) (fetchRanking (onSession send) (StateT.lift clock) c n)) ∧
    (∀ (f : ChartFeed) (code days : Json),
      (∀ s, ∃ last, f.endDate (now.run s).1 = .ok last ∧
        ∃ span, TradingDay.window last days = .ok span) →
      Runs L FeedFault (fun _ => True)
        (fetchChart (onSession send) (StateT.lift clock) (StateT.lift now) c f code days)) ∧
    (∀ (n : Option Int) (tc : TokenCache) (s : σ),
      RankingOf (rankCount n)
        (runFrom (c.get (onSession send) (StateT.lift clock) rankingPath rankingParams
          rankingTrId) tc s)
        (runFrom (fetchRanking (onSession send) (StateT.lift clock) c (rankArg n)) tc s)) ∧
    (∀ (f : ChartFeed) (code days : Json) (tc : TokenCache) (s : σ) (last first last' : Date),
      f.endDate (now.run s).1 = .ok last → TradingDay.window last days = .ok (first, last') →
      ChartOf code
        (runFrom (c.get (onSession send) (StateT.lift clock) chartPath
          (chartParams code first last') chartTrId) tc (now.run s).2)
        (runFrom (fetchChart (onSession send) (StateT.lift clock) (StateT.lift now) c f code
          days) tc s)) :=
  ⟨fun _ hn => ranking_runs send clock c hsend hclock hL hn,
    fun f code days hwindow => chart_runs send clock c now hsend hclock hL f code days hwindow,
    fun n tc s => fetchRanking_run send clock c n tc s,
    fun f code days tc s _ _ _ hlast hwin =>
      fetchChart_run send clock now c f code days tc s hlast hwin⟩

end Feeds

def sampleFeedClient : Client := Client.create "https://kis.example.com" (.str "key") (.str "secret")

theorem feeds_fail_only_empty :
    (∀ q s, WireOutcome ((emptySession q).run s).1) ∧
    (∀ s, ∃ x, ((pure (.double 0) : StateM Unit Number).run s).1 = .double x) ∧
    Leased (.num 86400) ∧
    ((∀ n : Json, (n = .null ∨ ∃ k : Int, n = .int k) →
      Runs (.num 86400) FeedFault (fun _ => True) (fetchRanking (onSession emptySession)
        (StateT.lift (pure (.double 0))) sampleFeedClient n)) ∧
    (∀ (f : ChartFeed) (code days : Json),
      (∀ s, ∃ last,
        f.endDate ((pure (DateTime.ofDate ⟨2024, 1, 1⟩) : StateM Unit DateTime).run s).1 = .ok last ∧
        ∃ span, TradingDay.window last days = .ok span) →
      Runs (.num 86400) FeedFault (fun _ => True)
        (fetchChart (onSession emptySession) (StateT.lift (pure (.double 0)))
          (StateT.lift (pure (DateTime.ofDate ⟨2024, 1, 1⟩))) sampleFeedClient f code days)) ∧
    (∀ (n : Option Int) (tc : TokenCache) (s : Unit),
      RankingOf (rankCount n)
        (runFrom (sampleFeedClient.get (onSession emptySession) (StateT.lift (pure (.double 0)))
          rankingPath rankingParams rankingTrId) tc s)
        (runFrom (fetchRanking (onSession emptySession) (StateT.lift (pure (.double 0)))
          sampleFeedClient (rankArg n)) tc s)) ∧
    (∀ (f : ChartFeed) (code days : Json) (tc : TokenCache) (s : Unit) (last first last' : Date),
      f.endDate ((pure (DateTime.ofDate ⟨2024, 1, 1⟩) : StateM Unit DateTime).run s).1 = .ok last →
      TradingDay.window last days = .ok (first, last') →
      ChartOf code
        (runFrom (sampleFeedClient.get (onSession emptySession) (StateT.lift (pure (.double 0)))
          chartPath (chartParams code first last') chartTrId) tc
          ((pure (DateTime.ofDate ⟨2024, 1, 1⟩) : StateM Unit DateTime).run s).2)
        (runFrom (fetchChart (onSession emptySession) (StateT.lift (pure (.double 0)))
          (StateT.lift (pure (DateTime.ofDate ⟨2024, 1, 1⟩))) sampleFeedClient f code days)
          tc s))) :=
  have hsend : ∀ q s, WireOutcome ((emptySession q).run s).1 := fun _ _ => ⟨200, rfl⟩
  have hclock : ∀ s, ∃ x, ((pure (.double 0) : StateM Unit Number).run s).1 = .double x :=
    fun _ => ⟨0, rfl⟩
  have hL : Leased (.num 86400) := ⟨_, _, rfl, rfl⟩
  ⟨hsend, hclock, hL, feeds_fail_only emptySession (pure (.double 0)) sampleFeedClient
    (pure (DateTime.ofDate ⟨2024, 1, 1⟩)) hsend hclock hL⟩

/-- A ranking row whose accumulated volume reads `inf`. -/
def infiniteVolumeRow : Json :=
  .obj [("mksc_shrn_iscd", .str "005930"), ("hts_kor_isnm", .str "A"), ("stck_prpr", .str "1"),
    ("prdy_ctrt", .str "1"), ("acml_vol", .str "inf"), ("acml_tr_pbmn", .str "1")]

/-- A session that grants the token `tok` and answers every query with that one row. -/
def infiniteVolumeSession (q : Http.Request) : StateM Unit Http.Outcome :=
  let payload : Json :=
    if q.method = "POST" then .obj [("access_token", .str "tok")]
    else .obj [("output", .arr [infiniteVolumeRow])]
  pure (.answer { status := .int 200, body := Json.write true payload })

/-- A volume spelled `inf` is not degraded: the ranking fails with the overflow of turning
an infinite float into a whole number. -/
theorem infinite_volume_fails_ranking :
    (match (runFrom (fetchRanking (onSession infiniteVolumeSession)
        (StateT.lift (pure (.double 0)))
        (Client.create "https://kis.example.com" (.str "key") (.str "secret")))
        (TokenCache.create (.int 86400)) ()).1.1 with
      | .error f => f.kind == .overflow && f.text == "cannot convert float infinity to integer"
      | .ok _ => false) = true := by
  decide +kernel

end MarketData

end RankAdvisor
