import RankAdvisor.Proofs.CalendarDays
import RankAdvisor.Proofs.RankingPrefix

/-! # The chart window

The chart of a stock ends on the last trading day: the latest weekday whose market has
closed, counting the day of the instant once its closing time has passed
(`last_trading_day`). It is never after that day and at most three days before it. The
window holds `max w 1` calendar days up to it, and the chart's query asks for exactly those
(`chart_window`); the bars come back with the requested code, sorted by date, rows of the
same date in the order they came.
-/

namespace RankAdvisor

set_option autoImplicit false

namespace TradingDay

open Date

/-- The days whose market has closed at `now`: the days before its date, and its date once
the closing time has passed. -/
def Closed (now : DateTime) (close : TimeOfDay) (d : Date) : Prop :=
  d.before now.date = true ∨ (d = now.date ∧ now.time.before close = false)

/-- `d` is the latest weekday whose market has closed at `now`. -/
structure IsLast (now : DateTime) (close : TimeOfDay) (d : Date) : Prop where
  valid : d.Valid
  weekday : d.weekday < 5
  closed : Closed now close d
  latest : ∀ d', d'.Valid → d'.weekday < 5 → Closed now close d' → d.before d' = false

theorem shift_eq {d : Date} {k : Int} (h1 : 1 ≤ (d.toOrdinal : Int) + k)
    (h2 : (d.toOrdinal : Int) + k ≤ maxOrdinal) :
    ∃ d', shift d k = .ok d' ∧ d'.Valid ∧ (d'.toOrdinal : Int) = d.toOrdinal + k := by
  obtain ⟨d', hadd, hvalid, hord⟩ := addDays?_eq_some h1 h2
  exact ⟨d', by rw [shift, hadd], hvalid, hord⟩

theorem last_eq (now : DateTime) (close : TimeOfDay) :
    last now close =
      (if now.time.before close then shift now.date (-1) else pure now.date) >>= fun day =>
        match day.weekday with
        | 5 => shift day (-1)
        | 6 => shift day (-2)
        | _ => pure day := by
  unfold last
  split <;> rfl

/-- The day number of the last trading day: the day `now` counts as closed (its date, or the
day before when the market is still open), moved back over a weekend. -/
theorem last_ordinal {now : DateTime} (close : TimeOfDay) (hvalid : now.date.Valid)
    (hafter : 2 ≤ now.date.toOrdinal) :
    ∃ d, last now close = .ok d ∧ d.Valid ∧
      let n := now.date.toOrdinal - (if now.time.before close then 1 else 0)
      (d.toOrdinal = n ∧ (n + 6) % 7 < 5 ∨ d.toOrdinal + 1 = n ∧ (n + 6) % 7 = 5 ∨
        d.toOrdinal + 2 = n ∧ (n + 6) % 7 = 6) := by
  have hrange := toOrdinal_range hvalid
  -- the day counted as closed
  obtain ⟨day, hday, hdvalid, hdord⟩ : ∃ day,
      (if now.time.before close then shift now.date (-1) else pure now.date) = .ok day ∧
        day.Valid ∧ day.toOrdinal = now.date.toOrdinal - (if now.time.before close then 1 else 0) := by
    split
    · obtain ⟨d', hs, hv, ho⟩ := shift_eq (d := now.date) (k := -1) (by omega) (by omega)
      exact ⟨d', hs, hv, by omega⟩
    · exact ⟨now.date, rfl, hvalid, by omega⟩
  have hdrange := toOrdinal_range hdvalid
  rw [last_eq, hday]
  simp only [bind, Except.bind, weekday]
  rw [← hdord]
  split
  · -- a Saturday goes back to the Friday
    rename_i hsat
    obtain ⟨d', hs, hv, ho⟩ := shift_eq (d := day) (k := -1) (by omega) (by omega)
    exact ⟨d', hs, hv, .inr (.inl ⟨by omega, hsat⟩)⟩
  · -- a Sunday goes back two days
    rename_i hsun
    obtain ⟨d', hs, hv, ho⟩ := shift_eq (d := day) (k := -2) (by omega) (by omega)
    exact ⟨d', hs, hv, .inr (.inr ⟨by omega, hsun⟩)⟩
  · -- a weekday stays
    rename_i hsat hsun
    have h5 : (day.toOrdinal + 6) % 7 ≠ 5 := hsat
    have h6 : (day.toOrdinal + 6) % 7 ≠ 6 := hsun
    exact ⟨day, rfl, hdvalid, .inl ⟨rfl, by omega⟩⟩

theorem closed_iff {now : DateTime} {close : TimeOfDay} {d : Date} (hvalid : now.date.Valid)
    (hd : d.Valid) :
    Closed now close d ↔
      d.toOrdinal + (if now.time.before close then 1 else 0) ≤ now.date.toOrdinal := by
  unfold Closed
  rw [before_iff hd hvalid]
  constructor
  · rintro (h | ⟨rfl, hb⟩)
    · split <;> omega
    · rw [hb]
      simp
  · intro h
    by_cases hlt : d.toOrdinal < now.date.toOrdinal
    · exact .inl hlt
    · -- the day itself, counted once its market has closed
      have hb : now.time.before close = false := by
        cases hb : now.time.before close
        · rfl
        · rw [hb] at h
          simp at h
          omega
      rw [hb] at h
      exact .inr ⟨eq_of_toOrdinal_eq hd hvalid (by simp at h; omega), hb⟩

/-- The last trading day is the latest weekday whose market has closed, at most three days
before the instant's date, for any instant after the calendar's first day. -/
theorem last_trading_day (now : DateTime) (close : TimeOfDay) (hvalid : now.date.Valid)
    (hafter : (⟨1, 1, 1⟩ : Date).before now.date = true) :
    ∃ d, last now close = .ok d ∧ IsLast now close d ∧ now.date.toOrdinal ≤ d.toOrdinal + 3 := by
  have h2 : 2 ≤ now.date.toOrdinal := (before_iff (by decide) hvalid).1 hafter
  obtain ⟨d, hlast, hdv, hord⟩ := last_ordinal close hvalid h2
  dsimp only at hord
  refine ⟨d, hlast, ⟨hdv, ?_, ?_, ?_⟩, ?_⟩
  · unfold weekday
    omega
  · rw [closed_iff hvalid hdv]
    omega
  · -- a later closed day would be one of the weekend days stepped over
    intro d' hv' hw' hc'
    rw [closed_iff hvalid hv'] at hc'
    unfold weekday at hw'
    cases hbefore : d.before d'
    · rfl
    · rw [before_iff hdv hv'] at hbefore
      omega
  · split at hord <;> omega

theorem ofDays_whole {s : Int} (h0 : 0 ≤ s) (h1 : s ≤ Duration.maxDays) :
    Duration.ofDays (.whole s) = .ok ⟨s * Duration.day⟩ := by
  have hdays : s * (Duration.day : Int) / (DateTime.microsPerDay : Int) = s :=
    Int.mul_ediv_cancel s (by decide)
  simp only [Duration.ofDays, Duration.ofUnits, Duration.ofMicros, hdays, Duration.daysFitWord]
  rw [if_neg (by simp [Duration.maxDays] at h1 ⊢; omega), if_neg (by simp [Duration.maxDays] at h1 ⊢; omega)]

/-- The window of `w` days ending on a day holds `max w 1` days: its first day is
`max w 1 - 1` days earlier, when the calendar reaches that far back. -/
theorem window_eq {last : Date} (hlast : last.Valid) (w : Int)
    (hw : max w 1 ≤ (last.toOrdinal : Int)) :
    ∃ first, window last (.int w) = .ok (first, last) ∧ first.Valid ∧
      (first.toOrdinal : Int) + (max w 1 - 1) = last.toOrdinal := by
  have hrange := toOrdinal_range hlast
  have hspan : Json.minus (if decide (w < 1) = true then .int 1 else .int w) (.int 1) =
      .ok (.whole (max w 1 - 1)) := by
    split
    · rename_i h
      simp only [decide_eq_true_eq] at h
      simp only [Json.minus, Json.number?, Number.sub, show max w 1 = 1 by omega]
    · rename_i h
      simp only [decide_eq_true_eq] at h
      simp only [Json.minus, Json.number?, Number.sub, show max w 1 = w by omega]
  obtain ⟨first, hs, hv, ho⟩ := shift_eq (d := last) (k := -(max w 1 - 1)) (by omega) (by omega)
  refine ⟨first, ?_, hv, by omega⟩
  simp only [window, MarketData.gt_int, bind, Except.bind, hspan]
  rw [ofDays_whole (s := max w 1 - 1) (by omega)
    (by simp [Duration.maxDays, maxOrdinal] at hrange ⊢; omega)]
  simp only [Duration.wholeDays, Int.mul_ediv_cancel _ (by decide : (Duration.day : Int) ≠ 0), hs]
  rfl

end TradingDay

namespace MarketData

open Market Date

/-! ## Bars of chart rows -/

theorem firstFault_of_filterMapM {α : Type _} {β ε : Type} {g : α → Except ε (Option β)}
    {l : List α} {e : ε} (h : l.filterMapM g = .error e) :
    ∃ i, ∃ hi : i < l.length, (∀ j (hj : j < i), ∃ o, g l[j] = .ok o) ∧ g l[i] = .error e := by
  induction l with
  | nil => cases h
  | cons a l ih =>
    rw [List.filterMapM_cons] at h
    cases ha : g a with
    | error e' =>
      rw [ha] at h
      cases h
      exact ⟨0, by simp, fun j hj => absurd hj (Nat.not_lt_zero j), ha⟩
    | ok o =>
      -- the head reads, so the fault is the tail's
      have htail : l.filterMapM g = .error e := by
        rw [ha] at h
        cases o with
        | none => exact h
        | some b =>
          cases hl : l.filterMapM g with
          | error e' =>
            rw [hl] at h
            exact h
          | ok bs =>
            rw [hl] at h
            cases h
      obtain ⟨i, hi, hbefore, hat⟩ := ih htail
      refine ⟨i + 1, by simp [hi], fun j hj => ?_, hat⟩
      cases j with
      | zero => exact ⟨o, ha⟩
      | succ j => exact hbefore j (by omega)

/-- The rows of a chart that give bars: those whose date field is not blank. -/
def datedRows (rows : List Json) : List Json :=
  rows.filter fun row => !(presentText row "stck_bsop_date").isEmpty

/-- `bars` are the dated rows of a chart, read in order as bars of the stock `code`. -/
def ReadsBars (code : Json) (rows : List Json) (bars : List Bar) : Prop :=
  List.Forall₂ (fun row b => Bar.ofRow code row = .ok (some b)) (datedRows rows) bars

theorem barOfRow_ok {code row : Json} {o : Option Bar} (h : Bar.ofRow code row = .ok o) :
    (presentText row "stck_bsop_date").isEmpty = o.isNone ∧
      ∀ b ∈ o, b.code = code ∧
        Field.readTradeDate (fieldOf row "stck_bsop_date") "stck_bsop_date" = .ok b.date := by
  unfold Bar.ofRow at h
  generalize presentText row "stck_bsop_date" = date at h ⊢
  dsimp only at h
  split at h
  · split at h
    · cases h
      exact ⟨by assumption, by simp⟩
    rename_i hdate
    obtain ⟨day, hday, h⟩ := ok_of_bind_ok h
    -- the five price and volume fields read, whatever they read as
    obtain ⟨_, -, h⟩ := ok_of_bind_ok h
    obtain ⟨_, -, h⟩ := ok_of_bind_ok h
    obtain ⟨_, -, h⟩ := ok_of_bind_ok h
    obtain ⟨_, -, h⟩ := ok_of_bind_ok h
    obtain ⟨_, -, h⟩ := ok_of_bind_ok h
    cases h
    refine ⟨by simpa using hdate, fun b hb => ?_⟩
    cases hb
    exact ⟨rfl, hday⟩
  · cases h

theorem barOfRow_some {code row : Json} {b : Bar} (h : Bar.ofRow code row = .ok (some b)) :
    (presentText row "stck_bsop_date").isEmpty = false ∧ b.code = code ∧
      Field.readTradeDate (fieldOf row "stck_bsop_date") "stck_bsop_date" = .ok b.date :=
  ⟨(barOfRow_ok h).1, (barOfRow_ok h).2 b rfl⟩

theorem readsBars_of_filterMapM {code : Json} {rows : List Json} {bars : List Bar}
    (h : rows.filterMapM (Bar.ofRow code) = .ok bars) : ReadsBars code rows bars := by
  induction rows generalizing bars with
  | nil =>
    cases h
    exact .nil
  | cons row rows ih =>
    rw [List.filterMapM_cons] at h
    obtain ⟨o, hrow, h⟩ := ok_of_bind_ok h
    cases o with
    | none =>
      -- a row without a date is left out
      have hblank := (barOfRow_ok hrow).1
      unfold ReadsBars datedRows
      rw [List.filter_cons_of_neg (by simp [hblank])]
      exact ih h
    | some b =>
      obtain ⟨bs, hl, h⟩ := ok_of_bind_ok h
      cases h
      have hdated := (barOfRow_some hrow).1
      unfold ReadsBars datedRows
      rw [List.filter_cons_of_pos (by simp [hdated])]
      exact .cons hrow (ih hl)

theorem ReadsBars.code_eq {code : Json} {rows : List Json} {bars : List Bar}
    (h : ReadsBars code rows bars) : ∀ b ∈ bars, b.code = code := by
  unfold ReadsBars at h
  generalize datedRows rows = dated at h
  induction h with
  | nil => simp
  | cons hrow _ ih =>
    intro b hb
    rcases List.mem_cons.1 hb with rfl | hb
    · exact (barOfRow_some hrow).2.1
    · exact ih b hb

/-! ## Sorting bars by date -/

/-- `sorted` holds `bars` in calendar order of their dates, bars of one date in the order they
came: two bars keep their order unless the second one's date is the earlier. -/
structure SortedByDate (bars sorted : List Bar) : Prop where
  perm : sorted.Perm bars
  ordered : sorted.Pairwise fun a b => ¬ Earlier b.date a.date
  stable : ∀ a b, [a, b].Sublist bars → ¬ Earlier b.date a.date → [a, b].Sublist sorted

theorem sortBars_le_iff (a b : Bar) :
    (compare a.date b.date != .gt) = true ↔ ¬ Earlier b.date a.date := by
  rw [bne_iff_ne, ne_eq, compare_eq_gt_iff]

theorem sortBars_le_trans (a b c : Bar) : (compare a.date b.date != .gt) = true →
    (compare b.date c.date != .gt) = true → (compare a.date c.date != .gt) = true := by
  intro hab hbc
  rw [sortBars_le_iff] at hab hbc ⊢
  exact not_earlier_trans hab hbc

theorem sortBars_le_total (a b : Bar) :
    ((compare a.date b.date != .gt) || (compare b.date a.date != .gt)) = true := by
  rw [Bool.or_eq_true, sortBars_le_iff, sortBars_le_iff]
  by_cases h : Earlier b.date a.date
  · exact .inr (earlier_asymm h)
  · exact .inl h

theorem sortBars_sorted (bars : List Bar) : SortedByDate bars (sortBars bars) := by
  refine ⟨List.mergeSort_perm _ _, ?_, fun a b hsub hab => ?_⟩
  · exact (List.pairwise_mergeSort sortBars_le_trans sortBars_le_total bars).imp fun h =>
      (sortBars_le_iff _ _).1 h
  · exact List.pair_sublist_mergeSort sortBars_le_trans sortBars_le_total
      ((sortBars_le_iff a b).2 hab) hsub

/-! ## What a chart reads -/

/-- What reading chart rows may give: the dated rows as bars of the stock, sorted by date, or
the first row that does not read decides. -/
def BarsOf (code : Json) (rows : List Json) (result : Except Fault (List Bar)) : Prop :=
  (∃ bars sorted, ReadsBars code rows bars ∧ SortedByDate bars sorted ∧
    (∀ b ∈ sorted, b.code = code) ∧ result = .ok sorted) ∨
  ∃ i f, FirstBarFault code rows i f ∧
    (f.kind = .parse ∧ result = .ok [] ∨ f.kind = .overflow ∧ result = .error f)

theorem barsOf_of_ok {code : Json} {rows : List Json} {bars : List Bar}
    (h : rows.filterMapM (Bar.ofRow code) = .ok bars) :
    BarsOf code rows (.ok (sortBars bars)) := by
  have hread := readsBars_of_filterMapM h
  have hsorted := sortBars_sorted bars
  exact .inl ⟨bars, sortBars bars, hread, hsorted,
    fun b hb => hread.code_eq b (hsorted.perm.mem_iff.1 hb), rfl⟩

theorem barsOf_of_error {code : Json} {rows : List Json} {f : Fault}
    (h : rows.filterMapM (Bar.ofRow code) = .error f) :
    BarsOf code rows (if (f.kind == .transport || f.kind == .parse) = true then .ok [] else .error f) := by
  obtain ⟨i, hi, hbefore, hat⟩ := firstFault_of_filterMapM h
  have hkind : RowFault f.kind := by
    have := barOfRow_ends code rows[i]
    rw [hat] at this
    exact this
  exact .inr ⟨i, f, ⟨hi, hbefore, hat⟩, rowFault_handled [] hkind⟩

/-- What a chart gives for the outcome of its query. -/
def ChartFrom (code : Json) : Except Fault Json → Except Fault (List Bar) → Prop
  | .error f, result =>
    (f.kind = .transport ∨ f.kind = .parse) ∧ result = .ok [] ∨
      f.kind ≠ .transport ∧ f.kind ≠ .parse ∧ result = .error f
  | .ok payload, result =>
    match listed? (payload.getD "output2" .null) with
    | none => result = .ok []
    | some rows => BarsOf code rows result

/-! ## The chart run -/

section Run

variable {σ : Type}

/-- A chart run follows its query run: the same session and token cache afterwards, and the
outcome `ChartFrom` gives for the query's outcome. -/
def ChartOf (code : Json) (query : (Except Fault Json × TokenCache) × σ)
    (chart : (Except Fault (List Bar) × TokenCache) × σ) : Prop :=
  chart.1.2 = query.1.2 ∧ chart.2 = query.2 ∧ ChartFrom code query.1.1 chart.1.1

theorem runFrom_lift {α : Type} (m : StateM σ α) (tc : TokenCache) (s : σ) :
    runFrom (ExceptT.lift (StateT.lift m) : ExceptT Fault (OnSession σ) α) tc s =
      ((.ok (m.run s).1, tc), (m.run s).2) := rfl

theorem runFrom_filterMapM_except {α β : Type} {h : α → ExceptT Fault (OnSession σ) (Option β)}
    {g : α → Except Fault (Option β)} (hg : ∀ a, h a = ExceptT.mk (pure (g a))) (l : List α)
    (tc : TokenCache) (s : σ) :
    runFrom (l.filterMapM h) tc s = ((l.filterMapM g, tc), s) := by
  induction l with
  | nil => rfl
  | cons a l ih =>
    rw [List.filterMapM_cons, List.filterMapM_cons, runFrom_bind, hg, runFrom_except]
    cases g a with
    | error f => rfl
    | ok o =>
      cases o with
      | none => exact ih
      | some b =>
        dsimp only
        rw [runFrom_bind, ih]
        cases l.filterMapM g <;> rfl

/-- After any query, the chart's reading of the answer follows the query's run. -/
theorem chartOf_query (q : ExceptT Fault (OnSession σ) Json) (code : Json)
    (malformed : String → String) (tc : TokenCache) (s : σ) :
    ChartOf code (runFrom q tc s)
      (runFrom (degrade [] do
        let payload ← q
        let rows ← ExceptT.mk (pure (rowsOf payload "output2" malformed))
        let bars ← rows.filterMapM fun row => ExceptT.mk (pure (Bar.ofRow code row))
        pure (sortBars bars)) tc s) := by
  unfold degrade
  rw [runFrom_tryCatch, runFrom_bind]
  generalize runFrom q tc s = query
  obtain ⟨⟨r, tc'⟩, s'⟩ := query
  cases r with
  | error f =>
    dsimp only
    rw [runFrom_degraded]
    exact ⟨rfl, rfl, degraded_cases [] f⟩
  | ok payload =>
    dsimp only
    rw [runFrom_bind, runFrom_except, rowsOf_eq]
    cases hl : listed? (payload.getD "output2" .null) with
    | none =>
      -- a member that holds no list is an unreadable answer
      dsimp only
      rw [runFrom_degraded, if_pos (by simp [Fault.parse])]
      refine ⟨rfl, rfl, ?_⟩
      simp only [ChartFrom, hl]
    | some rows =>
      dsimp only
      rw [runFrom_bind, runFrom_filterMapM_except (g := Bar.ofRow code) (fun _ => rfl)]
      cases hm : rows.filterMapM (Bar.ofRow code) with
      | ok bars =>
        refine ⟨rfl, rfl, ?_⟩
        simp only [ChartFrom, hl]
        exact barsOf_of_ok hm
      | error f =>
        dsimp only
        rw [runFrom_degraded]
        refine ⟨rfl, rfl, ?_⟩
        simp only [ChartFrom, hl]
        exact barsOf_of_error hm

theorem fetchChart_run (send : Http.Request → StateM σ Http.Outcome) (clock : StateM σ Number)
    (now : StateM σ DateTime) (c : Client) (f : ChartFeed) (code days : Json) (tc : TokenCache)
    (s : σ) {last first last' : Date} (hlast : f.endDate (now.run s).1 = .ok last)
    (hwin : TradingDay.window last days = .ok (first, last')) :
    ChartOf code
      (runFrom (c.get (onSession send) (StateT.lift clock) chartPath (chartParams code first last')
        chartTrId) tc (now.run s).2)
      (runFrom (fetchChart (onSession send) (StateT.lift clock) (StateT.lift now) c f code days)
        tc s) := by
  -- the clock is read, then the day and the window, which cannot fail here; a step at a
  -- time, as reducing the whole block at once is slow to check
  unfold fetchChart
  rw [runFrom_bind_ok (runFrom_lift now tc s)]
  rw [runFrom_bind_ok (by rw [runFrom_except, hlast])]
  rw [runFrom_bind_ok (by rw [runFrom_except, hwin])]
  exact chartOf_query _ code _ tc (now.run s).2

/-- The chart of `w` days at `now` ends on the last trading day, at most three days back,
and when the calendar reaches back far enough it asks for the `max w 1` days up to that day,
reading the answer as `ChartFrom` says. -/
theorem chart_window (send : Http.Request → StateM σ Http.Outcome) (clock : StateM σ Number)
    (now : StateM σ DateTime) (c : Client) (f : ChartFeed) (code : Json) (w : Int)
    (tc : TokenCache) (s : σ) (hvalid : (now.run s).1.date.Valid)
    (hafter : (⟨1, 1, 1⟩ : Date).before (now.run s).1.date = true) :
    ∃ last, TradingDay.last (now.run s).1 f.close = .ok last ∧
      TradingDay.IsLast (now.run s).1 f.close last ∧
      (now.run s).1.date.toOrdinal ≤ last.toOrdinal + 3 ∧
      (max w 1 ≤ (last.toOrdinal : Int) →
        ∃ first, first.Valid ∧ (first.toOrdinal : Int) + (max w 1 - 1) = last.toOrdinal ∧
          ChartOf code
            (runFrom (c.get (onSession send) (StateT.lift clock) chartPath
              (chartParams code first last) chartTrId) tc (now.run s).2)
            (runFrom (fetchChart (onSession send) (StateT.lift clock) (StateT.lift now) c f code
              (.int w)) tc s)) := by
  obtain ⟨last, hlast, hIs, hnear⟩ :=
    TradingDay.last_trading_day (now.run s).1 f.close hvalid hafter
  refine ⟨last, hlast, hIs, hnear, fun hw => ?_⟩
  obtain ⟨first, hwin, hfv, hford⟩ := TradingDay.window_eq hIs.valid w hw
  refine ⟨first, hfv, hford, ?_⟩
  exact fetchChart_run send clock now c f code (.int w) tc s (by rw [ChartFeed.endDate, hlast])
    hwin

end Run

/-- The chart of five days at midnight on Tuesday 2 January 2024, over a session that answers
with no rows. -/
theorem chart_window_new_year :
    ((pure (DateTime.ofDate ⟨2024, 1, 2⟩) : StateM Unit DateTime).run ()).1.date.Valid ∧
    (⟨1, 1, 1⟩ : Date).before
      ((pure (DateTime.ofDate ⟨2024, 1, 2⟩) : StateM Unit DateTime).run ()).1.date = true ∧
    ∃ last, TradingDay.last (DateTime.ofDate ⟨2024, 1, 2⟩) TradingDay.defaultClose = .ok last ∧
      TradingDay.IsLast (DateTime.ofDate ⟨2024, 1, 2⟩) TradingDay.defaultClose last ∧
      (DateTime.ofDate ⟨2024, 1, 2⟩).date.toOrdinal ≤ last.toOrdinal + 3 ∧
      (max 5 1 ≤ (last.toOrdinal : Int) →
        ∃ first, first.Valid ∧ (first.toOrdinal : Int) + (max 5 1 - 1) = last.toOrdinal ∧
          ChartOf (.str "005930")
            (runFrom ((Client.create "https://kis.example.com" (.str "key") (.str "secret")).get
              (onSession emptySession) (StateT.lift (pure (.double 0))) chartPath
              (chartParams (.str "005930") first last) chartTrId) (TokenCache.create (.int 86400)) ())
            (runFrom (fetchChart (onSession emptySession) (StateT.lift (pure (.double 0)))
              (StateT.lift (pure (DateTime.ofDate ⟨2024, 1, 2⟩)))
              (Client.create "https://kis.example.com" (.str "key") (.str "secret")) {}
              (.str "005930") (.int 5)) (TokenCache.create (.int 86400)) ())) :=
  ⟨by decide, by decide, chart_window emptySession (pure (.double 0))
    (pure (DateTime.ofDate ⟨2024, 1, 2⟩)) _ {} (.str "005930") 5 (TokenCache.create (.int 86400)) ()
    (by decide) (by decide)⟩

end MarketData

end RankAdvisor
