import RankAdvisor.Pool
import RankAdvisor.Market.Dataset

/-! # Collecting charts

For each ranked entry the chart over the window is fetched; an entry whose fetch fails or
gives no bars is left out, the others keep the ranking's order. The datasets are handed
to a sink when there is one and there are datasets; a failing sink loses nothing but the
saving.
-/

namespace RankAdvisor

/-- The datasets of the entries with charts. `fetch` gives a stock's bars over a number of
days, `sink` saves datasets. -/
def collect {m : Type → Type} [Monad m] (fetch : Json → Json → m (Except Fault (List Market.Bar)))
    (sink : Option (List Market.Dataset → m (Except Fault Unit))) (days : Json)
    (entries : List Market.Entry) (day : Date) : m (List Market.Dataset) := do
  if entries.isEmpty then return []
  let outcomes ← fanOut entries fun e => fetch e.code days
  let datasets := outcomes.filterMap fun (e, r) =>
    match r with
    | .ok bars => if bars.isEmpty then none else some (Market.Dataset.ofBars e bars day)
    | .error _ => none
  if let some save := sink then
    if !datasets.isEmpty then
      let _ ← save datasets
  pure datasets

end RankAdvisor
