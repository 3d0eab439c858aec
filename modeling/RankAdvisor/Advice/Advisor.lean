import RankAdvisor.Advice.Cache
import RankAdvisor.Advice.Retry
import RankAdvisor.Advice.Prompt
import RankAdvisor.Advice.Reading

/-! # Asking for advice

`Advisor.analyze` gives the advice on one dataset. Advice cached under the dataset's key
is returned as it is. Otherwise the prompt is built and sent, transport failures retried
by the policy, and the answer (text, or any value a provider hands back) read; readable advice is cached, unreadable advice is
returned without being cached, so the next request asks again.
-/

namespace RankAdvisor

namespace Advisor

/-- The advice on a dataset. `ask` sends a prompt to the provider, `sleep` waits between
attempts, and `clock` tells the cache the time. -/
def analyze {m : Type → Type} [Monad m] [MonadStateOf ResultCache m]
    (ask : String → m (Except Fault Json)) (sleep : Binary64 → m Unit) (clock : m DateTime)
    (policy : RetryPolicy) (d : Market.Dataset) : ExceptT Fault m Advice := do
  let key := d.cacheKey
  let now ← ExceptT.lift clock
  let (hit, cache) := (← getThe ResultCache).lookup key now
  set cache
  if let some a := hit then return a
  let prompt ← ExceptT.mk (pure (Prompt.build d))
  let text ← policy.run sleep (ask prompt)
  let a ← ExceptT.mk (pure (Advice.read text))
  if !a.isUnreadable then
    let now ← ExceptT.lift clock
    modifyThe ResultCache fun c => c.store key a now
  pure a

end Advisor

end RankAdvisor
