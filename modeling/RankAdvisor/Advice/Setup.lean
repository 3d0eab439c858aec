import RankAdvisor.Advice.Provider
import RankAdvisor.Config

/-! # Choosing a provider

The provider a configuration names, `claude` or `gpt` in any case, with that service's
key, model and address and the shared token limit and timeout. A name that counts as
empty is no name; any other name that is not a text cannot be lowered; a name of neither
service is a configuration error, which shows the name as it was given. A provider is
looked at once it is chosen, so a key that cannot be looked at fails here.
-/

namespace RankAdvisor

namespace Provider

def ofConfig (c : Config) : Except Fault Provider := do
  let name ← match c.llmProvider with
    | .str s => pure (Text.lower s)
    | v => if v.isEmptyish then pure "" else throw (Fault.noAttribute v.kindName "lower")
  let p : Provider ← match name with
    | "claude" =>
      pure { kind := .messages, apiKey := c.claudeApiKey, model := c.claudeModel,
             baseUrl := ← Http.baseOf c.claudeBaseUrl, maxTokens := c.llmMaxTokens,
             timeout := c.llmTimeout }
    | "gpt" =>
      pure { kind := .chat, apiKey := c.openaiApiKey, model := c.openaiModel,
             baseUrl := ← Http.baseOf c.openaiBaseUrl, maxTokens := c.llmMaxTokens,
             timeout := c.llmTimeout }
    | _ =>
      let shown := c.llmProvider.plainText
      throw ⟨.config, s!"不支持的 AI 服务商: {shown}（可选 claude / gpt）", none⟩
  let _ ← p.isAvailable
  pure p

end Provider

end RankAdvisor
