import RankAdvisor.Analysis.Job
import RankAdvisor.Binary64.Fixed

/-! # Reports of a run

The lines a finished run is reported with: a heading with the number of records and one
line per record (mark, name and code, date, label, confidence with two places, summary),
or a single line when there are none; a failed job is reported with its message.
-/

namespace RankAdvisor

namespace Analysis

def recordLine (r : Record) : String :=
  let confidence := Binary64.fixed { places := 2 } r.confidence
  let name := r.stockName.plainText
  let code := r.stockCode.plainText
  let summary := r.summary.plainText
  s!"{r.recommendation.mark} {name}({code}) {r.analysisDate.iso}: " ++
    s!"{r.recommendation.label} | 置信度 {confidence} | {summary}"

def recordLines (records : List Record) : List String :=
  if records.isEmpty then ["没有分析结果"]
  else s!"===== 分析结果（共 {records.length} 条）=====" :: records.map recordLine

def jobLines (j : Job) : List String :=
  if j.status == .done then recordLines j.results
  else
    let message := (j.errorMessage.getD .null).plainText
    let id := j.id.plainText
    [s!"作业 {id} 失败: {message}"]

end Analysis

end RankAdvisor
