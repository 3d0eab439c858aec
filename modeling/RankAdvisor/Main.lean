import RankAdvisor.Bench.Run
import RankAdvisor.CommandLine
import RankAdvisor.Schedule
import RankAdvisor.Analysis.Report
import Std.Time.Format

/-! # Command line

`rank-advisor [-h] [--debug] [--top N] [--async] [--poll-interval S] [--schedule] [--latest]`

Help is printed with status 0; words that cannot be read end the program with the usage
line and status 2.

The settings come from the environment, and what they lack goes to standard error. The
service is then assembled and checked; a failure to assemble it ends the program with
status 1.

* `--latest` reports the day's newest stored records;
* otherwise one job runs (`--async` submits it and reports its id first) and is reported;
  the status is 0 when the job is done and 1 when it failed;
* `--schedule`, or scheduling switched on in the settings, checks the daily time and runs
  the job once; repeating it every day is left to the system's scheduler.

This build carries no network transport: the service runs on the bench, whose sessions
refuse every connection and whose store lives in memory.
-/

namespace RankAdvisor

namespace Console

open Bench

/-- The answer of a session without a network. -/
def refused : Json :=
  .obj [("raise", .str "ConnectionError"), ("message", .str "no network transport in this build")]

def wallNow : IO DateTime := do
  let t ← Std.Time.PlainDateTime.now
  pure ⟨⟨t.date.year.toInt.toNat, t.date.month.toInt.toNat, t.date.day.toInt.toNat⟩,
    ⟨t.time.hour.toInt.toNat, t.time.minute.toInt.toNat, t.time.second.toInt.toNat,
      t.time.nanosecond.toInt.toNat / 1000⟩, none⟩

def usage : String :=
  "usage: rank-advisor [-h] [--debug] [--top TOP] [--async] [--poll-interval POLL_INTERVAL] " ++
    "[--schedule] [--latest]"

def helpLines : List String := [
  usage, "",
  "韩股成交量排行 AI 分析系统", "",
  "options:",
  "  -h, --help            show this help message and exit",
  "  --debug               启用调试模式，输出详细日志",
  "  --top TOP             分析成交量排行前 N 名（最多 10，默认使用配置值）",
  "  --async               以后台作业方式提交，并轮询作业状态直到结束",
  "  --poll-interval POLL_INTERVAL",
  "                        后台作业轮询间隔（秒，默认 2）",
  "  --schedule            启用定时任务模式，每日定时执行",
  "  --latest              仅查询当天最近保存的分析结果"]

def report (lines : List String) : IO Unit := lines.forM IO.println

/-- Runs the service as the options say and answers the exit status. -/
def serve (o : Options) (c : Config) (rig : Rig) (w : World) (day : Date) : IO UInt32 := do
  let sv := rig.service
  if o.latest then
    let (rows, _) := run (sv.latest day (some 10)) w
    match rows with
    | .ok rows =>
      report (Analysis.recordLines (rows.map Store.AdviceRow.toRecord))
      return 0
    | .error f =>
      IO.eprintln s!"程序执行失败: {f.text}"
      return 1
  if o.schedule || !c.scheduleEnabled.isEmptyish then
    match Schedule.daily c.scheduleTime.plainText with
    | .error f =>
      IO.eprintln s!"程序执行失败: {f.text}"
      return 1
    | .ok _ =>
      let (job, _) := run (sv.runNow day) w
      report (Analysis.jobLines job)
      return 0
  let job ← if o.runAsync then
      let (r, w) := run (sv.submit day Analysis.runCommand).run w
      match r with
      | .ok id =>
        let shown := id.plainText
        IO.println s!"作业已提交: {shown}"
        let (job, _) := run (Analysis.Service.getJob id) w
        pure (job.getD (Job.running id))
      | .error f => pure ((Job.running (.str "")).failed f.text)
    else pure (run (sv.runNow day) w).1
  report (Analysis.jobLines job)
  return (if job.status == .done then 0 else 1)

end Console

end RankAdvisor

open RankAdvisor in
def main (args : List String) : IO UInt32 := do
  match CommandLine.read args with
  | .error 0 =>
    Console.report Console.helpLines
    return 0
  | .error code =>
    IO.eprintln Console.usage
    IO.eprintln "rank-advisor: error: the arguments could not be read"
    return code.toUInt32
  | .ok o =>
    let vals ← Config.envNames.mapM fun n => do pure (n, ← IO.getEnv n)
    match Config.fromEnv fun n => (vals.lookup n).join with
    | .error f =>
      IO.eprintln s!"{f.kind.className}: {f.text}"
      return 1
    | .ok c =>
      match c.validate with
      | .ok notes => notes.forM IO.eprintln
      | .error f => IO.eprintln s!"{f.kind.className}: {f.text}"
      let now ← Console.wallNow
      match Bench.Rig.ofConfig c (o.top.map Json.int) now, Duration.hoursOf c.llmCacheTtlHours with
      | .ok rig, .ok ttl =>
        let w : Bench.World := { post := [Console.refused], get := .arr [Console.refused],
                                 askPost := [Console.refused], tokens := TokenCache.create rig.client.tokenLease,
                                 cache := ResultCache.create ttl, wall := now }
        Console.serve o c rig w now.date
      | .error f, _ | _, .error f =>
        IO.eprintln s!"程序执行失败: {f.text}"
        return 1
