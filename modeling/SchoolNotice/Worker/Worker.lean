import SchoolNotice.Delivery.Batch
import SchoolNotice.Json.Compact
import SchoolNotice.Settings
import SchoolNotice.Worker.Desk
import SchoolNotice.Worker.Job

/-!
The worker: it reads its settings and one job, connects to the database, brings the schema up to
date, and delivers the job as one batch or previews its first recipient. It stops at the first thing
that goes wrong; deliveries that fail do not stop the others.
-/

namespace SchoolNotice

structure Network where
  database : String → Option Database.Server
  smtp : String → Nat → Option Smtp.Server
  ses : Json → Option Ses.Response

namespace Network

def offline : Network := ⟨fun _ => none, fun _ _ => none, fun _ => none⟩

end Network

structure Invocation where
  arguments : List String
  environment : String → Option String
  input : String
  network : Network
  clock : Instant
  freshId : Nat → String

inductive WorkerError where
  | settings (error : SettingsError)
  | job
  | connection
  | migration
  | noRecipient
  | preview (error : DeliveryError)
  | undelivered (count : Nat)
deriving DecidableEq, Repr

namespace WorkerError

def message : WorkerError → String
  | .settings _ => "設定の読み込みに失敗しました"
  | .job => "ジョブの JSON が不正です"
  | .connection => "データベース接続に失敗しました"
  | .migration => "マイグレーションの実行に失敗しました"
  | .noRecipient => "プレビューには宛先が 1 件以上必要です"
  | .preview error => error.message
  | .undelivered count => toString count ++ " 件の配信が完了しませんでした"

end WorkerError

/-- What the worker leaves: lines of output, how it ended, and the log entries and mails that it
sent out. -/
structure WorkerReport where
  lines : List Json
  error : Option WorkerError
  entries : List LogEntry
  transmissions : List Smtp.Transmission

namespace WorkerReport

def exitCode (report : WorkerReport) : Nat := if report.error.isSome then 1 else 0

def stopped (error : WorkerError) : WorkerReport := ⟨[], some error, [], []⟩

end WorkerReport

namespace Worker

/-- The line of output for a recipient, its fields in this order. -/
def outcomeLine (address : String) : Outcome → Json
  | .ok messageId =>
      .object [("to", .string address), ("status", .string "sent"),
        ("message_id", .string messageId)]
  | .error .cancelled =>
      .object [("to", .string address), ("status", .string "cancelled"),
        ("error", .string DeliveryError.cancelled.message)]
  | .error error =>
      .object [("to", .string address), ("status", .string "failed"),
        ("error", .string error.message)]

def previewLine (rendered : Rendered) : Json :=
  .object [("subject", .string rendered.subject), ("html", .string rendered.html)]

def carrier (settings : Settings) (network : Network) : Carrier :=
  match settings.backend with
  | .smtp => .smtp (network.smtp settings.smtpHost settings.smtpPort)
  | .ses => .ses network.ses
  | .noop => .noop

def carryOut (dispatcher : Dispatcher) (preview : Bool) (job : Job) (desk : Desk) : WorkerReport :=
  if preview then
    match job.recipients with
    | [] => .stopped .noRecipient
    | first :: _ =>
        match dispatcher.preview job.notice first.context desk with
        | (.error error, desk) => ⟨[], some (.preview error), desk.entries, desk.transmissions⟩
        | (.ok rendered, desk) =>
            ⟨[previewLine rendered], none, desk.entries, desk.transmissions⟩
  else
    let (outcomes, desk) := dispatcher.batch job.notice job.recipients desk
    let failed := outcomes.length - Dispatcher.succeeded outcomes
    { lines := List.zipWith outcomeLine (job.recipients.map Recipient.address) outcomes
      error := if failed = 0 then none else some (.undelivered failed)
      entries := desk.entries
      transmissions := desk.transmissions }

def run (invocation : Invocation) : WorkerReport :=
  match Settings.load invocation.environment with
  | .error error => .stopped (.settings error)
  | .ok settings =>
      match Job.read? invocation.input with
      | none => .stopped .job
      | some job =>
          match Database.connect invocation.network.database settings.databaseUrl with
          | none => .stopped .connection
          | some server =>
              let (migrated, sent) := server.migrate
              if !migrated then .stopped .migration
              else
                let dispatcher :=
                  (Dispatcher.standard.withSender job.sender).withConcurrency settings.concurrency
                let desk : Desk :=
                  { server := server
                    carrier := carrier settings invocation.network
                    usualSender := settings.fromAddress
                    clock := invocation.clock
                    freshId := invocation.freshId
                    used := 0
                    statements := sent
                    transmissions := []
                    entries := []
                    events := [] }
                carryOut dispatcher (invocation.arguments.contains "--preview") job desk

end Worker

end SchoolNotice
