import SchoolNotice.Delivery.Fault
import SchoolNotice.Json.Basic
import SchoolNotice.Theme

/-!
The events that deliveries leave in the program's log, each with a level, a text and named fields.
-/

namespace SchoolNotice

inductive Event where
  | tenantUnknown (tenant : Uuid)
  | tenantLookupFailed (tenant : Uuid) (error : StoreError)
  | rendered (source : Source) (theme : Theme)
  | previewed (tenant : Uuid) (kind : Kind) (source : Source)
  | sent (tenant : Uuid) (kind : Kind) (source : Source) (recipient messageId : String)
  | sendFailed (tenant : Uuid) (kind : Kind) (source : Source) (recipient : String)
      (error : SendError)
  | deliveryFailed (tenant : Uuid) (kind : Kind) (recipient : String) (error : DeliveryError)
  | deliveryCancelled (tenant : Uuid) (kind : Kind) (recipient : String)
  | logFailed (error : StoreError)
  | logSkipped
  | batchCompleted (tenant : Uuid) (kind : Kind) (succeeded failed : Nat)
  | mailSkipped (recipient subject messageId : String)
  | messageIdMissing (recipient : String)
deriving DecidableEq, Repr

inductive Level where
  | debug
  | info
  | warn
  | error
deriving DecidableEq, Repr

namespace Level

def name : Level → String
  | .debug => "DEBUG"
  | .info => "INFO"
  | .warn => "WARN"
  | .error => "ERROR"

end Level

namespace Event

def level : Event → Level
  | .tenantUnknown .. => .warn
  | .tenantLookupFailed .. => .warn
  | .rendered .. => .debug
  | .previewed .. => .info
  | .sent .. => .info
  | .sendFailed .. => .info
  | .deliveryFailed .. => .error
  | .deliveryCancelled .. => .info
  | .logFailed .. => .error
  | .logSkipped => .warn
  | .batchCompleted .. => .info
  | .mailSkipped .. => .info
  | .messageIdMissing .. => .warn

def message : Event → String
  | .tenantUnknown .. => "テナントが見つからないため補完せずに続行"
  | .tenantLookupFailed .. => "テナント情報の取得に失敗したため補完せずに続行"
  | .rendered .. => "通知をレンダリング"
  | .previewed .. => "通知プレビューを生成"
  | .sent .. => "通知メール送信成功"
  | .sendFailed .. => "通知メール送信失敗"
  | .deliveryFailed .. => "通知の配信に失敗"
  | .deliveryCancelled .. => "配信がキャンセルされました"
  | .logFailed .. => "通知ログの記録に失敗"
  | .logSkipped => "キャンセルにより通知ログを記録できませんでした"
  | .batchCompleted .. => "通知バッチ完了"
  | .mailSkipped .. => "Noop: メール送信をスキップ"
  | .messageIdMissing .. => "SES がメッセージ ID を返さなかった"

def errorFields (category kind : String) : List (String × Json) :=
  [("error.category", .string category), ("error.kind", .string kind)]

def businessFields (action : String) (tenant : Uuid) (kind : Kind) (result : String) :
    List (String × Json) :=
  [("event.kind", .string "business_event"), ("event.category", .string "notification"),
    ("event.action", .string action), ("event.tenant_id", .string tenant.text),
    ("event.result", .string result), ("notification.template_type", .string kind.name)]

def entityField (entity : String) : String × Json := ("event.entity_type", .string entity)

def sourceField (source : Source) : String × Json :=
  ("notification.template_source", .string source.name)

def errorCategory : DeliveryError → String
  | .transport _ => "external_service"
  | _ => "infrastructure"

def errorKind : DeliveryError → String
  | .templateNotFound .. => "template_not_found"
  | .templateLookup _ => "template_lookup"
  | .transport _ => "transport"
  | .cancelled => "cancelled"

def batchResult (succeeded failed : Nat) : String :=
  if failed = 0 then "success" else if succeeded = 0 then "failure" else "partial"

def fields : Event → List (String × Json)
  | .tenantUnknown tenant =>
      errorFields "infrastructure" "tenant_lookup" ++ [("tenant_id", .string tenant.text)]
  | .tenantLookupFailed tenant error =>
      errorFields "infrastructure" "tenant_lookup" ++
        [("tenant_id", .string tenant.text), ("error", .string error.message)]
  | .rendered source theme =>
      [("template_source", .string source.name), ("theme", .string theme.name)]
  | .previewed tenant kind source =>
      businessFields "notification.rendered" tenant kind "success" ++
        [entityField "notification_template", sourceField source]
  | .sent tenant kind source recipient messageId =>
      businessFields "notification.sent" tenant kind "success" ++
        [entityField "notification_log", sourceField source,
          ("notification.recipient", .string recipient),
          ("notification.message_id", .string messageId)]
  | .sendFailed tenant kind source recipient error =>
      businessFields "notification.failed" tenant kind "failure" ++
        errorFields "external_service" "transport" ++
        [entityField "notification_log", sourceField source,
          ("notification.recipient", .string recipient), ("error", .string error.message)]
  | .deliveryFailed tenant kind recipient error =>
      errorFields (errorCategory error) (errorKind error) ++
        [("tenant_id", .string tenant.text), ("template_type", .string kind.name),
          ("recipient", .string recipient), ("error", .string error.message)]
  | .deliveryCancelled tenant kind recipient =>
      [("tenant_id", .string tenant.text), ("template_type", .string kind.name),
        ("recipient", .string recipient)]
  | .logFailed error =>
      errorFields "infrastructure" "notification_log" ++ [("error", .string error.message)]
  | .logSkipped => errorFields "infrastructure" "notification_log"
  | .batchCompleted tenant kind succeeded failed =>
      businessFields "notification.batch_completed" tenant kind (batchResult succeeded failed) ++
        [("batch.succeeded", Json.ofNat succeeded), ("batch.failed", Json.ofNat failed)]
  | .mailSkipped recipient subject messageId =>
      [("to", .string recipient), ("subject", .string subject), ("message_id", .string messageId)]
  | .messageIdMissing recipient => [("to", .string recipient)]

end Event

end SchoolNotice
