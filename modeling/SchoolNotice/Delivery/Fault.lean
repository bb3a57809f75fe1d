import SchoolNotice.Notice.Kind
import SchoolNotice.Tenant.Profile
import SchoolNotice.Tenant.Uuid

/-!
What can go wrong in a delivery: a store that cannot be read, mail that cannot be sent, and the
ways in which a delivery ends without a mail.
-/

namespace SchoolNotice

inductive DatabaseFault where
  | poolTimedOut
  | reported (text : String)
deriving DecidableEq, Repr

namespace DatabaseFault

def message : DatabaseFault → String
  | .poolTimedOut => "pool timed out while waiting for an open connection"
  | .reported text => "error returned from database: " ++ text

end DatabaseFault

inductive StoreError where
  | database (fault : DatabaseFault)
  | serialization (text : String)
  | invalidData (text : String)
  | unexpected (text : String)
deriving DecidableEq, Repr

namespace StoreError

def message : StoreError → String
  | .database fault => "データベースエラー: " ++ fault.message
  | .serialization text => "シリアライズエラー: " ++ text
  | .invalidData text => "保存データが不正です: " ++ text
  | .unexpected text => "予期しないエラー: " ++ text

/-- Stored data that breaks a rule of the domain. -/
def ofValidation (error : ValidationError) : StoreError := .invalidData error.message

/-- Whether the error has another one behind it. -/
def hasCause : StoreError → Bool
  | .database _ => true
  | .serialization _ => true
  | .invalidData _ => false
  | .unexpected _ => false

end StoreError

inductive SendError where
  | sendFailed (text : String)
  | invalidAddress (text : String)
deriving DecidableEq, Repr

namespace SendError

def message : SendError → String
  | .sendFailed text => "メール送信に失敗: " ++ text
  | .invalidAddress text => "メールアドレスが不正: " ++ text

end SendError

/-- How a delivery ends without a mail. -/
inductive DeliveryError where
  | templateNotFound (tenant : Uuid) (kind : Kind)
  | templateLookup (error : StoreError)
  | transport (error : SendError)
  | cancelled
deriving DecidableEq, Repr

namespace DeliveryError

def message : DeliveryError → String
  | .templateNotFound tenant kind =>
      "通知テンプレートが見つかりません: tenant=" ++ tenant.text ++ ", type=" ++ kind.name
  | .templateLookup error => "通知テンプレートの取得に失敗: " ++ error.message
  | .transport error => error.message
  | .cancelled => "配信がキャンセルされました"

end DeliveryError

end SchoolNotice
