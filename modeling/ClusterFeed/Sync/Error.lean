import ClusterFeed.Sync.Message
import ClusterFeed.Text.Quoted

/-!
# Why a request fails

The causes for which a token cannot be had, and the causes for which a request to the index fails.
Only some of them can pass by themselves, so that the same request may be sent again.

`isRetryable` is `is_retryable`.
-/

namespace ClusterFeed.Sync

/-- Why a token cannot be had. -/
inductive CredentialError where
  /-- There is no such secret. -/
  | notFound (scope name : String)
  /-- The secret holds nothing under the key. -/
  | keyMissing (scope name key : String)
  /-- The secret could not be read. -/
  | backend (cause : String)
  deriving DecidableEq, Repr, Inhabited

/-- The text of a credential error. -/
def CredentialError.message : CredentialError → String
  | .notFound scope name => "secret " ++ scope ++ "/" ++ name ++ " not found"
  | .keyMissing scope name key =>
    "key " ++ Text.quote key ++ " missing or empty in secret " ++ scope ++ "/" ++ name
  | .backend cause => "reading secret: " ++ cause

/-- Why a request fails. -/
inductive SyncError where
  /-- No token could be had. -/
  | credential (e : CredentialError)
  /-- The request could not be written. -/
  | encode (cause : String)
  /-- No answer came. -/
  | http (cause : String)
  /-- The answer has a status that is no success. -/
  | status (code : Nat) (body : String)
  /-- The answer could not be read. -/
  | unreadable (cause : String)
  /-- The index refused the request as a whole. -/
  | rejected (code message : String)
  /-- The index refused single items. -/
  | partialFailure (answer : Response)
  /-- The feed was stopped. -/
  | cancelled
  deriving DecidableEq, Repr, Inhabited

namespace SyncError

/-- Whether the same request may be sent again. -/
def isRetryable : SyncError → Bool
  | .http _ => true
  | .status _ _ => true
  | .unreadable _ => true
  | .rejected _ _ => true
  | _ => false

/-- The answer that refused single items. -/
def partial? : SyncError → Option Response
  | .partialFailure r => some r
  | _ => none

/-- The text of an error. -/
def message : SyncError → String
  | .credential e => "credential: " ++ e.message
  | .encode cause => "encoding request: " ++ cause
  | .http cause => "http: " ++ cause
  | .status code body => "endpoint returned " ++ toString code ++ ": " ++ body
  | .unreadable cause => "endpoint returned an unreadable body: " ++ cause
  | .rejected code text => "sync rejected (" ++ code ++ "): " ++ text
  | .partialFailure r =>
    "partial failure: " ++ toString r.failures.length ++ " item(s) rejected"
  | .cancelled => "cancelled"

end SyncError

end ClusterFeed.Sync
