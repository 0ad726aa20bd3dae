/-
ContentDelivery.Failure — why a call came to nothing.

A failure is a cause, told in one message and put into one of five
kinds. None of them ends the client: it stays in use after each.
-/
import ContentDelivery.Text.Quoted

namespace ContentDelivery

inductive Failure where
  /-- No configuration has come yet. -/
  | configurationMissing
  /-- The configured client code is empty. -/
  | clientCodeEmpty
  /-- The visitor did not opt in. -/
  | optedOut
  /-- There are neither mboxes nor notifications to send. -/
  | emptyRequest
  /-- No content is held for the mbox, so that there are no tokens to report. -/
  | mboxNotCached (name : String)
  /-- The delivery endpoint has no valid URL. -/
  | invalidUrl
  /-- The exchange was not completed. -/
  | network (detail : String)
  /-- The service answered with an error of its own. -/
  | application (status : UInt16) (message : String)
  /-- The body of the reply is not a JSON object. -/
  | malformedReply
  /-- The worker of the intake broke down. -/
  | intakePanicked
  /-- The intake takes no more requests. -/
  | intakeStopped
  /-- A failure of the operating system. -/
  | io (detail : String)
deriving DecidableEq, Repr

inductive FailureKind where
  /-- Refused because of the configuration or of the visitor's choice. -/
  | configuration
  /-- Refused because there was nothing to send. -/
  | emptyInput
  /-- The exchange was not completed. -/
  | transport
  /-- The service reported an error. -/
  | application
  /-- The reply could not be read. -/
  | parse
deriving DecidableEq, Repr

namespace Failure

def message : Failure → String
  | configurationMissing => "configuration missing"
  | clientCodeEmpty => "client code was empty"
  | optedOut => "privacy status is not opted in"
  | emptyRequest => "no mboxes or notifications to send"
  | mboxNotCached name => "no cached mbox found for " ++ Text.quoted name
  | invalidUrl => "invalid delivery url"
  | network detail => "network error: " ++ detail
  | application status message =>
    "errors returned in response (status " ++ toString status.toNat ++ "): " ++ message
  | malformedReply => "response parser initialization failed"
  | intakePanicked => "intake thread panicked"
  | intakeStopped => "intake thread stopped"
  | io detail => detail

def kind : Failure → FailureKind
  | configurationMissing | clientCodeEmpty | optedOut | invalidUrl => .configuration
  | emptyRequest | mboxNotCached _ => .emptyInput
  | network _ | intakePanicked | intakeStopped | io _ => .transport
  | application _ _ => .application
  | malformedReply => .parse

end Failure

end ContentDelivery
