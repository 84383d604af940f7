import Nostream.Types.Settings
import Nostream.Utils.ProofOfWork

set_option autoImplicit false

namespace Nostream

open Utf16

def appliesToKind (event : Event) (kinds : Option (List KindOrRange)) : Bool :=
  kinds.all fun kinds => kinds.any (isEventKindOrRangeMatch event)

def contentViolation (event : Event) (limit : ContentLimits) : Option JsString :=
  match limit.maxLength with
  | some maxLength =>
    if maxLength > 0 ∧ event.content.length > maxLength ∧ appliesToKind event limit.kinds then
      some (js "rejected: content is longer than " ++ Json.integer maxLength ++ js " bytes")
    else none
  | none => none

def contentSettingViolation (event : Event) : Option ContentSetting → Option JsString
  | none => none
  | some (.one limit) => contentViolation event limit
  | some (.many limits) => limits.findSome? (contentViolation event)

def maxPositiveDeltaViolation (now : Int) (event : Event) (limits : CreatedAtLimits) : Option JsString :=
  match limits.maxPositiveDelta with
  | some delta =>
    if delta > 0 ∧ event.createdAt > now + delta then
      some (js "rejected: created_at is more than " ++ Json.integer delta ++ js " seconds in the future")
    else none
  | none => none

def maxNegativeDeltaViolation (now : Int) (event : Event) (limits : CreatedAtLimits) : Option JsString :=
  match limits.maxNegativeDelta with
  | some delta =>
    if delta > 0 ∧ event.createdAt < now - delta then
      some (js "rejected: created_at is more than " ++ Json.integer delta ++ js " seconds in the past")
    else none
  | none => none

def leadingZeroBitsViolation (label : JsString) (pow : Nat) (minLeadingZeroBits : Option Int) :
    Option JsString :=
  match minLeadingZeroBits with
  | some least =>
    if least > 0 ∧ pow < least then
      some (label ++ Json.integer pow ++ js "<" ++ Json.integer least)
    else none
  | none => none

def pubkeyListViolation (event : Event) (limits : PubkeyLimits) : Option JsString :=
  let outside := limits.whitelist.any fun list => !list.isEmpty && !list.any (startsWith event.pubkey)
  let inside := limits.blacklist.any fun list => !list.isEmpty && list.any (startsWith event.pubkey)
  if outside || inside then some (js "blocked: pubkey not allowed") else none

def kindListViolation (event : Event) (limits : KindLimits) : Option JsString :=
  let outside := limits.whitelist.any fun list =>
    !list.isEmpty && !list.any (isEventKindOrRangeMatch event)
  let inside := limits.blacklist.any fun list =>
    !list.isEmpty && list.any (isEventKindOrRangeMatch event)
  if outside || inside then
    some (js "blocked: event kind " ++ Json.integer event.kind ++ js " not allowed")
  else none

-- The checks that the two canAcceptEvent have in common, in their order.
def limitViolation (limits : EventLimits) (now : Int) (event : Event) : Option JsString :=
  contentSettingViolation event limits.content <|>
    limits.createdAt.bind (maxPositiveDeltaViolation now event) <|>
    limits.createdAt.bind (maxNegativeDeltaViolation now event) <|>
    limits.eventId.bind (fun limits =>
      leadingZeroBitsViolation (js "pow: difficulty ") (getEventProofOfWork event.id)
        limits.minLeadingZeroBits) <|>
    limits.pubkey.bind (fun limits =>
      leadingZeroBitsViolation (js "pow: pubkey difficulty ") (getPubkeyProofOfWork event.pubkey)
        limits.minLeadingZeroBits) <|>
    limits.pubkey.bind (pubkeyListViolation event) <|>
    limits.kind.bind (kindListViolation event)

def isApplicableFee (event : Event) (feeSchedule : FeeSchedule) : Bool :=
  let whitelists := feeSchedule.whitelists.getD {}
  feeSchedule.enabled && !(whitelists.pubkeys.getD []).any (startsWith event.pubkey) &&
    !(whitelists.eventKinds.getD []).any (isEventKindOrRangeMatch event)

def applicableFees (payments : Payments) (event : Event) : List FeeSchedule :=
  (payments.admission.getD []).filter (isApplicableFee event)

end Nostream
