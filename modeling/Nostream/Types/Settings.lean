import Nostream.Utils.Event

set_option autoImplicit false

namespace Nostream

open Utf16

structure EventIdLimits where
  minLeadingZeroBits : Option Int := none

structure PubkeyLimits where
  minBalance : Option Int := none
  minLeadingZeroBits : Option Int := none
  whitelist : Option (List JsString) := none
  blacklist : Option (List JsString) := none

structure KindLimits where
  whitelist : Option (List KindOrRange) := none
  blacklist : Option (List KindOrRange) := none

structure CreatedAtLimits where
  maxNegativeDelta : Option Int := none
  maxPositiveDelta : Option Int := none

structure ContentLimits where
  kinds : Option (List KindOrRange) := none
  maxLength : Option Int := none

inductive ContentSetting where
  | one (limit : ContentLimits)
  | many (limits : List ContentLimits)

structure EventRateLimit where
  period : Int
  rate : Int
  kinds : Option (List KindOrRange) := none

structure EventWhitelists where
  pubkeys : Option (List JsString) := none
  ipAddresses : Option (List JsString) := none

structure EventLimits where
  eventId : Option EventIdLimits := none
  pubkey : Option PubkeyLimits := none
  kind : Option KindLimits := none
  createdAt : Option CreatedAtLimits := none
  content : Option ContentSetting := none
  rateLimits : Option (List EventRateLimit) := none
  whitelists : Option EventWhitelists := none

structure RateLimit where
  period : Int
  rate : Int

structure ConnectionLimits where
  rateLimits : Option (List RateLimit) := none
  ipWhitelist : Option (List JsString) := none

abbrev MessageLimits := ConnectionLimits

abbrev InvoiceLimits := ConnectionLimits

abbrev AdmissionCheckLimits := ConnectionLimits

structure ClientSubscriptionLimits where
  maxSubscriptions : Option Int := none
  maxFilters : Option Int := none
  maxFilterValues : Option Int := none
  maxLimit : Option Int := none
  minPrefixLength : Option Int := none
  maxSubscriptionIdLength : Option Int := none

structure ClientLimits where
  subscription : Option ClientSubscriptionLimits := none

structure Limits where
  event : Option EventLimits := none
  client : Option ClientLimits := none
  connection : Option ConnectionLimits := none
  message : Option MessageLimits := none
  invoice : Option InvoiceLimits := none
  admissionCheck : Option AdmissionCheckLimits := none

structure FeeScheduleWhitelists where
  pubkeys : Option (List JsString) := none
  eventKinds : Option (List KindOrRange) := none

structure FeeSchedule where
  enabled : Bool
  amount : Int := 0
  whitelists : Option FeeScheduleWhitelists := none

structure Payments where
  enabled : Bool
  admission : Option (List FeeSchedule) := none

structure Settings where
  payments : Option Payments := none
  limits : Option Limits := none

structure Mirror where
  address : JsString
  secret : Option JsString := none
  filters : Option (List SubscriptionFilter) := none
  limits : Option Limits := none
  skipAdmissionCheck : Bool := false

structure User where
  isAdmitted : Bool
  balance : Int

def Settings.eventLimits (settings : Settings) : EventLimits :=
  (settings.limits.bind Limits.event).getD {}

def Settings.subscriptionLimits (settings : Settings) : Option ClientSubscriptionLimits :=
  (settings.limits.bind Limits.client).bind ClientLimits.subscription

-- ramda's mergeDeepRight: objects are merged key by key, anything else is the right one's.
section MergeDeepRight

def mergeKey {α : Type} (left right : Option α) : Option α := right.orElse fun _ => left

def mergeObjects {α : Type} (merge : α → α → α) : Option α → Option α → Option α
  | some left, some right => some (merge left right)
  | left, right => mergeKey left right

def EventIdLimits.mergeDeepRight (left right : EventIdLimits) : EventIdLimits :=
  { minLeadingZeroBits := mergeKey left.minLeadingZeroBits right.minLeadingZeroBits }

def PubkeyLimits.mergeDeepRight (left right : PubkeyLimits) : PubkeyLimits :=
  { minBalance := mergeKey left.minBalance right.minBalance
    minLeadingZeroBits := mergeKey left.minLeadingZeroBits right.minLeadingZeroBits
    whitelist := mergeKey left.whitelist right.whitelist
    blacklist := mergeKey left.blacklist right.blacklist }

def KindLimits.mergeDeepRight (left right : KindLimits) : KindLimits :=
  { whitelist := mergeKey left.whitelist right.whitelist
    blacklist := mergeKey left.blacklist right.blacklist }

def CreatedAtLimits.mergeDeepRight (left right : CreatedAtLimits) : CreatedAtLimits :=
  { maxNegativeDelta := mergeKey left.maxNegativeDelta right.maxNegativeDelta
    maxPositiveDelta := mergeKey left.maxPositiveDelta right.maxPositiveDelta }

def ContentLimits.mergeDeepRight (left right : ContentLimits) : ContentLimits :=
  { kinds := mergeKey left.kinds right.kinds
    maxLength := mergeKey left.maxLength right.maxLength }

def ContentSetting.mergeDeepRight : ContentSetting → ContentSetting → ContentSetting
  | .one left, .one right => .one (left.mergeDeepRight right)
  | _, right => right

def EventWhitelists.mergeDeepRight (left right : EventWhitelists) : EventWhitelists :=
  { pubkeys := mergeKey left.pubkeys right.pubkeys
    ipAddresses := mergeKey left.ipAddresses right.ipAddresses }

def EventLimits.mergeDeepRight (left right : EventLimits) : EventLimits :=
  { eventId := mergeObjects EventIdLimits.mergeDeepRight left.eventId right.eventId
    pubkey := mergeObjects PubkeyLimits.mergeDeepRight left.pubkey right.pubkey
    kind := mergeObjects KindLimits.mergeDeepRight left.kind right.kind
    createdAt := mergeObjects CreatedAtLimits.mergeDeepRight left.createdAt right.createdAt
    content := mergeObjects ContentSetting.mergeDeepRight left.content right.content
    rateLimits := mergeKey left.rateLimits right.rateLimits
    whitelists := mergeObjects EventWhitelists.mergeDeepRight left.whitelists right.whitelists }

end MergeDeepRight

end Nostream
