import Nostream.Types
import Nostream.Shared.Hex
import Nostream.Shared.Numeric

set_option autoImplicit false

namespace Nostream

open Utf16 Hex Numeric

def prefixSchema (s : JsString) : Bool := isLowerHex s && 4 ≤ s.length && s.length ≤ 64

def idSchema (s : JsString) : Bool := isLowerHex s && s.length == 64

def pubkeySchema (s : JsString) : Bool := isLowerHex s && s.length == 64

def kindSchema (n : Int) : Bool := 0 ≤ n && n ≤ maxSafeInteger

def signatureSchema (s : JsString) : Bool := isLowerHex s && s.length == 128

-- Math.log10(value) < 10 on the safe integers that min(0) leaves.
def createdAtSchema (n : Int) : Bool := 0 ≤ n && n < 10000000000

def tagSchema : Tag → Bool
  | [] => false
  | identifier :: _ => !identifier.isEmpty

def eventSchema (event : Event) : Bool :=
  idSchema event.id && pubkeySchema event.pubkey && createdAtSchema event.createdAt &&
    kindSchema event.kind && event.tags.all tagSchema && signatureSchema event.sig

def isLowerCaseTagKey : JsString → Bool
  | [hash, letter] => hash.toNat == 35 && 97 ≤ letter.toNat && letter.toNat ≤ 122
  | _ => false

def filterSchema (filter : SubscriptionFilter) : Bool :=
  (filter.ids.getD []).all prefixSchema && (filter.authors.getD []).all prefixSchema &&
    (filter.kinds.getD []).all kindSchema && filter.since.all createdAtSchema &&
    filter.untilTime.all createdAtSchema && filter.limit.all kindSchema &&
    filter.criteria.all fun (key, values) =>
      isLowerCaseTagKey key && values.all fun value => !value.isEmpty && value.length ≤ 1024

-- The type and the subscription id count among the twelve items.
def reqMessageSchema (subscriptionId : JsString) (filters : List SubscriptionFilter) : Bool :=
  !subscriptionId.isEmpty && subscriptionId.length ≤ 256 && !filters.isEmpty &&
    filters.all filterSchema && filters.length + 2 ≤ 12

def closeMessageSchema (subscriptionId : JsString) : Bool := !subscriptionId.isEmpty

def messageSchema : IncomingMessage → Bool
  | .subscribe subscriptionId filters => reqMessageSchema subscriptionId filters
  | .unsubscribe subscriptionId => closeMessageSchema subscriptionId

end Nostream
