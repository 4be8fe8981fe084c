import Typeahead.Web.Idna.Context
import Typeahead.Web.Idna.Direction
import Typeahead.Web.Idna.Mapping
import Typeahead.Web.Ip
import Typeahead.Web.Punycode

/-!
# International domain names

A domain name in the form that the network knows: characters mapped, composed and checked, and each
label that is not ASCII written in Punycode after `xn--`. A label that comes with `xn--` has to be
the form of a label that would be written so.
-/

namespace Typeahead.Web.Idna
open Text

/-- ASCII characters that no domain name may hold. -/
def isForbidden (c : Char) : Bool :=
  c.toNat ≤ 0x20 || c.toNat = 0x7F
    || c ∈ ['%', '#', '/', ':', '<', '>', '?', '@', '[', '\\', ']', '^', '|']

/-- What stands before a label in Punycode. -/
def marker : List Char := ['x', 'n', '-', '-']

/-- The label in the characters meant, if it can stand in a domain name. -/
def label? (label : List Char) : Option (List Char) := do
  let meant ←
    if marker.isPrefixOf label then do
      let decoded ← Punycode.decode? (label.drop 4)
      if decoded.all (·.toNat < 128) || !decoded.all standsForItself || compose decoded ≠ decoded then
        none
      else some decoded
    else some label
  if meant.any isForbidden || startsWithMark meant || !hasContext meant then none else some meant

/-- The label as the network knows it. -/
def encodeLabel (label : List Char) : List Char :=
  if label.all (·.toNat < 128) then label else marker ++ Punycode.encode label

/-- The domain name as the network knows it. -/
def toAscii? (name : List Char) : Option (List Char) := do
  let labels ← (splitAt '.' (← map? name)).mapM label?
  if labels.any (·.any isRightToLeft) && !labels.all keepsDirection then none
  else some (['.'].intercalate (labels.map encodeLabel))

end Typeahead.Web.Idna
