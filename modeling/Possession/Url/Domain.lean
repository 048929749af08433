import Possession.Text.Utf8
import Possession.Url.Domain.Composition
import Possession.Url.Domain.Direction
import Possession.Url.Domain.Joiners
import Possession.Url.Punycode

/-!
# Domain names

The ASCII form of a domain name: its characters are mapped and composed, its labels checked, and
labels beyond ASCII written in Punycode behind `xn--`. Labels already in that form are read and
checked likewise.
-/

namespace Possession
namespace Url
namespace Domain

/-- ASCII characters that no host may hold: controls, the space, and those with a meaning in
URLs. -/
def isForbidden (code : Nat) : Bool :=
  code ≤ 32 || code == 127 || "%#/:<>?@[\\]^|".toList.any (fun c => c.toNat == code)

/-- The dot, which stands between the labels of a name. -/
def dot : Nat := 46

/-- The mark of labels in ASCII form. -/
def asciiMark : List Nat := [120, 110, 45, 45]

/-- The greatest number of characters of a label that is written in Punycode. -/
def maxEncodedLength : Nat := 1000

/-- The greatest number of characters of a label that is read as Punycode. -/
def maxDecodedLength : Nat := 2000

/-- Whether a label satisfies what is asked of a label alone. -/
def labelFits (label : List Nat) : Bool :=
  label.all (fun code => if code < 128 then !isForbidden code else isValid code) &&
    !((label.head?.map markSet.contains).getD false) && joinersFit [] label

/-- A label in readable form, read from its ASCII form if it has the mark. -/
def readable? (label : List Nat) : Option (List Nat) :=
  if asciiMark.isPrefixOf label then
    let code := label.drop asciiMark.length
    if maxDecodedLength < code.length then none
    else do
      let decoded ← Punycode.decode? (code.map Char.ofNat)
      if decoded.all (· < 128) || decoded.any (fun code => 65 ≤ code && code ≤ 90) ||
        compose decoded != decoded then none
      else some decoded
  else some label

/-- The ASCII form of a readable label. -/
def ascii? (label : List Nat) : Option (List Char) :=
  if label.all (· < 128) then some (label.map Char.ofNat)
  else if maxEncodedLength < label.length then none
  else some (['x', 'n', '-', '-'] ++ Punycode.encode label)

def toAscii? (name : List Char) : Option (List Char) := do
  let mapped ← name.mapM fun c => map? c.toNat
  let readable ← ((compose mapped.flatten).splitOn dot).mapM readable?
  let subject := readable.any fun label => label.any fun code => 128 ≤ code && isRightToLeft code
  if !readable.all labelFits || (subject && !readable.all fitsDirection) then none
  else
    let forms ← readable.mapM ascii?
    some (['.'].intercalate forms)

end Domain
end Url
end Possession
