import Possession.Rsa.Generation
import Possession.Store.Basic

/-!
# Keys made by software

What the stores that keep keys in software share: where new keys and the time come from, and what
such stores can offer.
-/

namespace Possession

/-- What a store draws on when it makes a key: entropy, and the time. -/
structure Supply where
  entropy : Entropy
  now : Instant

namespace Supply

/-- Draws a private key of a given size, if there are keys of that size. -/
def generateKey (supply : Supply) (bits : Nat) :
    Except StoreError Rsa.PrivateKey × Supply :=
  match Rsa.generate bits supply.entropy with
  | .ok (key, entropy) => (.ok key, { supply with entropy })
  | .error fault =>
    let reason := fault.message
    (.error (.unsupportedParameters s!"{bits}-bit RSA: {reason}"), supply)

end Supply

/-- What a store of software keys can offer. -/
def Capabilities.software : Capabilities :=
  ⟨.software, false⟩

end Possession
