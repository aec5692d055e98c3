import Signet.Remote.Client

/-! A verifier of credentials behind a peer. -/

namespace Signet.Remote

/-- What the verifier behind a peer says about a credential. -/
def verify {σ : Type} (peer : Peer σ) (credential : Credential) (state : σ) :
    Except AuthError Verification × σ :=
  match peer.call .json "POST" "/verify" credential state with
  | (.ok verification, state) => (.ok verification, state)
  | (.error failure, state) => (.error (.verifierUnavailable failure.message), state)

end Signet.Remote
