import Obligator.Oidc.Token
import Obligator.Upstream.FedCm
import Obligator.Validate

/-!
# The server as a state machine

The state the handlers share is the key ring (every envelope signed so far) and the error
variable `NewOIDCHandler` captures, which `/register` reassigns. A step serves one request
at one endpoint, with the library faults and the outside world's answers it meets. The
server boots with no captured error and a key ring of session envelopes that the login
handlers outside src/ signed.
-/

namespace Obligator

open Http Oidc Upstream

/-- The state the handlers share. -/
structure Server where
  keyring : Keyring
  err : Option String

inductive Endpoint
  | wellKnown
  | register (decoded : Except String (List String))
  | userinfo
  | auth
  | approve
  | token
  | loginOAuth2 (u : Providers) (rnd : Random)
  | callback (u : Providers)
  | loginFedCm
  | completeLoginFedCm (u : Providers)

def Endpoint.mounted (env : Env) : Endpoint → Bool
  | .loginFedCm | .completeLoginFedCm _ => env.fedCm
  | _ => true

def Endpoint.nonce : Endpoint → List String
  | .loginOAuth2 _ rnd => match rnd.nonce with
    | .ok n => [n]
    | .error _ => []
  | _ => []

def Server.update (s : Server) (res : Response × Keyring) : Response × Server :=
  (res.1, { s with keyring := res.2 })

/-- Serve one request. -/
def Server.serve (env : Env) (fails : Fault → Bool) (s : Server) (r : Request) :
    Endpoint → Response × Server
  | .wellKnown => (wellKnown env, s)
  | .register decoded => ((register decoded).1, { s with err := (register decoded).2 })
  | .userinfo => (userinfo s.keyring r, s)
  | .auth => s.update ((auth env fails s.keyring r).1, (auth env fails s.keyring r).2.1)
  | .approve => s.update (approve env fails s.err s.keyring r)
  | .token => s.update (token env fails s.keyring r)
  | .loginOAuth2 u rnd => s.update (loginOAuth2 env fails u rnd s.keyring r)
  | .callback u => s.update (callback env fails u s.keyring r)
  | .loginFedCm =>
    s.update ((loginFedCm env fails s.keyring r).1, (loginFedCm env fails s.keyring r).2.1)
  | .completeLoginFedCm u => s.update (completeLoginFedCm env fails u s.keyring r)

def SessionsOnly (k : Keyring) : Prop :=
  ∀ c ∈ k.signed, ∃ now ttl idents logins, idents ≠ [] ∧ c = sessionClaims now ttl idents logins

/-- The states a run of requests reaches from boot. -/
inductive Reachable (env : Env) : Server → Prop
  | boot (k : Keyring) (hk : SessionsOnly k) : Reachable env ⟨k, none⟩
  | step {s : Server} (fails : Fault → Bool) (r : Request) (e : Endpoint)
      (hm : e.mounted env) (hs : Reachable env s) : Reachable env (s.serve env fails r e).2

end Obligator
