import Obligator.Upstream.OAuth2

/-!
# FedCM login: `/login-fedcm` and `/complete-login-fedcm`

`/complete-login-fedcm` reads the issuer from the assertion without verifying it, fetches
that issuer's discovery document and key set, verifies the assertion under those keys and
appends the asserted email to the session cookie.
-/

namespace Obligator.Upstream

open Http

/-- Modelled from the spec: `getIdentities` reads the identities of a valid session cookie. -/
def getIdentities (env : Env) (k : Keyring) (r : Request) : List Identity :=
  match getJwtFromCookie k (env.cookiePrefix ++ "login_key") r with
  | .ok c => identitiesOf c
  | .error _ => []

/-- The `/login-fedcm` handler: the response, the key ring and the identities it renders. -/
def loginFedCm (env : Env) (fails : Fault → Bool) (k : Keyring) (r : Request) :
    Response × Keyring × List Identity :=
  let idents := getIdentities env k r
  let set := setReturnUriCookie env k r.now (r.formValue "return_uri") {}
  if fails .templateExecute then (set.1.fail 500 "failed to render login-fedcm.html", set.2, idents)
  else (set.1.write "", set.2, idents)

/-- The `/complete-login-fedcm` handler. -/
def completeLoginFedCm (env : Env) (fails : Fault → Bool) (u : Providers) (k : Keyring)
    (r : Request) : Response × Keyring :=
  let w : Response := {}
  if r.method ≠ "POST" then (w.fail 405 "Invalid method", k)
  else
  let fedCmToken := r.formValue "fedcm-token"
  match u.decode fedCmToken with
  | .error e => (w.fail 500 e, k)
  | .ok unverifiedToken =>
  let issuer := claimFromToken "iss" unverifiedToken
  match u.oidcConfig issuer with
  | .error e => (w.fail 500 e, k)
  | .ok oidcMeta =>
  match u.jwks oidcMeta.jwksUri with
  | .error e => (w.fail 500 e, k)
  | .ok keyset =>
  match u.parse keyset r.now fedCmToken with
  | .error e => (w.fail 500 e, k)
  | .ok oidcToken =>
  let cookieValue := (r.cookie (env.cookiePrefix ++ "login_key")).getD ""
  let email := email oidcToken
  match addIdentityToCookie env k r.now fails issuer email email cookieValue true with
  | .error _ => (w.writeHeader 500, k)
  | .ok (cookie, k) =>
  match getReturnUriCookie env k r with
  | .error _ => (w.writeHeader 500, k)
  | .ok returnUri =>
  let w := ((deleteReturnUriCookie env w).setHeader "Set-Login" "logged-in").setCookie cookie
  (w.redirect r.method "/complete-login-fedcm" returnUri 303, k)

end Obligator.Upstream
