import Obligator.Pkce

/-!
# Federated login: `/login-oauth2`, `/callback` and `GetProfile`

`/login-oauth2` stores the provider, state, nonce and PKCE verifier in the
`upstream_oauth2_request` envelope and redirects to the provider. `/callback` exchanges the
code, checks the nonce of an OpenID Connect provider's ID token (or asks GitHub for the
primary email), applies the allow-list of a non-public server and appends the identity to
the session cookie. `Providers` is what the outside world answers.
-/

namespace Obligator.Upstream

open Http Pkce

structure OAuth2ServerMetadata where
  authorizationEndpoint : String
  tokenEndpoint : String
  jwksUri : String
  deriving DecidableEq, Repr

structure OAuth2TokenResponse where
  accessToken : String
  idToken : String
  deriving DecidableEq, Repr

structure GitHubEmail where
  email : String
  primary : Bool
  verified : Bool
  deriving DecidableEq, Repr

/-- The answers of the outside world: `oauth2MetaMan`'s cached metadata and key sets, the
token endpoints, GitHub's email API, OpenID discovery and JWKS fetches. A provider token
decodes to its claims (`jwt.ParseInsecure`) and is signed under some key sets. -/
structure Providers where
  meta : String → Except String OAuth2ServerMetadata
  keyset : String → Except String String
  exchange : String → List (String × String) → Except String (Nat × Except String OAuth2TokenResponse)
  userEmails : String → Except String (Nat × Except String (List GitHubEmail))
  oidcConfig : String → Except String OAuth2ServerMetadata
  jwks : String → Except String String
  decode : String → Except String Claims
  signedBy : String → String → Bool

def Providers.parse (u : Providers) (keyset : String) (now : Nat) (tok : String) :
    Except String Claims :=
  if !u.signedBy keyset tok then .error "could not verify message using any of the signatures or keys"
  else match u.decode tok with
    | .error e => .error e
    | .ok c => Keyring.validate now c

def getProfile (u : Providers) (provider : OAuth2Provider) (accessToken : String) :
    Except String (String × String) :=
  if provider.id = "github" then
    match u.userEmails accessToken with
    | .error e => .error e
    | .ok (status, decoded) =>
      if status ≠ 200 then .error "Bad status getting profile"
      else match decoded with
        | .error e => .error e
        | .ok emails =>
          match emails.find? (·.primary) with
          | some e => .ok (provider.uri, e.email)
          | none => .error "Unknown GetProfile error"
  else .error "Unknown GetProfile error"

structure Random where
  draws : Nat → Except String (Fin 66)
  state : Except String String
  nonce : Except String String

def upstreamRequestClaims (now : Nat) (providerId state nonce verifier : String) : Claims :=
  [("iat", .time now), ("exp", .time (now + 480)), ("provider_id", .str providerId),
    ("state", .str state), ("nonce", .str nonce), ("pkce_code_verifier", .str verifier)]

def authorizationUrl (authURL clientId callbackUri state scope challenge nonce : String) :
    String :=
  authURL ++ "?client_id=" ++ clientId ++ "&redirect_uri=" ++ callbackUri ++ "&state=" ++
    state ++ "&scope=" ++ scope ++
    "&response_type=code&code_challenge_method=S256&code_challenge=" ++ challenge ++
    "&nonce=" ++ nonce ++ "&prompt=consent"

/-- The `/login-oauth2` handler. -/
def loginOAuth2 (env : Env) (fails : Fault → Bool) (u : Providers) (rnd : Random) (k : Keyring)
    (r : Request) : Response × Keyring :=
  let w : Response := {}
  match env.providerById (r.formValue "oauth2_provider_id") with
  | .error e => (w.fail 500 e, k)
  | .ok provider =>
  let scope := if provider.scope ≠ "" then provider.scope else "openid email profile"
  let authURL : Except String String :=
    if provider.openIdConnect then (u.meta provider.id).map (·.authorizationEndpoint)
    else .ok provider.authorizationUri
  match authURL, generatePKCEData env rnd.draws with
  | .error e, _ => (w.fail 500 e, k)
  | .ok _, .error e => (w.fail 500 e, k)
  | .ok authURL, .ok (challenge, verifier) =>
  match rnd.state, rnd.nonce with
  | .error _, _ => (w.fail 500 "Failed to generate state", k)
  | .ok _, .error _ => (w.fail 500 "Failed to generate nonce", k)
  | .ok state, .ok nonce =>
  if fails .upstreamRequestBuild then (w.fail 500 "failed to build upstream request", k)
  else
  let set := setJwtCookie k (upstreamRequestClaims r.now provider.id state nonce verifier)
    (env.cookiePrefix ++ "upstream_oauth2_request") 480 w
  let callbackUri := env.domainToUri r.host ++ "/callback"
  let clientId := if provider.clientId ≠ "" then provider.clientId else env.domainToUri r.host
  (set.1.redirect r.method "/login-oauth2" (authorizationUrl authURL clientId callbackUri state scope challenge nonce) 303,
    set.2)

def tokenEndpoint (u : Providers) (provider : OAuth2Provider) : Except String String :=
  if provider.openIdConnect then
    if provider.id = "facebook" then .ok provider.tokenUri
    else (u.meta provider.id).map (·.tokenEndpoint)
  else .ok provider.tokenUri

def exchangeBody (env : Env) (r : Request) (provider : OAuth2Provider) (upstreamReq : Claims) :
    List (String × String) :=
  [("code", r.formValue "code"), ("client_id", provider.clientId),
    ("client_secret", provider.clientSecret),
    ("redirect_uri", env.domainToUri r.host ++ "/callback"),
    ("grant_type", "authorization_code"),
    ("code_verifier", claimFromToken "pkce_code_verifier" upstreamReq)]

def assertedIdentity (u : Providers) (provider : OAuth2Provider) (upstreamReq : Claims)
    (now : Nat) (tokenRes : OAuth2TokenResponse) : Except Nat (String × String) :=
  if provider.openIdConnect then
    match u.keyset provider.id with
    | .error _ => .error 500
    | .ok keyset =>
      match u.parse keyset now tokenRes.idToken with
      | .error _ => .error 500
      | .ok idToken =>
        match idToken.lookup "nonce" with
        | some (.str nonce) =>
          if claimFromToken "nonce" upstreamReq ≠ nonce then .error 403
          else .ok (email idToken, claimFromToken "name" idToken)
        | _ => .error 400
  else
    match getProfile u provider tokenRes.accessToken with
    | .ok (_, e) => .ok (e, "")
    | .error _ => .ok ("", "")

/-- The `/callback` handler. -/
def callback (env : Env) (fails : Fault → Bool) (u : Providers) (k : Keyring) (r : Request) :
    Response × Keyring :=
  let w : Response := {}
  match getJwtFromCookie k (env.cookiePrefix ++ "upstream_oauth2_request") r with
  | .error e => (w.fail 500 e, k)
  | .ok upstreamReq =>
  match env.providerById (claimFromToken "provider_id" upstreamReq) with
  | .error e => (w.fail 500 e, k)
  | .ok provider =>
  match tokenEndpoint u provider with
  | .error e => (w.fail 500 e, k)
  | .ok endpoint =>
  if fails .newRequest then (w.writeHeader 500, k)
  else match u.exchange endpoint (exchangeBody env r provider upstreamReq) with
  | .error _ => (w.writeHeader 500, k)
  | .ok (status, decoded) =>
  if status ≠ 200 then (w.writeHeader 500, k)
  else match decoded with
  | .error _ => (w.writeHeader 500, k)
  | .ok tokenRes =>
  match assertedIdentity u provider upstreamReq r.now tokenRes with
  | .error code => (w.writeHeader code, k)
  | .ok (email, name) =>
  if fails .usersGet then (w.writeHeader 500, k)
  else match getReturnUriCookie env k r with
  | .error _ => (w.writeHeader 500, k)
  | .ok returnUri =>
  if fails .configGet then (w.writeHeader 500, k)
  else if !env.isPublic && !validUser email env.users then
    (w.redirect r.method "/callback" (env.domainToUri r.host ++ "/no-account?" ++ returnUri) 303, k)
  else
  let w := deleteReturnUriCookie env w
  let cookieValue := (r.cookie (env.cookiePrefix ++ "login_key")).getD ""
  let newIdent : Identity := ⟨"email", email, provider.name, name, email, true⟩
  match addIdentToCookie env k r.now fails cookieValue newIdent with
  | .error _ => (w.writeHeader 500, k)
  | .ok (cookie, k) =>
  let w := clearCookie (env.cookiePrefix ++ "upstream_oauth2_request") (w.setCookie cookie)
  (w.redirect r.method "/callback" returnUri 303, k)

def callbackRedirect (env : Env) (method : String) (cookie : Cookie) (returnUri : String) :
    Response :=
  (clearCookie (env.cookiePrefix ++ "upstream_oauth2_request")
    ((deleteReturnUriCookie env {}).setCookie cookie)).redirect method "/callback" returnUri 303

theorem callbackRedirect_setCookies (env : Env) (method : String) (cookie : Cookie)
    (returnUri : String) :
    (callbackRedirect env method cookie returnUri).setCookies =
      [⟨env.cookiePrefix ++ "return_uri", "", -1⟩, cookie,
        ⟨env.cookiePrefix ++ "upstream_oauth2_request", "", -1⟩] := by
  simp [callbackRedirect, clearCookie, deleteReturnUriCookie]

theorem callbackRedirect_code (env : Env) (method : String) (cookie : Cookie)
    (returnUri : String) : (callbackRedirect env method cookie returnUri).code = 303 :=
  Response.redirect_code _ _ _ _ (by simp [clearCookie, deleteReturnUriCookie])

theorem callback_cases (env : Env) (fails : Fault → Bool) (u : Providers) (k : Keyring)
    (r : Request) :
    ((callback env fails u k r).2 = k ∧ ∀ c ∈ (callback env fails u k r).1.setCookies,
        c = ⟨env.cookiePrefix ++ "return_uri", "", -1⟩) ∨
    ∃ upstreamReq provider endpoint status tokenRes email name returnUri cookie k',
      getJwtFromCookie k (env.cookiePrefix ++ "upstream_oauth2_request") r = .ok upstreamReq ∧
      env.providerById (claimFromToken "provider_id" upstreamReq) = .ok provider ∧
      u.exchange endpoint (exchangeBody env r provider upstreamReq) = .ok (status, .ok tokenRes) ∧
      assertedIdentity u provider upstreamReq r.now tokenRes = .ok (email, name) ∧
      (env.isPublic = true ∨ validUser email env.users = true) ∧
      addIdentToCookie env k r.now fails ((r.cookie (env.cookiePrefix ++ "login_key")).getD "")
        ⟨"email", email, provider.name, name, email, true⟩ = .ok (cookie, k') ∧
      callback env fails u k r = (callbackRedirect env r.method cookie returnUri, k') := by
  generalize hres : callback env fails u k r = res
  unfold callback at hres
  dsimp only at hres
  repeat' split at hres
  all_goals subst hres
  all_goals first
    | exact .inl ⟨rfl, by simp [deleteReturnUriCookie, clearCookie]⟩
    | refine .inr ⟨_, _, _, _, _, _, _, _, _, _, ‹_›, ‹_›, ‹_›, ‹_›, ?_, ‹_›, rfl⟩
  exact or_iff_not_imp_left.2 fun hp => by
    simpa [hp] using ‹¬(!env.isPublic && !validUser _ env.users) = true›

end Obligator.Upstream
