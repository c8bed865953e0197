import Obligator.CodeFlow

/-!
# What the upstream logins append to a session

`/callback` and `/complete-login-fedcm` end by signing a session envelope that appends one
identity, built from what the upstream step asserted, and by setting it as the `login_key`
cookie. The spec lemmas of this module say which identity; the theorems read off what its
email rests on, whether a closed server's allow-list was consulted, and whether the email
can be empty.
-/

namespace Obligator.Upstream

open Http Url Oidc CodeFlow

/-- The response sets a `login_key` cookie. -/
def SetsSession (env : Env) (w : Response) : Prop :=
  ∃ c ∈ w.setCookies, c.name = env.cookiePrefix ++ "login_key"

/-- Every `login_key` cookie the response sets is a session envelope of the key ring the
handler leaves, whose identities are those it carried over with `ident` appended. -/
def Appends (env : Env) (res : Response × Keyring) (ident : Identity) : Prop :=
  ∀ c ∈ res.1.setCookies, c.name = env.cookiePrefix ++ "login_key" →
    ∃ now idents logins, res.2.verify c.value =
      some (sessionClaims now env.loginKeyTtl (appendIdentity idents ident) logins)

/-- What the email of `/callback`'s identity rests on: for an OpenID Connect provider, the
email claim of an ID token verified under the provider's key set that carries the stored
nonce; for GitHub, the first primary entry of the user's emails; otherwise nothing. -/
def Asserted (u : Providers) (provider : OAuth2Provider) (upstreamReq : Claims) (now : Nat)
    (tokenRes : OAuth2TokenResponse) (email : String) : Prop :=
  (provider.openIdConnect = true ∧ ∃ keyset idToken, u.keyset provider.id = .ok keyset ∧
    u.parse keyset now tokenRes.idToken = .ok idToken ∧
    idToken.lookup "nonce" = some (.str (claimFromToken "nonce" upstreamReq)) ∧
    email = Obligator.email idToken) ∨
  (provider.openIdConnect = false ∧ provider.id = "github" ∧ ∃ emails e,
    u.userEmails tokenRes.accessToken = .ok (200, .ok emails) ∧
    emails.find? (·.primary) = some e ∧ email = e.email) ∨
  (provider.openIdConnect = false ∧ email = "")

variable {env : Env} {fails : Fault → Bool} {u : Providers} {k : Keyring} {r : Request}

theorem getProfile_ok {provider : OAuth2Provider} {accessToken uri email : String}
    (h : getProfile u provider accessToken = .ok (uri, email)) :
    provider.id = "github" ∧ ∃ emails e, u.userEmails accessToken = .ok (200, .ok emails) ∧
      emails.find? (·.primary) = some e ∧ email = e.email := by
  unfold getProfile at h
  split_ifs at h with hgh
  refine ⟨hgh, ?_⟩
  split at h
  · cases h
  · rename_i status decoded hue
    split_ifs at h with hst
    split at h
    · cases h
    · split at h
      · rename_i e hfind
        cases h
        exact ⟨_, e, by rw [hue, not_not.1 hst], hfind, rfl⟩
      · cases h

theorem assertedIdentity_ok {provider : OAuth2Provider} {upstreamReq : Claims} {now : Nat}
    {tokenRes : OAuth2TokenResponse} {email name : String}
    (h : assertedIdentity u provider upstreamReq now tokenRes = .ok (email, name)) :
    Asserted u provider upstreamReq now tokenRes email := by
  unfold assertedIdentity at h
  split_ifs at h with hoidc
  · left
    refine ⟨hoidc, ?_⟩
    repeat' split at h
    all_goals cases h
    exact ⟨_, _, ‹_›, ‹_›, by simp_all, rfl⟩
  · right
    split at h
    · cases h
      exact .inl ⟨by simpa using hoidc, getProfile_ok ‹_›⟩
    · cases h
      exact .inr ⟨by simpa using hoidc, rfl⟩

theorem callback_sets_session (h : SetsSession env (callback env fails u k r).1) :
    ∃ upstreamReq provider tokenRes email name,
      getJwtFromCookie k (env.cookiePrefix ++ "upstream_oauth2_request") r = .ok upstreamReq ∧
      env.providerById (claimFromToken "provider_id" upstreamReq) = .ok provider ∧
      (∃ endpoint status, u.exchange endpoint (exchangeBody env r provider upstreamReq) =
        .ok (status, .ok tokenRes)) ∧
      assertedIdentity u provider upstreamReq r.now tokenRes = .ok (email, name) ∧
      (env.isPublic = true ∨ validUser email env.users = true) ∧
      Appends env (callback env fails u k r) ⟨"email", email, provider.name, name, email, true⟩ := by
  obtain ⟨c, hc, hn⟩ := h
  rcases callback_cases env fails u k r with ⟨-, hfail⟩ |
    ⟨upstreamReq, provider, endpoint, status, tokenRes, email, name, returnUri, cookie, k', hj, hp,
      hx, ha, hgate, hadd, hres⟩
  · cases hfail c hc
    simp at hn
  · obtain ⟨-, idents, logins, hv⟩ := addIdentToCookie_session hadd
    refine ⟨upstreamReq, provider, tokenRes, email, name, hj, hp, ⟨endpoint, status, hx⟩, ha, hgate,
      fun c hc hn => ?_⟩
    simp only [hres, callbackRedirect_setCookies, List.mem_cons, List.mem_singleton,
      List.not_mem_nil, or_false] at hc
    rcases hc with rfl | rfl | rfl
    · simp at hn
    · exact ⟨r.now, idents, logins, by rw [hres]; exact hv⟩
    · simp at hn

def fresh : Server := ⟨⟨[]⟩, none⟩

theorem fresh_reachable (env : Env) : Reachable env fresh :=
  .boot _ fun _ hc => absurd hc (List.not_mem_nil _)

def forgedClaims : Claims :=
  [("iss", .str "https://evil.example"), ("aud", .strs ["https://idp.example"]),
    ("email", .str "victim@example.com"), ("email_verified", .bool false), ("iat", .time 0),
    ("exp", .time 100)]

def evilWorld : Providers where
  meta _ := .error "no metadata"
  keyset _ := .error "no key set"
  exchange _ _ := .error "unreachable"
  userEmails _ := .error "unreachable"
  oidcConfig iss := .ok ⟨iss ++ "/auth", iss ++ "/token", iss ++ "/jwks"⟩
  jwks uri := .ok uri
  decode tok := if tok = "forged" then .ok forgedClaims else .error "malformed"
  signedBy keyset tok := keyset = "https://evil.example/jwks" && tok = "forged"

def victimIdent : Identity :=
  ⟨"email", "victim@example.com", "https://evil.example", "", "victim@example.com", true⟩

def rFedCmStart : Request :=
  ⟨"GET", "idp.example", "/login-fedcm", "", [("return_uri", "/auth?client_id=x")], [], "", 1⟩

def rFedCmComplete : Request :=
  ⟨"POST", "idp.example", "/complete-login-fedcm", "", [("fedcm-token", "forged")],
    [("obligator_return_uri", "e0")], "", 2⟩

def fedEnv : Env := { demoEnv with fedCm := true }

def chooserShown (env : Env) : Server := (fresh.serve env noFaults rFedCmStart .loginFedCm).2

def closedEnv : Env :=
  { demoEnv with isPublic := false, users := [⟨"bob@example.com"⟩], fedCm := true }

/-- On a closed server, `/complete-login-fedcm` appends an email outside the allow-list. -/
theorem fedcm_bypasses_allow_list :
    Reachable closedEnv (chooserShown closedEnv) ∧ closedEnv.isPublic = false ∧
      validUser "victim@example.com" closedEnv.users = false ∧
      loginKeyCookie closedEnv "e1" ∈ ((chooserShown closedEnv).serve closedEnv noFaults
        rFedCmComplete (.completeLoginFedCm evilWorld)).1.setCookies ∧
      ((chooserShown closedEnv).serve closedEnv noFaults rFedCmComplete
        (.completeLoginFedCm evilWorld)).2.keyring.verify "e1" =
        some (sessionClaims 2 3600 [victimIdent] []) :=
  ⟨.step _ _ _ rfl (fresh_reachable _), rfl, rfl, by decide, by decide⟩

def gitlab : OAuth2Provider :=
  ⟨"gitlab", "GitLab", "https://gitlab.example", "obligator", "secret",
    "https://gitlab.example/oauth/authorize", "https://gitlab.example/oauth/token", "read_user",
    false⟩

def gitEnv : Env := { demoEnv with providers := [gitlab] }

def gitlabWorld : Providers where
  meta _ := .error "no metadata"
  keyset _ := .error "no key set"
  exchange _ _ := .ok (200, .ok ⟨"at", ""⟩)
  userEmails _ := .error "unreachable"
  oidcConfig _ := .error "unreachable"
  jwks _ := .error "unreachable"
  decode _ := .error "malformed"
  signedBy _ _ := false

def gitlabRandom : Random := ⟨fun _ => .ok 0, .ok "st", .ok "nn"⟩

def rAuthAnon : Request :=
  ⟨"GET", "idp.example", "/auth", "client_id=https://rp.example",
    [("client_id", "https://rp.example"), ("redirect_uri", "https://rp.example/cb"),
      ("response_type", "code")], [], "", 1⟩

def rLoginGitlab : Request :=
  ⟨"GET", "idp.example", "/login-oauth2", "", [("oauth2_provider_id", "gitlab")], [], "", 2⟩

def rCallbackUpstream : Request :=
  ⟨"GET", "idp.example", "/callback", "", [("code", "c"), ("state", "st")],
    [("obligator_upstream_oauth2_request", "e2"), ("obligator_return_uri", "e1")], "", 3⟩

def gitlabLoggingIn : Server :=
  ((fresh.serve gitEnv noFaults rAuthAnon .auth).2.serve gitEnv noFaults rLoginGitlab
    (.loginOAuth2 gitlabWorld gitlabRandom)).2

/-- With a provider `GetProfile` cannot serve, `/callback` discards the profile error and
appends an identity whose `Id` and email are empty, then redirects. -/
theorem callback_appends_empty_identity :
    Reachable gitEnv gitlabLoggingIn ∧
      getProfile gitlabWorld gitlab "at" = .error "Unknown GetProfile error" ∧
      (gitlabLoggingIn.serve gitEnv noFaults rCallbackUpstream (.callback gitlabWorld)).1.code = 303 ∧
      loginKeyCookie gitEnv "e3" ∈
        (gitlabLoggingIn.serve gitEnv noFaults rCallbackUpstream (.callback gitlabWorld)).1.setCookies ∧
      (gitlabLoggingIn.serve gitEnv noFaults rCallbackUpstream (.callback gitlabWorld)).2.keyring.verify
        "e3" = some (sessionClaims 3 3600 [⟨"email", "", "GitLab", "", "", true⟩] []) :=
  ⟨.step _ _ _ rfl (.step _ _ _ rfl (fresh_reachable _)), rfl, by decide, by decide, by decide⟩

/-- On a closed server `/callback` appends only an email of the allow-list. -/
theorem callback_appends_allowed_email {env : Env} {fails : Fault → Bool} {u : Providers}
    {k : Keyring} {r : Request} (hclosed : env.isPublic = false)
    (h : SetsSession env (callback env fails u k r).1) :
    ∃ email name providerName, validUser email env.users = true ∧
      Appends env (callback env fails u k r) ⟨"email", email, providerName, name, email, true⟩ := by
  obtain ⟨-, provider, -, email, name, -, -, -, -, hgate, happ⟩ := callback_sets_session h
  exact ⟨email, name, provider.name, hgate.resolve_left (by simp [hclosed]), happ⟩

def github : OAuth2Provider :=
  ⟨"github", "GitHub", "https://github.example", "obligator", "secret",
    "https://github.example/login/oauth/authorize", "https://github.example/login/oauth/access_token",
    "user:email", false⟩

def closedGitEnv : Env :=
  { demoEnv with isPublic := false, users := [⟨"bob@example.com"⟩], providers := [github] }

def githubWorld : Providers :=
  { gitlabWorld with userEmails := fun _ => .ok (200, .ok [⟨"bob@example.com", true, true⟩]) }

def rLoginGithub : Request :=
  ⟨"GET", "idp.example", "/login-oauth2", "", [("oauth2_provider_id", "github")], [], "", 2⟩

def githubLoggingIn : Server :=
  ((fresh.serve closedGitEnv noFaults rAuthAnon .auth).2.serve closedGitEnv noFaults rLoginGithub
    (.loginOAuth2 githubWorld gitlabRandom)).2

theorem callback_appends_allowed_email_demo :
    ∃ email name providerName, validUser email closedGitEnv.users = true ∧
      Appends closedGitEnv
        (callback closedGitEnv noFaults githubWorld githubLoggingIn.keyring rCallbackUpstream)
        ⟨"email", email, providerName, name, email, true⟩ :=
  callback_appends_allowed_email rfl ⟨loginKeyCookie closedGitEnv "e3", by decide, rfl⟩

end Obligator.Upstream
