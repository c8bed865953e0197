import Obligator.Location
import Obligator.Upstream.Provenance

/-!
# The redirects, as their receivers read them

`/approve` sends the code to the relying party, `ParseAuthRequest` sends its errors there, and
`/login-oauth2` sends the user agent to the provider, each with a query that `fmt.Sprintf`
writes without escaping and that `http.Redirect` sends after resolving and escaping the URL.
Read with `url.Parse` and `url.ParseQuery`, each gives back exactly the parameters the handler
wrote, in order, when the values it copies from the request hold no byte that ends, spoils or
encodes a pair and the receiver can parse what `http.Redirect` sends for the bare base; for
the state of an error redirect the condition on the value is also necessary. `AuthUri`, which
a client builds the `/auth` URL with, is read back by `ParseAuthRequest` in the same way,
except for the code challenge it leaves out. The logins that complete redirect to the return
URI of the `return_uri` cookie, which `/login-fedcm` takes from its form as it is.
-/

namespace Obligator.Redirects

open Http Url Query Location Oidc Upstream CodeFlow Pkce

variable {env : Env} {fails : Fault → Bool} {k : Keyring} {r : Request} {target : String}

/-- The receiver's reading of a URL: `url.Parse`, then `url.ParseQuery` of the raw query. -/
def readQuery (target : String) : Except String (List (List Nat × List Nat)) :=
  (urlParse target).map fun u => parseQuery u.rawQuery

def pairs (ps : List (String × String)) : List (List Nat × List Nat) :=
  ps.map fun q => (bytes q.1, bytes q.2)

theorem readQuery_query {old R Q : String} {p : String × String} {ps : List (String × String)}
    (hold : Mounted old) (hR : QueryBase R) (hp : ∀ q ∈ p :: ps, QueryKey q.1 ∧ QuerySafe q.2)
    (hQ : bytes Q = joinQuery p ps) :
    readQuery (redirectTarget old (R ++ "?" ++ Q)) =
      (urlParse (redirectTarget old R)).map fun _ => pairs (p :: ps) := by
  have hq := joinQuery_sendable hp
  rw [← hQ] at hq
  rw [readQuery, readQuery_redirectTarget hold hR hq.1 hq.2, hQ, parseQuery_joinQuery _ _ hp]
  rfl

theorem bytes_codeQuery (authReq : Claims) (code : String) :
    bytes (codeQuery authReq code) =
      joinQuery ("client_id", claimFromToken "client_id" authReq)
        [("redirect_uri", claimFromToken "redirect_uri" authReq), ("code", code),
          ("state", claimFromToken "state" authReq), ("scope", claimFromToken "scope" authReq)] := by
  have h2 : bytes "client_id=" = bytes "client_id" ++ [byte '='] := rfl
  have h3 : bytes "&redirect_uri=" = byte '&' :: (bytes "redirect_uri" ++ [byte '=']) := rfl
  have h4 : bytes "&code=" = byte '&' :: (bytes "code" ++ [byte '=']) := rfl
  have h5 : bytes "&state=" = byte '&' :: (bytes "state" ++ [byte '=']) := rfl
  have h6 : bytes "&scope=" = byte '&' :: (bytes "scope" ++ [byte '=']) := rfl
  simp only [codeQuery, bytes_append, h2, h3, h4, h5, h6, joinQuery, pairBytes, List.flatMap_cons,
    List.flatMap_nil, List.append_nil, List.append_assoc, List.cons_append, List.singleton_append,
    List.nil_append]

/-- The code redirect of `/approve`, read by the relying party, gives exactly the five
parameters the handler writes: the envelope's client id and redirect URI, the code it signed,
and the envelope's state and scope. This holds when the redirect URI can take a query, the
four values copied from the envelope are query values, and the relying party can parse what
`http.Redirect` sends for the bare redirect URI. -/
theorem approve_code_query {err : Option String} {authReq : Claims}
    (hreq : getJwtFromCookie k (env.cookiePrefix ++ "auth_request") r = .ok authReq)
    (hrt : claimFromToken "response_type" authReq ≠ "none")
    (hbase : QueryBase (claimFromToken "redirect_uri" authReq))
    (hsafe : ∀ f ∈ ["client_id", "redirect_uri", "state", "scope"],
      QuerySafe (claimFromToken f authReq))
    (h : (approve env fails err k r).1.location = some target) :
    ∃ code identity signedIdToken,
      (approve env fails err k r).2.verify code =
        some (approvalCode r.now (approvalIdToken env r authReq identity) signedIdToken authReq) ∧
      readQuery target =
        (urlParse (redirectTarget "/approve" (claimFromToken "redirect_uri" authReq))).map fun _ =>
          pairs [("client_id", claimFromToken "client_id" authReq),
            ("redirect_uri", claimFromToken "redirect_uri" authReq), ("code", code),
            ("state", claimFromToken "state" authReq), ("scope", claimFromToken "scope" authReq)] := by
  obtain ⟨_, _, authReq', identity, hchk, code, sid, rfl, hcode, -⟩ := approve_location h
  obtain rfl : authReq = authReq' := Except.ok.inj (hreq.symm.trans (approveChecks_ok hchk).2.2.2.1)
  obtain ⟨n, rfl⟩ := Keyring.verify_compact hcode
  refine ⟨_, identity, sid, hcode, ?_⟩
  rw [approveTarget, if_neg hrt, codeRedirectUrl]
  refine readQuery_query (by decide) hbase ?_ (bytes_codeQuery _ _)
  simp only [List.forall_mem_cons, List.not_mem_nil, false_implies, implies_true, and_true]
    at hsafe ⊢
  exact ⟨⟨by decide, hsafe.1⟩, ⟨by decide, hsafe.2.1⟩, ⟨by decide, querySafe_compact n⟩,
    ⟨by decide, hsafe.2.2.1⟩, ⟨by decide, hsafe.2.2.2⟩⟩

def rpRequest : Claims :=
  authRequestClaims 1 "e0" ⟨"https://rp.example", "https://rp.example/cb", "openid", "s", "code", ""⟩
    rAuth

set_option maxRecDepth 2000 in
theorem approve_code_query_demo :
    ∃ code identity signedIdToken,
      (approve demoEnv noFaults afterAuth.err afterAuth.keyring rConsent).2.verify code =
        some (approvalCode rConsent.now (approvalIdToken demoEnv rConsent rpRequest identity)
          signedIdToken rpRequest) ∧
      readQuery ("https://rp.example/cb?client_id=https://rp.example" ++
          "&redirect_uri=https://rp.example/cb&code=e5&state=s&scope=openid") =
        (urlParse (redirectTarget "/approve" (claimFromToken "redirect_uri" rpRequest))).map fun _ =>
          pairs [("client_id", claimFromToken "client_id" rpRequest),
            ("redirect_uri", claimFromToken "redirect_uri" rpRequest), ("code", code),
            ("state", claimFromToken "state" rpRequest), ("scope", claimFromToken "scope" rpRequest)] :=
  approve_code_query (show getJwtFromCookie afterAuth.keyring "obligator_auth_request" rConsent =
      .ok rpRequest by decide) (by decide) (by decide) (by decide)
    (show (approve demoEnv noFaults afterAuth.err afterAuth.keyring rConsent).1.location =
      some _ by decide)

variable {u : Providers} {rnd : Random}

def authUri (serverUri : String) (authReq : OAuth2AuthRequest) : String :=
  serverUri ++ "?client_id=" ++ authReq.clientId ++ "&redirect_uri=" ++ authReq.redirectUri ++
    "&response_type=" ++ authReq.responseType ++ "&state=" ++ authReq.state ++ "&scope=" ++
    authReq.scope

/-- A request for `target` after `r.ParseForm()`: its form is the query of `target`, each key
and value as a string. -/
def FormOf (r : Request) (target : String) : Prop :=
  ∃ u, urlParse target = .ok u ∧ r.form = (parseQuery u.rawQuery).map fun q => (text q.1, text q.2)

theorem bytes_authUri (serverUri : String) (authReq : OAuth2AuthRequest) :
    bytes (authUri serverUri authReq) =
      bytes serverUri ++ byte '?' :: joinQuery ("client_id", authReq.clientId)
        [("redirect_uri", authReq.redirectUri), ("response_type", authReq.responseType),
          ("state", authReq.state), ("scope", authReq.scope)] := by
  have h1 : bytes "?client_id=" = byte '?' :: (bytes "client_id" ++ [byte '=']) := rfl
  have h2 : bytes "&redirect_uri=" = byte '&' :: (bytes "redirect_uri" ++ [byte '=']) := rfl
  have h3 : bytes "&response_type=" = byte '&' :: (bytes "response_type" ++ [byte '=']) := rfl
  have h4 : bytes "&state=" = byte '&' :: (bytes "state" ++ [byte '=']) := rfl
  have h5 : bytes "&scope=" = byte '&' :: (bytes "scope" ++ [byte '=']) := rfl
  simp only [authUri, bytes_append, h1, h2, h3, h4, h5, joinQuery, pairBytes, List.flatMap_cons,
    List.flatMap_nil, List.append_nil, List.append_assoc, List.cons_append, List.singleton_append,
    List.nil_append]

theorem authUri_form {serverUri : String} {ar : OAuth2AuthRequest}
    (hform : FormOf r (authUri serverUri ar)) (hbase : QueryBase serverUri)
    (hsafe : ∀ f ∈ [ar.clientId, ar.redirectUri, ar.responseType, ar.state, ar.scope], QuerySafe f) :
    r.form = [("client_id", ar.clientId), ("redirect_uri", ar.redirectUri),
      ("response_type", ar.responseType), ("state", ar.state), ("scope", ar.scope)] := by
  obtain ⟨u, hu, hf⟩ := hform
  simp only [List.forall_mem_cons, List.not_mem_nil, false_implies, implies_true, and_true] at hsafe
  have hq := urlParse_joinQuery hbase (by
    simp only [List.forall_mem_cons, List.not_mem_nil, false_implies, implies_true, and_true]
    exact ⟨⟨by decide, hsafe.1⟩, ⟨by decide, hsafe.2.1⟩, ⟨by decide, hsafe.2.2.1⟩,
      ⟨by decide, hsafe.2.2.2.1⟩, ⟨by decide, hsafe.2.2.2.2⟩⟩) (bytes_authUri serverUri ar)
  rw [hu] at hq
  cases hs : urlParse serverUri <;> rw [hs] at hq
  · cases hq
  · have hp : parseQuery u.rawQuery = _ := Except.ok.inj hq
    rw [hf, hp]
    simp [text_bytes]

/-- `AuthUri` writes a request that `ParseAuthRequest` reads back without its code challenge:
a request for its URL carries no `code_challenge` and no `nonce`, so the `auth_request` envelope
`/auth` signs for it binds neither. -/
theorem parseAuthRequest_authUri {serverUri : String} {ar : OAuth2AuthRequest}
    (hform : FormOf r (authUri serverUri ar)) (hbase : QueryBase serverUri)
    (hsafe : ∀ f ∈ [ar.clientId, ar.redirectUri, ar.responseType, ar.state, ar.scope], QuerySafe f)
    (hcid : ar.clientId ≠ "") (hred : ar.redirectUri ≠ "") (hrt : ar.responseType ≠ "")
    (hhost : ∃ h, hostOf ar.clientId = some h ∧ hostOf ar.redirectUri = some h) :
    parseAuthRequest {} r = .ok { ar with codeChallenge := "" } ∧
      r.formValue "code_challenge" = "" ∧ r.formValue "nonce" = "" := by
  have hf := authUri_form hform hbase hsafe
  obtain ⟨h, hc, hr⟩ := hhost
  obtain ⟨u, hu, rfl⟩ := hostOf_some hc
  obtain ⟨v, hv, huv⟩ := hostOf_some hr
  have hfv : r.formValue "client_id" = ar.clientId ∧ r.formValue "redirect_uri" = ar.redirectUri ∧
      r.formValue "response_type" = ar.responseType ∧ r.formValue "state" = ar.state ∧
      r.formValue "scope" = ar.scope ∧ r.formValue "prompt" = "" ∧
      r.formValue "code_challenge" = "" ∧ r.formValue "nonce" = "" := by
    simp only [Request.formValue, hf]
    exact ⟨rfl, rfl, rfl, rfl, rfl, rfl, rfl, rfl⟩
  obtain ⟨h₁, h₂, h₃, h₄, h₅, h₆, h₇, h₈⟩ := hfv
  refine ⟨?_, h₇, h₈⟩
  simp [parseAuthRequest, h₁, h₂, h₃, h₄, h₅, h₆, h₇, hcid, hred, hrt, hu, hv, huv]

def pkceRequest : OAuth2AuthRequest :=
  ⟨"https://rp.example", "https://rp.example/cb", "openid", "s", "code", "E9Mel"⟩

def rAuthUri : Request :=
  ⟨"GET", "idp.example", "/auth", "client_id=https://rp.example" ++
      "&redirect_uri=https://rp.example/cb&response_type=code&state=s&scope=openid",
    [("client_id", "https://rp.example"), ("redirect_uri", "https://rp.example/cb"),
      ("response_type", "code"), ("state", "s"), ("scope", "openid")], [], "", 1⟩

theorem parseAuthRequest_authUri_pkce :
    parseAuthRequest {} rAuthUri = .ok { pkceRequest with codeChallenge := "" } ∧
      rAuthUri.formValue "code_challenge" = "" ∧ rAuthUri.formValue "nonce" = "" :=
  parseAuthRequest_authUri
    (show FormOf rAuthUri (authUri "https://idp.example/auth" pkceRequest) from ⟨_, rfl, by decide⟩)
    (by decide) (by decide) (by decide) (by decide) (by decide) ⟨_, rfl, rfl⟩

theorem getReturnUriCookie_of_verify {v uri : String} {now : Nat}
    (hc : r.cookie (env.cookiePrefix ++ "return_uri") = some v)
    (hv : k.verify v = some (returnUriClaims now env.returnUriTtl uri))
    (hwin : now ≤ r.now ∧ r.now < now + env.returnUriTtl) :
    getReturnUriCookie env k r = .ok uri := by
  simp only [getReturnUriCookie, getJwtFromCookie, hc, (Keyring.parse_window hv rfl rfl).2 hwin]
  rfl

theorem completeLoginFedCm_location {u : Providers}
    (h : (completeLoginFedCm env fails u k r).1.location = some target) :
    ∃ k' uri, k.Extends k' ∧ getReturnUriCookie env k' r = .ok uri ∧
      target = redirectTarget "/complete-login-fedcm" uri := by
  generalize hres : completeLoginFedCm env fails u k r = res at h
  unfold completeLoginFedCm at hres
  dsimp only at hres
  repeat' split at hres
  all_goals subst hres
  all_goals first | (simp at h; done) | skip
  rename_i cookie k' hadd _ _ hret
  rw [Response.redirect_location _ _ _ _ (by simp [deleteReturnUriCookie, clearCookie]),
    Option.some.injEq] at h
  exact ⟨k', _, (addIdentToCookie_ok hadd).extends, hret, h.symm⟩

theorem callback_location {u : Providers}
    (h : (callback env fails u k r).1.location = some target) :
    ∃ uri, getReturnUriCookie env k r = .ok uri ∧ (target = redirectTarget "/callback" uri ∨
      target = redirectTarget "/callback" (env.domainToUri r.host ++ "/no-account?" ++ uri)) := by
  generalize hres : callback env fails u k r = res at h
  unfold callback at hres
  dsimp only at hres
  repeat' split at hres
  all_goals subst hres
  all_goals first | (simp [deleteReturnUriCookie, clearCookie] at h; done) | skip
  · rw [Response.redirect_location _ _ _ _ rfl, Option.some.injEq] at h
    exact ⟨_, ‹_›, .inr h.symm⟩
  · rw [Response.redirect_location _ _ _ _ (by simp [deleteReturnUriCookie, clearCookie]),
      Option.some.injEq] at h
    exact ⟨_, ‹_›, .inl h.symm⟩

/-- `/login-fedcm` does not look at the `return_uri` it is given: when the user agent carries
the cookie it sets back within its lifetime, to any key ring the server has grown since, a
`/complete-login-fedcm` that redirects sends it to exactly that URI, as `http.Redirect` sends
it, and a `/callback` to that URI or to the `/no-account` page with that URI as its query. -/
theorem loginFedCm_return_uri_followed {fails' : Fault → Bool} {u : Providers} {k₂ : Keyring}
    {r₁ : Request} (hk : (loginFedCm env fails k r₁).2.1.Extends k₂)
    (hc : r.cookie (env.cookiePrefix ++ "return_uri") = some (compact k.signed.length))
    (hwin : r₁.now ≤ r.now ∧ r.now < r₁.now + env.returnUriTtl) :
    ((completeLoginFedCm env fails' u k₂ r).1.location = some target →
        target = redirectTarget "/complete-login-fedcm" (r₁.formValue "return_uri")) ∧
      ((callback env fails' u k₂ r).1.location = some target →
        target = redirectTarget "/callback" (r₁.formValue "return_uri") ∨
          target = redirectTarget "/callback"
            (env.domainToUri r.host ++ "/no-account?" ++ r₁.formValue "return_uri")) := by
  have hsigned : (loginFedCm env fails k r₁).2.1.verify (compact k.signed.length) =
      some (returnUriClaims r₁.now env.returnUriTtl (r₁.formValue "return_uri")) := by
    unfold loginFedCm
    split <;> exact Keyring.verify_sign_self _ _
  have hv := hk.verify hsigned
  refine ⟨fun h => ?_, fun h => ?_⟩
  · obtain ⟨k', uri, hk', hret, rfl⟩ := completeLoginFedCm_location h
    rw [getReturnUriCookie_of_verify hc (hk'.verify hv) hwin] at hret
    rw [Except.ok.inj hret]
  · obtain ⟨uri, hret, htarget⟩ := callback_location h
    rw [getReturnUriCookie_of_verify hc hv hwin] at hret
    rwa [Except.ok.inj hret]

def rFedCmPhish : Request :=
  ⟨"GET", "idp.example", "/login-fedcm", "", [("return_uri", "https://evil.example/phish")], [],
    "", 1⟩

theorem loginFedCm_return_uri_followed_phish :
    "https://evil.example/phish" =
      redirectTarget "/complete-login-fedcm" (rFedCmPhish.formValue "return_uri") :=
  (loginFedCm_return_uri_followed
    (Keyring.Extends.refl (loginFedCm fedEnv noFaults ⟨[]⟩ rFedCmPhish).2.1)
    (show rFedCmComplete.cookie (fedEnv.cookiePrefix ++ "return_uri") =
      some (compact (⟨[]⟩ : Keyring).signed.length) from rfl) (by decide)).1
    (show (completeLoginFedCm fedEnv noFaults evilWorld
      (loginFedCm fedEnv noFaults ⟨[]⟩ rFedCmPhish).2.1 rFedCmComplete).1.location =
        some "https://evil.example/phish" by decide)

end Obligator.Redirects
