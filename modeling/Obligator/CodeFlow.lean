import Obligator.Invariant

/-!
# The downstream code flow

What `/approve`, `/token` and `/userinfo` deliver in every reachable state. `/approve` reads
its client from whatever server-signed envelope the `auth_request` cookie carries; the
invariant of `Obligator.Invariant` says every such envelope names a redirect URI on its
client's host, and that a code's challenge goes back to an `/auth` request. A small
deployment at the start of the module gives the runs the witnesses and counterexamples
evaluate.
-/

namespace Obligator.CodeFlow

open Http Url Oidc Pkce

def demoEnv : Env where
  cookiePrefix := "obligator_"
  rootUri := "https://idp.example"
  signingKey := true
  providers := []
  users := []
  isPublic := true
  fedCm := false
  forwardAuthPassthrough := false
  loginKeyTtl := 3600
  returnUriTtl := 480
  sha256 := fun _ => []
  hash := id
  domainToUri := fun h => "https://" ++ h

def noFaults : Fault → Bool := fun _ => false

def alice : Identity := ⟨"email", "alice@example.com", "Example", "", "alice@example.com", true⟩

def boot : Server := ⟨⟨[sessionClaims 0 3600 [alice] []]⟩, none⟩

theorem boot_sessionsOnly : SessionsOnly boot.keyring :=
  fun c hc => ⟨0, 3600, [alice], [], List.cons_ne_nil _ _, by simpa [boot] using hc⟩

theorem boot_reachable : Reachable demoEnv boot := .boot _ boot_sessionsOnly

def aliceRequest (method path : String) (form cookies : List (String × String)) (now : Nat) :
    Request :=
  ⟨method, "idp.example", path, "", form, ("obligator_login_key", "e0") :: cookies, "", now⟩

def rAuth : Request :=
  aliceRequest "GET" "/auth" [("client_id", "https://rp.example"),
    ("redirect_uri", "https://rp.example/cb"), ("response_type", "code"), ("scope", "openid"),
    ("state", "s")] [] 1

def rConsent : Request :=
  aliceRequest "POST" "/approve" [("identity_id", "alice@example.com")]
    [("obligator_auth_request", "e1")] 2

def rRedeem : Request := ⟨"POST", "rp.example", "/token", "", [("code", "e5")], [], "", 3⟩

def rUserinfo : Request := ⟨"GET", "rp.example", "/userinfo", "", [], [], "Bearer e6", 4⟩

def afterAuth : Server := (boot.serve demoEnv noFaults rAuth .auth).2

def afterConsent : Server := (afterAuth.serve demoEnv noFaults rConsent .approve).2

def afterRedeem : Server := (afterConsent.serve demoEnv noFaults rRedeem .token).2

theorem afterAuth_reachable : Reachable demoEnv afterAuth := .step _ _ _ rfl boot_reachable

theorem afterConsent_reachable : Reachable demoEnv afterConsent := .step _ _ _ rfl afterAuth_reachable

variable {env : Env} {s : Server} {fails : Fault → Bool} {r : Request} {target : String}

/-- The redirect of `/approve` read against the `auth_request` envelope: what `http.Redirect`
sends for the bare redirect URI under `response_type=none`, or for the redirect URI followed by
a query that carries a code whose ID token is for the envelope's client. -/
def DeliversCodeFor (k : Keyring) (authReq : Claims) (target : String) : Prop :=
  (claimFromToken "response_type" authReq = "none" ∧
    target = redirectTarget "/approve" (claimFromToken "redirect_uri" authReq)) ∨
  (claimFromToken "response_type" authReq ≠ "none" ∧ ∃ code c idToken,
    target = redirectTarget "/approve"
      (claimFromToken "redirect_uri" authReq ++ "?" ++ codeQuery authReq code) ∧
    k.verify code = some c ∧ k.verify (claimFromToken "id_token" c) = some idToken ∧
    idToken.lookup "aud" = some (.strs [claimFromToken "client_id" authReq]))

theorem approveTarget_delivers {k : Keyring} {authReq : Claims} {identity : Identity}
    {code signedIdToken : String} (now : Nat)
    (hcode : k.verify code = some (approvalCode now (approvalIdToken env r authReq identity)
      signedIdToken authReq))
    (hid : k.verify signedIdToken = some (approvalIdToken env r authReq identity)) :
    DeliversCodeFor k authReq (redirectTarget "/approve" (approveTarget authReq code)) := by
  unfold approveTarget
  split_ifs with hrt
  · exact .inl ⟨hrt, rfl⟩
  · exact .inr ⟨hrt, code, _, _, rfl, hcode, hid, rfl⟩

/-- In every reachable state, a redirect of `/approve` goes to the redirect URI of the
`auth_request` envelope the request presented, that URI is on the host of the envelope's
client, and a code it carries wraps an ID token for that client. -/
theorem approve_redirect_bound_to_client (hs : Reachable env s)
    (h : (s.serve env fails r .approve).1.location = some target) :
    ∃ authReq, getJwtFromCookie s.keyring (env.cookiePrefix ++ "auth_request") r = .ok authReq ∧
      hostOf (claimFromToken "redirect_uri" authReq) = hostOf (claimFromToken "client_id" authReq) ∧
      DeliversCodeFor (s.serve env fails r .approve).2.keyring authReq target := by
  obtain ⟨_, _, authReq, _, hchk, _, _, rfl, hcode, hid⟩ := approve_location h
  have hreq := (approveChecks_ok hchk).2.2.2.1
  exact ⟨authReq, hreq, (hs.inv.minted _ (getJwtFromCookie_mem hreq)).host,
    approveTarget_delivers r.now hcode hid⟩

set_option maxRecDepth 2000 in
theorem approve_redirect_bound_to_client_demo :
    ∃ authReq, getJwtFromCookie afterAuth.keyring "obligator_auth_request" rConsent = .ok authReq ∧
      hostOf (claimFromToken "redirect_uri" authReq) = hostOf (claimFromToken "client_id" authReq) ∧
      DeliversCodeFor afterConsent.keyring authReq
        ("https://rp.example/cb?client_id=https://rp.example&redirect_uri=https://rp.example/cb" ++
          "&code=e5&state=s&scope=openid") :=
  approve_redirect_bound_to_client afterAuth_reachable
    (show (afterAuth.serve demoEnv noFaults rConsent .approve).1.location = some _ by decide)

def rAuthRelative : Request :=
  aliceRequest "GET" "/auth" [("client_id", "rp"), ("redirect_uri", "cb"),
    ("response_type", "code"), ("scope", "openid"), ("state", "s")] [] 1

def afterRelativeAuth : Server := (boot.serve demoEnv noFaults rAuthRelative .auth).2

/-- `http.Redirect` resolves the relative redirect URI `cb` against `/approve`: the code goes
to `/cb?...`, which is not `cb` followed by a query. -/
theorem approve_redirect_resolves_relative_uri :
    Reachable demoEnv afterRelativeAuth ∧ ∃ authReq,
      getJwtFromCookie afterRelativeAuth.keyring "obligator_auth_request" rConsent = .ok authReq ∧
      (afterRelativeAuth.serve demoEnv noFaults rConsent .approve).1.location =
        some "/cb?client_id=rp&redirect_uri=cb&code=e5&state=s&scope=openid" ∧
      ∀ q, "/cb?client_id=rp&redirect_uri=cb&code=e5&state=s&scope=openid" ≠
        claimFromToken "redirect_uri" authReq ++ "?" ++ q := by
  refine ⟨.step _ _ _ rfl boot_reachable, _,
    (by decide : _ = .ok (afterRelativeAuth.keyring.signed.getD 1 [])), by decide, fun q h => ?_⟩
  rw [show claimFromToken "redirect_uri" (afterRelativeAuth.keyring.signed.getD 1 []) = "cb" by
    decide] at h
  simpa [String.data_append] using congrArg String.data h

/-- In every reachable state, every envelope the server has signed names a redirect URI on
the host of its client. -/
theorem signed_envelope_hosts_agree (hs : Reachable env s) :
    ∀ c ∈ s.keyring.signed,
      hostOf (claimFromToken "redirect_uri" c) = hostOf (claimFromToken "client_id" c) :=
  fun c hc => (hs.inv.minted c hc).host

theorem signed_envelope_hosts_agree_demo :
    hostOf (claimFromToken "redirect_uri" (afterAuth.keyring.signed.getD 1 [])) =
      hostOf (claimFromToken "client_id" (afterAuth.keyring.signed.getD 1 [])) :=
  signed_envelope_hosts_agree afterAuth_reachable _ (by decide)

/-- The claims of the ID token `/approve` issues for `identity` on the envelope `authReq`. -/
structure IdTokenFor (env : Env) (authReq : Claims) (identity : Identity) (idToken : Claims) :
    Prop where
  sub : idToken.lookup "sub" = some (.str identity.id)
  aud : idToken.lookup "aud" = some (.strs [claimFromToken "client_id" authReq])
  nonce : idToken.lookup "nonce" = some (.str (claimFromToken "nonce" authReq))
  iss : idToken.lookup "iss" = some (.str env.rootUri)
  email : idToken.lookup "email" =
    if scopeHas (claimFromToken "scope" authReq) "email" then some (.str identity.email) else none
  emailVerified : idToken.lookup "email_verified" =
    if scopeHas (claimFromToken "scope" authReq) "email" then some (.bool identity.emailVerified)
    else none
  name : idToken.lookup "name" =
    if scopeHas (claimFromToken "scope" authReq) "profile" ∧ identity.name ≠ "" then
      some (.str identity.name)
    else none

theorem approvalIdToken_for {authReq : Claims} {identity : Identity}
    (hid : identity.id = r.formValue "identity_id") :
    IdTokenFor env authReq identity (approvalIdToken env r authReq identity) := by
  obtain ⟨hsub, haud, hiss, hnonce, hemail, hev, hname⟩ :=
    idTokenClaims_lookup (r.formValue "identity_id") (claimFromToken "client_id" authReq)
      env.rootUri (claimFromToken "nonce" authReq) r.now identity
      (scopeHas (claimFromToken "scope" authReq) "email")
      (scopeHas (claimFromToken "scope" authReq) "profile")
  exact ⟨hid ▸ hsub, haud, hnonce, hiss, hemail, hev, hname⟩

/-- A redirect of `/approve` delivers a code whose ID token is for an identity of the session
cookie the request presented and verified, named by `identity_id`, with the optional claims
the `auth_request` envelope's scope asks for. -/
theorem approve_id_token_claims {err : Option String} {k : Keyring}
    (h : (approve env fails err k r).1.location = some target) :
    ∃ loginKey session identity authReq code c idToken,
      r.cookie (env.cookiePrefix ++ "login_key") = some loginKey ∧
      k.parse r.now loginKey = .ok session ∧
      identity ∈ identitiesOf session ∧ identity.id = r.formValue "identity_id" ∧
      getJwtFromCookie k (env.cookiePrefix ++ "auth_request") r = .ok authReq ∧
      target = redirectTarget "/approve" (approveTarget authReq code) ∧
      (approve env fails err k r).2.verify code = some c ∧
      (approve env fails err k r).2.verify (claimFromToken "id_token" c) = some idToken ∧
      IdTokenFor env authReq identity idToken := by
  obtain ⟨loginKey, session, authReq, identity, hchk, code, _, ht, hcode, hid⟩ := approve_location h
  obtain ⟨-, hcookie, hparse, hreq, hfind⟩ := approveChecks_ok hchk
  obtain ⟨hmem, hidv⟩ := findIdentity_some hfind
  exact ⟨loginKey, session, identity, authReq, code, _, _, hcookie, hparse, hmem, hidv, hreq, ht,
    hcode, hid, approvalIdToken_for hidv⟩

set_option maxRecDepth 2000 in
theorem approve_id_token_claims_demo :
    ∃ loginKey session identity authReq code c idToken,
      rConsent.cookie "obligator_login_key" = some loginKey ∧
      afterAuth.keyring.parse 2 loginKey = .ok session ∧
      identity ∈ identitiesOf session ∧ identity.id = "alice@example.com" ∧
      getJwtFromCookie afterAuth.keyring "obligator_auth_request" rConsent = .ok authReq ∧
      "https://rp.example/cb?client_id=https://rp.example&redirect_uri=https://rp.example/cb" ++
        "&code=e5&state=s&scope=openid" = redirectTarget "/approve" (approveTarget authReq code) ∧
      afterConsent.keyring.verify code = some c ∧
      afterConsent.keyring.verify (claimFromToken "id_token" c) = some idToken ∧
      IdTokenFor demoEnv authReq identity idToken :=
  approve_id_token_claims
    (show (approve demoEnv noFaults none afterAuth.keyring rConsent).1.location = some _ by decide)

/-- What a code `/token` redeems is: a code `/approve` signed around an ID token the server
signed, from an envelope the server signed, whose challenge goes back to an `/auth` request
(or is empty) and accepts the request's verifier. -/
structure Redeemed (env : Env) (k : Keyring) (r : Request) (code : Claims) : Prop where
  parsed : k.parse r.now (r.formValue "code") = .ok code
  minted : ∃ now idToken signedIdToken authReq,
    code = approvalCode now idToken signedIdToken authReq ∧
    k.verify signedIdToken = some idToken ∧ authReq ∈ k.signed
  traced : Traced k (claimFromToken "pkce_code_challenge" code)
  verifier : claimFromToken "pkce_code_challenge" code ≠ "" →
    generatePKCECodeChallenge env (r.formValue "code_verifier") =
      claimFromToken "pkce_code_challenge" code
  noVerifier : claimFromToken "pkce_code_challenge" code = "" → r.formValue "code_verifier" = ""

/-- In every reachable state, `/token` returns tokens only for a code it redeems. -/
theorem token_code_pkce_traced {doc : List (String × Json)} (hs : Reachable env s)
    (h : (s.serve env fails r .token).1.json = some doc) :
    ∃ code, Redeemed env s.keyring r code := by
  obtain ⟨code, _, _, hparse, hid, hch, hpkce, -⟩ := token_json h
  have hm := hs.inv.minted _ (Keyring.parse_mem hparse)
  obtain ⟨now, idt, authReq, rfl, hv, hreq, -⟩ := hm.code_of_id_token hid
  cases hch
  exact ⟨_, hparse, ⟨now, idt, _, authReq, rfl, hv, hreq⟩,
    hs.inv.traced _ (Keyring.parse_mem hparse), (pkceRefusal_eq_none.1 hpkce).1,
    (pkceRefusal_eq_none.1 hpkce).2⟩

theorem token_code_pkce_traced_demo : ∃ code, Redeemed demoEnv afterConsent.keyring rRedeem code :=
  token_code_pkce_traced afterConsent_reachable
    (show (afterConsent.serve demoEnv noFaults rRedeem .token).1.json = some (tokenResponse "e6" "e4")
      by decide)

def rConsentWithoutAuth : Request :=
  aliceRequest "POST" "/approve" [("identity_id", "alice@example.com")]
    [("obligator_auth_request", "e0")] 1

def rRedeemWithoutAuth : Request := ⟨"POST", "rp.example", "/token", "", [("code", "e3")], [], "", 2⟩

/-- `/token` redeems a code minted from no `auth_request` envelope of `/auth`: the server has
signed none when the code is redeemed. -/
theorem token_redeems_code_without_auth_request :
    let s := (boot.serve demoEnv noFaults rConsentWithoutAuth .approve).2
    Reachable demoEnv s ∧
      (s.serve demoEnv noFaults rRedeemWithoutAuth .token).1.json = some (tokenResponse "e4" "e2") ∧
      ¬∃ now hashed ar r, authRequestClaims now hashed ar r ∈ s.keyring.signed := by
  refine ⟨.step _ _ _ rfl boot_reachable, by decide, ?_⟩
  rintro ⟨now, hashed, ar, r, hm⟩
  have hnone : ∀ c ∈ (boot.serve demoEnv noFaults rConsentWithoutAuth .approve).2.keyring.signed,
      c.lookup "redirect_uri" = none := by decide
  cases hnone _ hm

/-- In every reachable state `/token` redeems a code only within sixteen seconds of the
`/approve` that signed it. -/
theorem token_code_fresh {doc : List (String × Json)} (hs : Reachable env s)
    (h : (s.serve env fails r .token).1.json = some doc) :
    ∃ now idToken signedIdToken authReq, s.keyring.parse r.now (r.formValue "code") =
      .ok (approvalCode now idToken signedIdToken authReq) ∧ now ≤ r.now ∧ r.now < now + 16 := by
  obtain ⟨code, _, _, hparse, hid, -⟩ := token_json h
  obtain ⟨now, idt, authReq, rfl, -⟩ :=
    (hs.inv.minted _ (Keyring.parse_mem hparse)).code_of_id_token hid
  exact ⟨now, idt, _, authReq, hparse,
    (Keyring.parse_window (Keyring.parse_verify hparse) rfl rfl).1 hparse⟩

theorem token_code_fresh_demo :
    ∃ now idToken signedIdToken authReq, afterConsent.keyring.parse rRedeem.now
      (rRedeem.formValue "code") = .ok (approvalCode now idToken signedIdToken authReq) ∧
      now ≤ rRedeem.now ∧ rRedeem.now < now + 16 :=
  token_code_fresh afterConsent_reachable
    (show (afterConsent.serve demoEnv noFaults rRedeem .token).1.json = some (tokenResponse "e6" "e4")
      by decide)

/-- A code `/token` redeemed redeems again in the state it leaves, with the same verifier, at
any time up to sixteen seconds after its signing. -/
theorem token_code_replayable {doc : List (String × Json)} (hs : Reachable env s)
    (h : (s.serve env fails r .token).1.json = some doc) :
    ∃ iat, iat ≤ r.now ∧ ∀ r' : Request, r'.formValue "code" = r.formValue "code" →
      r'.formValue "code_verifier" = r.formValue "code_verifier" → iat ≤ r'.now →
      r'.now < iat + 16 → ((s.serve env fails r .token).2.serve env fails r' .token).1.json.isSome := by
  obtain ⟨code, _, _, hparse, hid, hch, hpkce, -⟩ := token_json h
  obtain ⟨iat, idt, authReq, rfl, -⟩ :=
    (hs.inv.minted _ (Keyring.parse_mem hparse)).code_of_id_token hid
  have hv := Keyring.parse_verify hparse
  refine ⟨iat, ((Keyring.parse_window hv rfl rfl).1 hparse).1, fun r' hc hcv h1 h2 => ?_⟩
  have hv' := (token_signs env fails s.keyring r).extends.verify hv
  rw [← hc] at hv'
  have hfirst : (token env fails s.keyring r).1.json.isSome = _ :=
    token_json_isSome hparse hid hch hpkce
  show (token env fails (token env fails s.keyring r).2 r').1.json.isSome
  rw [token_json_isSome ((Keyring.parse_window hv' rfl rfl).2 ⟨h1, h2⟩) hid hch (hcv ▸ hpkce),
    ← hfirst]
  simp [show (token env fails s.keyring r).1.json = some doc from h]

theorem token_code_replayable_demo :
    ∃ iat, iat ≤ rRedeem.now ∧ ∀ r' : Request, r'.formValue "code" = rRedeem.formValue "code" →
      r'.formValue "code_verifier" = rRedeem.formValue "code_verifier" → iat ≤ r'.now →
      r'.now < iat + 16 →
      ((afterConsent.serve demoEnv noFaults rRedeem .token).2.serve demoEnv noFaults r'
        .token).1.json.isSome :=
  token_code_replayable afterConsent_reachable
    (show (afterConsent.serve demoEnv noFaults rRedeem .token).1.json = some (tokenResponse "e6" "e4")
      by decide)

theorem split_bearer (n : Nat) : split ("Bearer " ++ compact n) ' ' = ["Bearer", compact n] :=
  @split_join "Bearer" (compact n) ' ' (by decide) (space_not_mem_compact n)

/-- After a redemption in a reachable state, `/userinfo` on the access token it returned
answers, in every later key ring, with the email claim of the ID token it returned. That ID
token was built for an identity and for an `auth_request` envelope the server signed: its
subject is the identity's Id, and its email claim, there only when the envelope's scope asks
for `email`, is the identity's Email. So the two subjects agree exactly when that Email, or the
empty string without `email` in the scope, is the Id. -/
theorem userinfo_sub_is_id_token_email {doc info : List (String × Json)} {k : Keyring}
    {r' : Request} {accessToken : String} (hs : Reachable env s)
    (htok : (s.serve env fails r .token).1.json = some doc)
    (hext : (s.serve env fails r .token).2.keyring.Extends k)
    (hacc : doc.lookup "access_token" = some (.str accessToken))
    (hauth : r'.authorization = "Bearer " ++ accessToken)
    (hinfo : (userinfo k r').json = some info) :
    ∃ signedIdToken idToken authReq, ∃ identity : Identity,
      doc.lookup "id_token" = some (.str signedIdToken) ∧
      k.verify signedIdToken = some idToken ∧ authReq ∈ s.keyring.signed ∧
      info.lookup "sub" = some (.str (email idToken)) ∧
      email idToken =
        (if scopeHas (claimFromToken "scope" authReq) "email" then identity.email else "") ∧
      idToken.lookup "sub" = some (.str identity.id) ∧
      (info.lookup "sub" = some (.str identity.id) ↔
        (if scopeHas (claimFromToken "scope" authReq) "email" then identity.email else "") =
          identity.id) := by
  obtain ⟨code, sid, _, hparse, hid, -, -, rfl, hk⟩ := token_json htok
  obtain ⟨now, idt, authReq, rfl, hv, hreq, clientId, rootUri, nonce, iat, ident, pr, rfl⟩ :=
    (hs.inv.minted _ (Keyring.parse_mem hparse)).code_of_id_token hid
  obtain ⟨hsub, -, -, -, hemail, -⟩ := idTokenClaims_lookup ident.id clientId rootUri nonce iat
    ident (scopeHas (claimFromToken "scope" authReq) "email") pr
  have hmail : email (idTokenClaims ident.id clientId rootUri nonce iat ident
      (scopeHas (claimFromToken "scope" authReq) "email") pr) =
      if scopeHas (claimFromToken "scope" authReq) "email" then ident.email else "" := by
    rw [email, claimFromToken, hemail]
    split_ifs <;> rfl
  change (token env fails s.keyring r).2.Extends k at hext
  rw [hk] at hext
  cases hacc
  obtain ⟨_, tok, c, hsplit, hp, rfl⟩ := userinfo_json hinfo
  rw [hauth, Keyring.sign_fst, split_bearer] at hsplit
  obtain ⟨-, rfl⟩ : "Bearer" = _ ∧ compact _ = tok := by simpa using hsplit
  obtain rfl := Option.some.inj ((hext.verify (Keyring.verify_sign_self _ _)).symm.trans
    (Keyring.parse_verify hp))
  obtain ⟨j, rfl⟩ := Keyring.verify_compact hv
  refine ⟨compact j, _, authReq, ident, ?_, hext.verify (Keyring.verify_sign hv), hreq, rfl, hmail,
    hsub, ?_⟩
  · simp only [tokenResponse, if_neg (compact_ne_empty j)]
    rfl
  · show some (Json.str (email _)) = _ ↔ _
    rw [hmail, Option.some.injEq, Json.str.injEq]

theorem userinfo_sub_is_id_token_email_demo :
    ∃ signedIdToken idToken authReq, ∃ identity : Identity,
      (tokenResponse "e6" "e4").lookup "id_token" = some (.str signedIdToken) ∧
      afterRedeem.keyring.verify signedIdToken = some idToken ∧ authReq ∈ afterConsent.keyring.signed ∧
      [("sub", Json.str ""), ("email", .str "")].lookup "sub" = some (.str (email idToken)) ∧
      email idToken =
        (if scopeHas (claimFromToken "scope" authReq) "email" then identity.email else "") ∧
      idToken.lookup "sub" = some (.str identity.id) ∧
      ([("sub", Json.str ""), ("email", .str "")].lookup "sub" = some (.str identity.id) ↔
        (if scopeHas (claimFromToken "scope" authReq) "email" then identity.email else "") =
          identity.id) :=
  userinfo_sub_is_id_token_email afterConsent_reachable
    (show (afterConsent.serve demoEnv noFaults rRedeem .token).1.json = some (tokenResponse "e6" "e4")
      by decide) (.refl _) rfl (show rUserinfo.authorization = "Bearer " ++ "e6" by decide)
    (show (userinfo afterRedeem.keyring rUserinfo).json = some [("sub", .str ""), ("email", .str "")]
      by decide)

/-- A completed code flow with scope `openid`: `/userinfo` answers with an empty subject,
while the ID token `/token` returned has subject `alice@example.com`. -/
theorem userinfo_sub_differs_from_id_token_sub :
    Reachable demoEnv afterRedeem ∧
      (afterConsent.serve demoEnv noFaults rRedeem .token).1.json =
        some (tokenResponse "e6" "e4") ∧
      (afterRedeem.serve demoEnv noFaults rUserinfo .userinfo).1.json =
        some [("sub", .str ""), ("email", .str "")] ∧
      (afterRedeem.keyring.verify "e4").bind (·.lookup "sub") = some (.str "alice@example.com") :=
  ⟨.step _ _ _ rfl afterConsent_reachable, by decide, by decide, by decide⟩

/-- The consent page of `/auth` lists the logins the session recorded for the client, newest
first, and the session's identities that none of those logins matches on `(Id, ProviderName)`,
in the session's order; a missing, empty or unverifiable session cookie gives neither
identities nor logins. -/
theorem auth_page_lists {k : Keyring} {page : AuthPage} (h : (auth env fails k r).2.2 = some page) :
    ∃ identities logins,
      ((∃ v parsed, r.cookie (env.cookiePrefix ++ "login_key") = some v ∧ v ≠ "" ∧
          k.parse r.now v = .ok parsed ∧ identities = identitiesOf parsed ∧
          logins = loginsOf parsed) ∨
        ((∀ v parsed, r.cookie (env.cookiePrefix ++ "login_key") = some v → v ≠ "" →
          k.parse r.now v ≠ .ok parsed) ∧ identities = [] ∧ logins = [])) ∧
      page.identities = identities ∧
      page.previousLogins.Perm ((logins.lookup (r.formValue "client_id")).getD []) ∧
      page.previousLogins.Pairwise (fun a b => b.timestamp ≤ a.timestamp) ∧
      page.remainingIdentities = identities.filter fun i =>
        decide ¬∃ l ∈ (logins.lookup (r.formValue "client_id")).getD [],
          l.id = i.id ∧ l.providerName = i.providerName := by
  obtain ⟨hids, hprev, hrem⟩ := auth_page h
  have hperm := hprev ▸ sortNewestFirst_perm _
  refine ⟨_, _, ?_, hids, hperm, hprev ▸ sortNewestFirst_sorted _, ?_⟩
  · rcases readLoginKey_sessions env k r with ⟨v, parsed, hc, hv, hp, he⟩ | ⟨hnone, he⟩
    · exact .inl ⟨v, parsed, hc, hv, hp, by rw [he], by rw [he]⟩
    · exact .inr ⟨hnone, by rw [he], by rw [he]⟩
  · rw [hrem, remainingIdents_eq_filter, hids]
    simp only [hperm.mem_iff]

def rAuthAgain : Request :=
  ⟨"GET", "idp.example", "/auth", "", rAuth.form, [("obligator_login_key", "e3")], "", 2⟩

def pageAgain : AuthPage :=
  ⟨bytes "rp.example", [alice], [], [⟨"email", "alice@example.com", "Example", 2⟩], "/auth?"⟩

theorem auth_page_lists_demo :
    ∃ identities logins,
      ((∃ v parsed, rAuthAgain.cookie (demoEnv.cookiePrefix ++ "login_key") = some v ∧ v ≠ "" ∧
          afterConsent.keyring.parse rAuthAgain.now v = .ok parsed ∧
          identities = identitiesOf parsed ∧ logins = loginsOf parsed) ∨
        ((∀ v parsed, rAuthAgain.cookie (demoEnv.cookiePrefix ++ "login_key") = some v → v ≠ "" →
          afterConsent.keyring.parse rAuthAgain.now v ≠ .ok parsed) ∧
          identities = [] ∧ logins = [])) ∧
      pageAgain.identities = identities ∧
      pageAgain.previousLogins.Perm ((logins.lookup (rAuthAgain.formValue "client_id")).getD []) ∧
      pageAgain.previousLogins.Pairwise (fun a b => b.timestamp ≤ a.timestamp) ∧
      pageAgain.remainingIdentities = identities.filter fun i =>
        decide ¬∃ l ∈ (logins.lookup (rAuthAgain.formValue "client_id")).getD [],
          l.id = i.id ∧ l.providerName = i.providerName :=
  auth_page_lists (show (auth demoEnv noFaults afterConsent.keyring rAuthAgain).2.2 = some pageAgain
    by decide)

theorem auth_rejects_mismatched_hosts {k : Keyring} {clientHost redirectHost : List Nat}
    (hc : r.formValue "client_id" ≠ "") (hr : r.formValue "redirect_uri" ≠ "")
    (hpc : hostOf (r.formValue "client_id") = some clientHost)
    (hpr : hostOf (r.formValue "redirect_uri") = some redirectHost)
    (hne : clientHost ≠ redirectHost) :
    (auth env fails k r).1.code = 400 ∧
      (auth env fails k r).1.body = "redirect_uri must be on the same domain as client_id" ∧
      (auth env fails k r).1.setCookies = [] ∧ (auth env fails k r).2.1 = k := by
  obtain ⟨cu, hcu, rfl⟩ := hostOf_some hpc
  obtain ⟨ru, hru, rfl⟩ := hostOf_some hpr
  have hp : parseAuthRequest {} r =
      .error (({} : Response).fail 400 "redirect_uri must be on the same domain as client_id") := by
    simp only [parseAuthRequest, if_neg hc, if_neg hr, hcu, hru, ne_eq, hne, not_false_eq_true,
      if_true]
  unfold auth
  rw [hp]
  exact ⟨rfl, rfl, rfl, rfl⟩

theorem token_refuses_wrong_verifier {k : Keyring} {code : Claims}
    {signedIdToken challenge : String} (hp : k.parse r.now (r.formValue "code") = .ok code)
    (hid : code.lookup "id_token" = some (.str signedIdToken))
    (hch : code.lookup "pkce_code_challenge" = some (.str challenge)) (hne : challenge ≠ "")
    (hv : generatePKCECodeChallenge env (r.formValue "code_verifier") ≠ challenge) :
    (token env fails k r).1.code = 401 ∧ (token env fails k r).1.body = "Invalid code_verifier" ∧
      (token env fails k r).1.json = none ∧ (token env fails k r).2 = k := by
  have hr : pkceRefusal env (.str challenge) (r.formValue "code_verifier") =
      some "Invalid code_verifier" := by
    simp [pkceRefusal, hne, hv]
  unfold token
  simp only [hp, hid, hch, hr, and_true]
  exact ⟨rfl, rfl, rfl⟩

def rSilentAuth : Request :=
  aliceRequest "GET" "/auth" [("client_id", "https://rp.example"),
    ("redirect_uri", "https://rp.example/cb"), ("response_type", "code"), ("prompt", "none"),
    ("state", "a&b")] [] 1

/-- The `interaction_required` redirect writes the decoded state into its query unescaped:
the relying party's `url.ParseQuery` reads the state `a`. -/
theorem interaction_required_state_lost :
    (boot.serve demoEnv noFaults rSilentAuth .auth).1.location =
        some "https://rp.example/cb?error=interaction_required&state=a&b" ∧
      (urlParse "https://rp.example/cb?error=interaction_required&state=a&b").map
        (fun u => queryValues u.rawQuery "state") = .ok [bytes "a"] := by
  decide

end Obligator.CodeFlow
