import Obligator.Oidc.Authorize

/-!
# `/approve`

The consent form posts `identity_id`. The handler checks that the verified session cookie
lists that identity, reads the client from the `auth_request` cookie, records the login,
signs an ID token and wraps it in a sixteen-second authorization code.
-/

namespace Obligator.Oidc

open Http

def idTokenClaims (identId clientId rootUri nonce : String) (now : Nat) (identity : Identity)
    (emailRequested profileRequested : Bool) : Claims :=
  [("sub", .str identId), ("aud", .strs [clientId]), ("iss", .str rootUri), ("iat", .time now),
    ("exp", .time (now + 86400)), ("nonce", .str nonce)] ++
  (if emailRequested then
    [("email", .str identity.email), ("email_verified", .bool identity.emailVerified)]
   else []) ++
  (if profileRequested && identity.name ≠ "" then [("name", .str identity.name)] else [])

theorem idTokenClaims_lookup (identId clientId rootUri nonce : String) (now : Nat)
    (identity : Identity) (er pr : Bool) :
    let c := idTokenClaims identId clientId rootUri nonce now identity er pr
    c.lookup "sub" = some (.str identId) ∧ c.lookup "aud" = some (.strs [clientId]) ∧
      c.lookup "iss" = some (.str rootUri) ∧ c.lookup "nonce" = some (.str nonce) ∧
      c.lookup "email" = (if er then some (.str identity.email) else none) ∧
      c.lookup "email_verified" = (if er then some (.bool identity.emailVerified) else none) ∧
      c.lookup "name" = (if pr ∧ identity.name ≠ "" then some (.str identity.name) else none) := by
  refine ⟨rfl, rfl, rfl, rfl, ?_, ?_, ?_⟩ <;> unfold idTokenClaims <;> split_ifs <;>
    first | rfl | simp_all

def codeClaims (now : Nat) (sub signedIdToken pkceCodeChallenge : String) : Claims :=
  [("iat", .time now), ("exp", .time (now + 16)), ("sub", .str sub),
    ("id_token", .str signedIdToken), ("pkce_code_challenge", .str pkceCodeChallenge)]

def codeQuery (authReq : Claims) (signedCode : String) : String :=
  "client_id=" ++ claimFromToken "client_id" authReq ++
    "&redirect_uri=" ++ claimFromToken "redirect_uri" authReq ++ "&code=" ++ signedCode ++
    "&state=" ++ claimFromToken "state" authReq ++ "&scope=" ++ claimFromToken "scope" authReq

def codeRedirectUrl (authReq : Claims) (signedCode : String) : String :=
  claimFromToken "redirect_uri" authReq ++ "?" ++ codeQuery authReq signedCode

def findIdentity (session : Claims) (identId : String) : Option Identity :=
  (identitiesOf session).find? (·.id = identId)

theorem findIdentity_some {session : Claims} {identId : String} {identity : Identity}
    (h : findIdentity session identId = some identity) :
    identity ∈ identitiesOf session ∧ identity.id = identId := by
  unfold findIdentity at h
  exact ⟨List.mem_of_find?_eq_some h, by simpa using List.find?_some h⟩

def scopeHas (scope part : String) : Bool := (split scope ' ').contains part

def approveChecks (env : Env) (err : Option String) (k : Keyring) (r : Request) :
    Except Response (String × Claims × Claims × Identity) :=
  let w : Response := {}
  if r.method ≠ "POST" then
    .error (match err with
      | some e => w.fail 405 e
      | none => (w.writeHeader 405).crash)
  else match r.cookie (env.cookiePrefix ++ "login_key") with
  | none => .error (w.fail 401 "Only logged-in users can access this endpoint")
  | some loginKey =>
  match k.parse r.now loginKey with
  | .error e => .error (w.fail 401 e)
  | .ok parsedLoginKey =>
  let w := clearCookie (env.cookiePrefix ++ "auth_request") w
  match getJwtFromCookie k (env.cookiePrefix ++ "auth_request") r with
  | .error e => .error (w.fail 401 e)
  | .ok parsedAuthReq =>
  match findIdentity parsedLoginKey (r.formValue "identity_id") with
  | none => .error (w.fail 403 "You don't have permissions for this identity")
  | some identity => .ok (loginKey, parsedLoginKey, parsedAuthReq, identity)

theorem approveChecks_ok {env : Env} {err : Option String} {k : Keyring} {r : Request}
    {loginKey : String} {session authReq : Claims} {identity : Identity}
    (h : approveChecks env err k r = .ok (loginKey, session, authReq, identity)) :
    r.method = "POST" ∧ r.cookie (env.cookiePrefix ++ "login_key") = some loginKey ∧
      k.parse r.now loginKey = .ok session ∧
      getJwtFromCookie k (env.cookiePrefix ++ "auth_request") r = .ok authReq ∧
      findIdentity session (r.formValue "identity_id") = some identity := by
  unfold approveChecks at h
  split_ifs at h with hm
  split at h <;> try split at h <;> try split at h <;> try split at h
  all_goals first | cases h; done | cases h; exact ⟨not_not.1 hm, ‹_›, ‹_›, ‹_›, ‹_›⟩

theorem approveChecks_error_setCookies {env : Env} {err : Option String} {k : Keyring}
    {r : Request} {w : Response} (h : approveChecks env err k r = .error w) :
    ∀ c ∈ w.setCookies, c = ⟨env.cookiePrefix ++ "auth_request", "", -1⟩ := by
  unfold approveChecks at h
  split_ifs at h
  · split at h <;> cases h <;> simp
  · repeat' split at h
    all_goals cases h <;> simp [clearCookie]

def approvalIdToken (env : Env) (r : Request) (authReq : Claims) (identity : Identity) : Claims :=
  let scope := claimFromToken "scope" authReq
  idTokenClaims (r.formValue "identity_id") (claimFromToken "client_id" authReq) env.rootUri
    (claimFromToken "nonce" authReq) r.now identity (scopeHas scope "email")
    (scopeHas scope "profile")

def approvalCode (now : Nat) (idToken : Claims) (signedIdToken : String) (authReq : Claims) :
    Claims :=
  codeClaims now (email idToken) signedIdToken (claimFromToken "pkce_code_challenge" authReq)

def approveTarget (authReq : Claims) (signedCode : String) : String :=
  if claimFromToken "response_type" authReq = "none" then claimFromToken "redirect_uri" authReq
  else codeRedirectUrl authReq signedCode

def approveSign (env : Env) (fails : Fault → Bool) (k : Keyring) (r : Request)
    (authReq : Claims) (identity : Identity) (w : Response) : Response × Keyring :=
  let idToken := approvalIdToken env r authReq identity
  if fails .idTokenBuild || !env.signingKey || fails .idTokenSign then (w.writeHeader 500, k)
  else
  let signedIdToken := k.sign idToken
  if fails .codeBuild then (w.fail 500 "failed to build code", signedIdToken.2)
  else if fails .codeSign then (w.fail 400 "failed to sign code", signedIdToken.2)
  else
  let signedCode := signedIdToken.2.sign (approvalCode r.now idToken signedIdToken.1 authReq)
  (w.redirect r.method "/approve" (approveTarget authReq signedCode.1) 303, signedCode.2)

theorem approveSign_setCookies (env : Env) (fails : Fault → Bool) (k : Keyring) (r : Request)
    (authReq : Claims) (identity : Identity) (w : Response) :
    (approveSign env fails k r authReq identity w).1.setCookies = w.setCookies := by
  unfold approveSign
  split_ifs <;> simp

def approveIssue (env : Env) (fails : Fault → Bool) (k : Keyring) (r : Request)
    (loginKey : String) (authReq : Claims) (identity : Identity) : Response × Keyring :=
  let w := clearCookie (env.cookiePrefix ++ "auth_request") {}
  let newLogin : Login := ⟨"email", identity.id, identity.providerName, 0⟩
  match addLoginToCookie env k r.now fails loginKey (claimFromToken "client_id" authReq) newLogin with
  | .error _ => (w.writeHeader 500, k)
  | .ok (newLoginCookie, k) => approveSign env fails k r authReq identity (w.setCookie newLoginCookie)

/-- The `/approve` handler. -/
def approve (env : Env) (fails : Fault → Bool) (err : Option String) (k : Keyring)
    (r : Request) : Response × Keyring :=
  match approveChecks env err k r with
  | .error w => (w, k)
  | .ok (loginKey, _, authReq, identity) => approveIssue env fails k r loginKey authReq identity

theorem approveChecks_error_location {env : Env} {err : Option String} {k : Keyring}
    {r : Request} {w : Response} (h : approveChecks env err k r = .error w) : w.location = none := by
  unfold approveChecks at h
  split_ifs at h
  all_goals repeat' split at h
  all_goals cases h <;> simp [clearCookie]

variable {env : Env} {fails : Fault → Bool} {k : Keyring} {r : Request} {authReq : Claims}
  {identity : Identity} {target : String}

theorem approveSign_location {w : Response} (hs : w.status = none) (hl : w.location = none)
    (h : (approveSign env fails k r authReq identity w).1.location = some target) :
    ∃ code signedIdToken, target = redirectTarget "/approve" (approveTarget authReq code) ∧
      (approveSign env fails k r authReq identity w).2.verify code =
        some (approvalCode r.now (approvalIdToken env r authReq identity) signedIdToken authReq) ∧
      (approveSign env fails k r authReq identity w).2.verify signedIdToken =
        some (approvalIdToken env r authReq identity) := by
  unfold approveSign at h ⊢
  split_ifs at h ⊢ <;>
    simp only [Response.writeHeader_location, Response.fail_location, hl, reduceCtorEq] at h
  rw [Response.redirect_location _ _ _ _ hs, Option.some.injEq] at h
  exact ⟨_, _, h.symm, Keyring.verify_sign_self _ _, Keyring.verify_sign (Keyring.verify_sign_self _ _)⟩

theorem approveIssue_location {loginKey : String}
    (h : (approveIssue env fails k r loginKey authReq identity).1.location = some target) :
    ∃ code signedIdToken, target = redirectTarget "/approve" (approveTarget authReq code) ∧
      (approveIssue env fails k r loginKey authReq identity).2.verify code =
        some (approvalCode r.now (approvalIdToken env r authReq identity) signedIdToken authReq) ∧
      (approveIssue env fails k r loginKey authReq identity).2.verify signedIdToken =
        some (approvalIdToken env r authReq identity) := by
  revert h
  unfold approveIssue
  dsimp only
  split
  · simp [clearCookie]
  · exact approveSign_location (by simp [clearCookie]) (by simp [clearCookie])

theorem approve_location {err : Option String}
    (h : (approve env fails err k r).1.location = some target) :
    ∃ loginKey session authReq identity,
      approveChecks env err k r = .ok (loginKey, session, authReq, identity) ∧
      ∃ code signedIdToken, target = redirectTarget "/approve" (approveTarget authReq code) ∧
        (approve env fails err k r).2.verify code =
          some (approvalCode r.now (approvalIdToken env r authReq identity) signedIdToken authReq) ∧
        (approve env fails err k r).2.verify signedIdToken =
          some (approvalIdToken env r authReq identity) := by
  revert h
  unfold approve
  split
  · intro h
    rw [approveChecks_error_location ‹_›] at h
    cases h
  · exact fun h => ⟨_, _, _, _, ‹_›, approveIssue_location h⟩

end Obligator.Oidc
