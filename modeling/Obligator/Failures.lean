import Obligator.Upstream.Provenance

/-!
# Failure paths

What the handlers leave behind when a step fails. `/approve` sets the updated session
cookie before it builds and signs the tokens, and `/callback` expires the return URI cookie
before it signs the session, so an error response can still carry either Set-Cookie header.
The method check of `/approve` writes the error variable that `/register` last assigned, and
panics while it is nil. `validate` indexes the identities of a verified session without
checking that there is one, but in a reachable state there always is.
-/

namespace Obligator.Failures

open Http Oidc Upstream CodeFlow

variable {env : Env} {fails : Fault → Bool} {u : Providers} {k : Keyring} {r : Request}

/-- A `/callback` that fails signs nothing, and the only cookie it sets expires the return
URI: the session cookie is untouched, the return URI is gone. -/
theorem callback_refusal_cookies (h : 400 ≤ (callback env fails u k r).1.code) :
    (callback env fails u k r).2 = k ∧ ∀ c ∈ (callback env fails u k r).1.setCookies,
      c = ⟨env.cookiePrefix ++ "return_uri", "", -1⟩ := by
  rcases callback_cases env fails u k r with hfail | ⟨_, _, _, _, _, _, _, _, _, _, -, -, -, -, -, -,
    hres⟩
  · exact hfail
  · rw [hres, callbackRedirect_code] at h
    omega

def sessionSignFails : Fault → Bool := (· = .sessionSign)

theorem callback_refusal_cookies_demo :
    (callback gitEnv sessionSignFails gitlabWorld gitlabLoggingIn.keyring rCallbackUpstream).2 =
        gitlabLoggingIn.keyring ∧
      ∀ c ∈ (callback gitEnv sessionSignFails gitlabWorld gitlabLoggingIn.keyring
        rCallbackUpstream).1.setCookies, c = ⟨gitEnv.cookiePrefix ++ "return_uri", "", -1⟩ :=
  callback_refusal_cookies (show 400 ≤ (callback gitEnv sessionSignFails gitlabWorld
    gitlabLoggingIn.keyring rCallbackUpstream).1.code by decide)

/-- Every cookie `/approve` sets, whatever the outcome, expires the `auth_request` cookie or
is a session envelope with the identities of the session the request presented: consent
records a login, and never adds or drops an identity. -/
theorem approve_session_keeps_identities {err : Option String} :
    ∀ c ∈ (approve env fails err k r).1.setCookies,
      c = ⟨env.cookiePrefix ++ "auth_request", "", -1⟩ ∨
      c.name = env.cookiePrefix ++ "login_key" ∧ ∃ loginKey presented,
        r.cookie (env.cookiePrefix ++ "login_key") = some loginKey ∧
        k.parse r.now loginKey = .ok presented ∧ ∃ logins,
          (approve env fails err k r).2.verify c.value =
            some (sessionClaims r.now env.loginKeyTtl (identitiesOf presented) logins) := by
  unfold approve
  split
  · exact fun c hc => .inl (approveChecks_error_setCookies ‹_› c hc)
  · rename_i loginKey _ authReq identity hchecks
    obtain ⟨-, hcookie, -, hreq, hfind⟩ := approveChecks_ok hchecks
    unfold approveIssue
    dsimp only
    split
    · intro c hc
      simp [clearCookie] at hc
      exact .inl hc
    · rename_i cookie k' hadd
      obtain ⟨hname, presented, hp, logins, hv⟩ := addLoginToCookie_session hadd
      have hsigns : Signs k' (approveSign env fails k' r authReq identity
          ((clearCookie (env.cookiePrefix ++ "auth_request") {}).setCookie cookie)).2 :=
        approveSign_signs (findIdentity_some hfind).2
          ((addLoginToCookie_extends hadd).mem (getJwtFromCookie_mem hreq))
      intro c hc
      simp [approveSign_setCookies, clearCookie] at hc
      rcases hc with rfl | rfl
      · exact .inl rfl
      · exact .inr ⟨hname, loginKey, presented, hcookie, hp, logins, hsigns.extends.verify hv⟩

theorem approve_session_keeps_identities_demo :
    loginKeyCookie demoEnv "e3" = ⟨demoEnv.cookiePrefix ++ "auth_request", "", -1⟩ ∨
      (loginKeyCookie demoEnv "e3").name = demoEnv.cookiePrefix ++ "login_key" ∧
        ∃ loginKey presented,
          rConsent.cookie (demoEnv.cookiePrefix ++ "login_key") = some loginKey ∧
          afterAuth.keyring.parse rConsent.now loginKey = .ok presented ∧ ∃ logins,
            (approve demoEnv noFaults afterAuth.err afterAuth.keyring rConsent).2.verify
                (loginKeyCookie demoEnv "e3").value =
              some (sessionClaims rConsent.now demoEnv.loginKeyTtl (identitiesOf presented) logins) :=
  approve_session_keeps_identities _ (by decide)

def idTokenSignFails : Fault → Bool := (· = .idTokenSign)

/-- `/approve` with the signature of the ID token failing, and `/callback` with the signature
of the session failing: both answer 500, the first with the updated session cookie, the
second expiring the return URI cookie. -/
theorem failed_requests_set_cookies :
    Reachable demoEnv afterAuth ∧
      (afterAuth.serve demoEnv idTokenSignFails rConsent .approve).1.code = 500 ∧
      loginKeyCookie demoEnv "e3" ∈
        (afterAuth.serve demoEnv idTokenSignFails rConsent .approve).1.setCookies ∧
      Reachable gitEnv gitlabLoggingIn ∧
      (gitlabLoggingIn.serve gitEnv sessionSignFails rCallbackUpstream
        (.callback gitlabWorld)).1.code = 500 ∧
      ⟨"obligator_return_uri", "", -1⟩ ∈ (gitlabLoggingIn.serve gitEnv sessionSignFails
        rCallbackUpstream (.callback gitlabWorld)).1.setCookies :=
  ⟨afterAuth_reachable, by decide, by decide, .step _ _ _ rfl (.step _ _ _ rfl (fresh_reachable _)),
    by decide, by decide⟩

theorem approve_non_post {s : Server} (hm : r.method ≠ "POST") :
    s.serve env fails r .approve =
      ((match s.err with
        | some e => ({} : Response).fail 405 e
        | none => (({} : Response).writeHeader 405).crash), s) := by
  obtain ⟨_, _ | _⟩ := s <;>
    simp only [Server.serve, Server.update, approve, approveChecks, hm, if_true, ne_eq,
      not_false_eq_true]

def rGetApprove : Request := aliceRequest "GET" "/approve" [] [] 1

def rRegister : Request := ⟨"POST", "idp.example", "/register", "", [], [], "", 1⟩

def undecodable : Endpoint := .register (.error "invalid character 'x' looking for beginning of value")

def afterBadRegistration : Server := (boot.serve demoEnv noFaults rRegister undecodable).2

/-- The same `GET /approve` panics at boot, and answers 405 with the decoder's message after a
`/register` whose body does not decode. -/
theorem approve_get_depends_on_registrations :
    Reachable demoEnv afterBadRegistration ∧
      (boot.serve demoEnv noFaults rGetApprove .approve).1.panicked = true ∧
      (afterBadRegistration.serve demoEnv noFaults rGetApprove .approve).1 =
        ({} : Response).fail 405 "invalid character 'x' looking for beginning of value" :=
  ⟨.step _ _ _ rfl boot_reachable, rfl, rfl⟩

/-- In every reachable state `validate` returns, whatever the passthrough flag: the first
identity of a verified session cookie, or no validation, with an error unless passthrough is
on. The identities list it indexes is never empty, since every session the server signs has
an identity. -/
theorem validate_returns {s : Server} (hs : Reachable env s) (fails : Fault → Bool)
    (r : Request) :
    validate env fails s.keyring r ≠ .panics ∧
      (∀ ident rest, VerifiedIdentities env fails s.keyring r (ident :: rest) →
        validate env fails s.keyring r = .returns (some ⟨ident.id, ident.idType⟩, none)) ∧
      ((∀ ident rest, ¬VerifiedIdentities env fails s.keyring r (ident :: rest)) →
        ∃ err, validate env fails s.keyring r =
          .returns (none, if env.forwardAuthPassthrough then none else some err)) := by
  have hne : ¬VerifiedIdentities env fails s.keyring r [] := fun ⟨_, _, _, _, hp, hl⟩ =>
    (hs.inv.minted _ (Keyring.parse_mem hp)).identities_ne_nil hl rfl
  obtain ⟨hpanics, hcons, hnone⟩ := validate_outcomes env fails s.keyring r
  refine ⟨fun h => hne (hpanics.1 h), hcons, fun h => hnone fun idents => ?_⟩
  cases idents with
  | nil => exact hne
  | cons ident rest => exact h ident rest

def rValidate : Request := aliceRequest "GET" "/" [] [] 1

theorem validate_returns_alice :
    validate demoEnv noFaults boot.keyring rValidate ≠ .panics ∧
      (∀ ident rest, VerifiedIdentities demoEnv noFaults boot.keyring rValidate (ident :: rest) →
        validate demoEnv noFaults boot.keyring rValidate =
          .returns (some ⟨ident.id, ident.idType⟩, none)) ∧
      ((∀ ident rest, ¬VerifiedIdentities demoEnv noFaults boot.keyring rValidate (ident :: rest)) →
        ∃ err, validate demoEnv noFaults boot.keyring rValidate =
          .returns (none, if demoEnv.forwardAuthPassthrough then none else some err)) :=
  validate_returns boot_reachable noFaults rValidate

end Obligator.Failures
