import Obligator.Upstream.Provenance

/-!
# A user agent among other parties

The flows of the program are carried by one browser's cookie jar: `/auth` leaves the
`auth_request` envelope there for `/approve`, and `/login-oauth2` leaves the
`upstream_oauth2_request` envelope there for `/callback`. A world is the server, the jar of
one user agent, and two ghost records: the `/auth` request whose envelope the jar holds,
and the nonces `/login-oauth2` drew for the agent and for everyone else. Any party may send
any request; the agent's requests carry its jar.
-/

namespace Obligator.UserAgent

open Http Url Oidc Upstream CodeFlow

abbrev Jar := List (String × String)

def store (jar : Jar) (c : Cookie) : Jar :=
  if c.maxAge < 0 then jar.filter (·.1 ≠ c.name)
  else (c.name, c.value) :: jar.filter (·.1 ≠ c.name)

def receive (jar : Jar) (w : Response) : Jar := w.setCookies.foldl store jar

theorem lookup_cons_ite (k n v : String) (jar : Jar) :
    ((k, v) :: jar).lookup n = if n = k then some v else jar.lookup n := by
  by_cases h : n = k
  · subst h; simp
  · rw [List.lookup_cons, beq_eq_false_iff_ne.mpr h, if_neg h]

theorem lookup_filter_ne (jar : Jar) (m n : String) :
    (jar.filter (·.1 ≠ m)).lookup n = if n = m then none else jar.lookup n := by
  induction jar with
  | nil => simp
  | cons p jar ih =>
    obtain ⟨k, v⟩ := p
    by_cases hk : k = m
    · subst hk
      rw [List.filter_cons_of_neg (by simp), ih, lookup_cons_ite]
      by_cases hn : n = k <;> simp [hn]
    · rw [List.filter_cons_of_pos (by simpa using hk), lookup_cons_ite, ih, lookup_cons_ite]
      by_cases hn : n = k
      · subst hn; simp [hk]
      · simp [hn]

theorem lookup_store (jar : Jar) (c : Cookie) (n : String) :
    (store jar c).lookup n =
      if n = c.name then (if c.maxAge < 0 then none else some c.value) else jar.lookup n := by
  unfold store
  by_cases hl : c.maxAge < 0
  · rw [if_pos hl, lookup_filter_ne]
    by_cases hn : n = c.name <;> simp [hn, hl]
  · rw [if_neg hl, lookup_cons_ite, lookup_filter_ne]
    by_cases hn : n = c.name <;> simp [hn, hl]

theorem lookup_foldl_store {n v : String} :
    ∀ (cs : List Cookie) (jar : Jar), (cs.foldl store jar).lookup n = some v →
      (∃ c ∈ cs, c.name = n ∧ c.value = v ∧ ¬c.maxAge < 0) ∨
        (jar.lookup n = some v ∧ ∀ c ∈ cs, c.name ≠ n)
  | [], _, h => .inr ⟨h, by simp⟩
  | c :: cs, jar, h => by
    rcases lookup_foldl_store cs (store jar c) h with ⟨c', hc', hn, hv, hl⟩ | ⟨hj, hcs⟩
    · exact .inl ⟨c', List.mem_cons_of_mem _ hc', hn, hv, hl⟩
    · rw [lookup_store] at hj
      by_cases hn : n = c.name
      · by_cases hl : c.maxAge < 0
        · simp [hn, hl] at hj
        · simp only [hn, if_true, hl, if_false, Option.some.injEq] at hj
          exact .inl ⟨c, List.mem_cons_self _ _, hn.symm, hj, hl⟩
      · rw [if_neg hn] at hj
        exact .inr ⟨hj, List.forall_mem_cons.2 ⟨fun h => hn h.symm, hcs⟩⟩

theorem lookup_receive {jar : Jar} {w : Response} {n v : String}
    (h : (receive jar w).lookup n = some v) :
    (∃ c ∈ w.setCookies, c.name = n ∧ c.value = v ∧ ¬c.maxAge < 0) ∨
      (jar.lookup n = some v ∧ ∀ c ∈ w.setCookies, c.name ≠ n) :=
  lookup_foldl_store _ _ h

variable {env : Env} {fails : Fault → Bool} {k : Keyring} {r : Request} {c : Cookie}

theorem parseAuthRequest_error_setCookies {w : Response} (h : parseAuthRequest {} r = .error w) :
    w.setCookies = [] := by
  unfold parseAuthRequest at h
  dsimp only at h
  repeat' split at h
  all_goals cases h
  all_goals simp

theorem auth_live_cookie (hc : c ∈ (auth env fails k r).1.setCookies) (hl : ¬c.maxAge < 0) :
    (c.name = env.cookiePrefix ++ "auth_request" ∧ ∃ ar, parseAuthRequest {} r = .ok ar ∧
      (auth env fails k r).2.1.verify c.value =
        some (authRequestClaims r.now (readLoginKey env k r).1 ar r)) ∨
    c.name = env.cookiePrefix ++ "return_uri" := by
  generalize hres : auth env fails k r = res at hc ⊢
  unfold auth at hres
  split at hres
  · subst hres
    simp [parseAuthRequest_error_setCookies ‹_›] at hc
  · rename_i ar har
    dsimp only at hres
    have hv := Keyring.verify_sign_self k (authRequestClaims r.now (readLoginKey env k r).1 ar r)
    repeat' split at hres
    all_goals subst hres
    all_goals simp only [setJwtCookie, setReturnUriCookie, Response.fail_setCookies,
        Response.write_setCookies, Response.setCookie_setCookies, Response.setCookie_status,
        List.mem_append, List.mem_singleton, List.nil_append, List.not_mem_nil] at hc
    all_goals rcases hc with rfl | rfl
    all_goals first
      | exact .inl ⟨rfl, ar, har, hv⟩
      | exact .inl ⟨rfl, ar, har, Keyring.verify_sign hv⟩
      | exact .inr rfl

theorem approve_live_cookie {err : Option String} (hc : c ∈ (approve env fails err k r).1.setCookies)
    (hl : ¬c.maxAge < 0) : c.name = env.cookiePrefix ++ "login_key" := by
  revert hc
  unfold approve
  split
  · exact fun hc => absurd (by rw [approveChecks_error_setCookies ‹_› c hc]; simp) hl
  · unfold approveIssue
    dsimp only
    split
    · intro hc
      simp [clearCookie] at hc
      simp [hc] at hl
    · intro hc
      simp only [approveSign_setCookies, clearCookie, Response.setCookie_setCookies,
        Response.setCookie_status, List.mem_append, List.mem_singleton, List.nil_append] at hc
      rcases hc with rfl | rfl
      · simp at hl
      · exact addLoginToCookie_name ‹_›

theorem loginOAuth2_live_cookie {u : Providers} {rnd : Random}
    (hc : c ∈ (loginOAuth2 env fails u rnd k r).1.setCookies) :
    c.name = env.cookiePrefix ++ "upstream_oauth2_request" ∧ ∃ nonce, rnd.nonce = .ok nonce ∧
      ∃ claims, (loginOAuth2 env fails u rnd k r).2.verify c.value = some claims ∧
        claimFromToken "nonce" claims = nonce := by
  generalize hres : loginOAuth2 env fails u rnd k r = res at hc ⊢
  unfold loginOAuth2 at hres
  simp only at hres
  repeat' split at hres
  all_goals subst hres
  all_goals simp only [setJwtCookie, Response.fail_setCookies, Response.redirect_setCookies,
    Response.setCookie_setCookies, List.mem_singleton, List.nil_append] at hc
  all_goals first | exact absurd hc (List.not_mem_nil c) | skip
  all_goals obtain rfl := hc; exact ⟨rfl, _, ‹rnd.nonce = _›, _, Keyring.verify_sign_self _ _, rfl⟩

theorem callback_live_cookie {u : Providers} (hc : c ∈ (callback env fails u k r).1.setCookies)
    (hl : ¬c.maxAge < 0) : c.name = env.cookiePrefix ++ "login_key" := by
  rcases callback_cases env fails u k r with ⟨-, hfail⟩ | ⟨_, _, _, _, _, _, _, _, _, _, -, -, -, -, -, hadd, hres⟩
  · cases hfail c hc
    simp at hl
  · simp only [hres, callbackRedirect_setCookies, List.mem_cons, List.mem_singleton,
      List.not_mem_nil, or_false] at hc
    rcases hc with rfl | rfl | rfl
    · simp at hl
    · exact (addIdentToCookie_session hadd).1
    · simp at hl

theorem loginFedCm_live_cookie (hc : c ∈ (loginFedCm env fails k r).1.setCookies) :
    c.name = env.cookiePrefix ++ "return_uri" := by
  revert hc
  unfold loginFedCm
  split <;> simp [setReturnUriCookie, setJwtCookie] <;> rintro rfl <;> rfl

theorem completeLoginFedCm_live_cookie {u : Providers}
    (hc : c ∈ (completeLoginFedCm env fails u k r).1.setCookies) (hl : ¬c.maxAge < 0) :
    c.name = env.cookiePrefix ++ "login_key" := by
  revert hc
  unfold completeLoginFedCm
  dsimp only
  repeat' split
  all_goals intro hc
  all_goals simp only [deleteReturnUriCookie, clearCookie, Response.fail_setCookies,
    Response.writeHeader_setCookies, Response.redirect_setCookies, Response.setCookie_setCookies,
    Response.setCookie_status, Response.setHeader_setCookies, Response.setHeader_status,
    List.mem_append, List.mem_singleton, List.nil_append, List.not_mem_nil] at hc
  rcases hc with rfl | rfl
  · simp at hl
  · exact (addIdentToCookie_session ‹addIdentityToCookie _ _ _ _ _ _ _ _ _ = _›).1

theorem token_setCookies : (token env fails k r).1.setCookies = [] := by
  unfold token issueTokens
  repeat' split
  all_goals simp [Response.encode]

theorem userinfo_setCookies : (userinfo k r).setCookies = [] := by
  unfold userinfo
  repeat' split
  all_goals simp [Response.encode]

theorem register_setCookies (decoded : Except String (List String)) :
    (register decoded).1.setCookies = [] := by
  unfold register
  repeat' split
  all_goals simp [Response.encode]

theorem wellKnown_setCookies : (wellKnown env).setCookies = [] := by
  simp [wellKnown, Response.encode]

variable {s : Server} {e : Endpoint}

theorem serve_live_auth_request (hc : c ∈ (s.serve env fails r e).1.setCookies)
    (hl : ¬c.maxAge < 0) (hn : c.name = env.cookiePrefix ++ "auth_request") :
    ∃ ar hashed, parseAuthRequest {} r = .ok ar ∧
      (s.serve env fails r e).2.keyring.verify c.value = some (authRequestClaims r.now hashed ar r) := by
  cases e with
  | wellKnown => simp [Server.serve, wellKnown_setCookies] at hc
  | register => simp [Server.serve, register_setCookies] at hc
  | userinfo => simp [Server.serve, userinfo_setCookies] at hc
  | token => simp [Server.serve, Server.update, token_setCookies] at hc
  | auth =>
    rcases auth_live_cookie hc hl with ⟨-, ar, har, hv⟩ | h
    · exact ⟨ar, _, har, hv⟩
    · simp [hn] at h
  | approve => simp [approve_live_cookie hc hl] at hn
  | loginOAuth2 => simp [(loginOAuth2_live_cookie hc).1] at hn
  | callback => simp [callback_live_cookie hc hl] at hn
  | loginFedCm => simp [loginFedCm_live_cookie hc] at hn
  | completeLoginFedCm => simp [completeLoginFedCm_live_cookie hc hl] at hn

theorem serve_live_upstream (hc : c ∈ (s.serve env fails r e).1.setCookies)
    (hl : ¬c.maxAge < 0) (hn : c.name = env.cookiePrefix ++ "upstream_oauth2_request") :
    ∃ nonce ∈ e.nonce, ∃ claims, (s.serve env fails r e).2.keyring.verify c.value = some claims ∧
      claimFromToken "nonce" claims = nonce := by
  cases e with
  | wellKnown => simp [Server.serve, wellKnown_setCookies] at hc
  | register => simp [Server.serve, register_setCookies] at hc
  | userinfo => simp [Server.serve, userinfo_setCookies] at hc
  | token => simp [Server.serve, Server.update, token_setCookies] at hc
  | auth => rcases auth_live_cookie hc hl with ⟨h, -⟩ | h <;> simp [hn] at h
  | approve => simp [approve_live_cookie hc hl] at hn
  | loginOAuth2 u rnd =>
    obtain ⟨-, nonce, hnonce, claims, hv, hc'⟩ := loginOAuth2_live_cookie hc
    exact ⟨nonce, by simp [Endpoint.nonce, hnonce], claims, hv, hc'⟩
  | callback => simp [callback_live_cookie hc hl] at hn
  | loginFedCm => simp [loginFedCm_live_cookie hc] at hn
  | completeLoginFedCm => simp [completeLoginFedCm_live_cookie hc hl] at hn

/-- The server, the jar of one user agent, the `/auth` request whose envelope the jar's
`auth_request` cookie holds, and the nonces drawn for the agent and for everyone else. -/
structure World where
  server : Server
  jar : Jar
  lastAuth : Option Request
  agentNonces : List String
  otherNonces : List String

inductive Sender
  | agent
  | other

def World.fromAgent (w : World) (r : Request) : Request := { r with cookies := w.jar }

def World.step (env : Env) (fails : Fault → Bool) (w : World) : Sender → Request → Endpoint → World
  | .agent, r, e =>
    let res := w.server.serve env fails (w.fromAgent r) e
    { server := res.2
      jar := receive w.jar res.1
      lastAuth := if res.1.setCookies.any fun c =>
          c.name = env.cookiePrefix ++ "auth_request" && !decide (c.maxAge < 0)
        then some (w.fromAgent r) else w.lastAuth
      agentNonces := w.agentNonces ++ e.nonce
      otherNonces := w.otherNonces }
  | .other, r, e =>
    { w with server := (w.server.serve env fails r e).2, otherNonces := w.otherNonces ++ e.nonce }

/-- The worlds a run reaches from a booted server and a jar with no flow cookies. -/
inductive World.Reachable (env : Env) : World → Prop
  | init (k : Keyring) (hk : SessionsOnly k) (jar : Jar)
      (hauth : jar.lookup (env.cookiePrefix ++ "auth_request") = none)
      (hup : jar.lookup (env.cookiePrefix ++ "upstream_oauth2_request") = none) :
      World.Reachable env ⟨⟨k, none⟩, jar, none, [], []⟩
  | step {w : World} (fails : Fault → Bool) (sender : Sender) (r : Request) (e : Endpoint)
      (hm : e.mounted env) (hw : World.Reachable env w) :
      World.Reachable env (w.step env fails sender r e)

theorem World.Reachable.server {w : World} (hw : World.Reachable env w) :
    Obligator.Reachable env w.server := by
  induction hw with
  | init k hk => exact .boot k hk
  | step fails sender r e hm _ ih => cases sender <;> exact .step _ _ _ hm ih

/-- What the agent's flow cookies hold: its `auth_request` cookie the envelope of the last
`/auth` request that set it, and its `upstream_oauth2_request` cookie an envelope with a
nonce drawn for the agent. -/
structure JarInv (env : Env) (w : World) : Prop where
  authRequest : ∀ v, w.jar.lookup (env.cookiePrefix ++ "auth_request") = some v →
    ∃ r₀ ar hashed, w.lastAuth = some r₀ ∧ parseAuthRequest {} r₀ = .ok ar ∧
      w.server.keyring.verify v = some (authRequestClaims r₀.now hashed ar r₀)
  upstream : ∀ v, w.jar.lookup (env.cookiePrefix ++ "upstream_oauth2_request") = some v →
    ∃ claims, w.server.keyring.verify v = some claims ∧
      claimFromToken "nonce" claims ∈ w.agentNonces

theorem JarInv.other {w : World} (hi : JarInv env w) (r : Request) (e : Endpoint) :
    JarInv env (w.step env fails .other r e) := by
  have hext := (serve_signs env fails w.server r e).extends
  refine ⟨fun v hv => ?_, fun v hv => ?_⟩
  · obtain ⟨r₀, ar, hashed, hl, har, hk⟩ := hi.authRequest v hv
    exact ⟨r₀, ar, hashed, hl, har, hext.verify hk⟩
  · obtain ⟨claims, hk, hn⟩ := hi.upstream v hv
    exact ⟨claims, hext.verify hk, hn⟩

theorem JarInv.agent {w : World} (hi : JarInv env w) (r : Request) (e : Endpoint) :
    JarInv env (w.step env fails .agent r e) := by
  have hext := (serve_signs env fails w.server (w.fromAgent r) e).extends
  refine ⟨fun v hv => ?_, fun v hv => ?_⟩
  · simp only [World.step] at hv ⊢
    rcases lookup_receive hv with ⟨c, hc, hn, rfl, hl⟩ | ⟨hj, hnone⟩
    · obtain ⟨ar, hashed, har, hk⟩ := serve_live_auth_request hc hl hn
      have hany : (w.server.serve env fails (w.fromAgent r) e).1.setCookies.any (fun c =>
          c.name = env.cookiePrefix ++ "auth_request" && !decide (c.maxAge < 0)) = true :=
        List.any_eq_true.2 ⟨c, hc, by simp [hn, hl]⟩
      exact ⟨_, ar, hashed, by rw [if_pos hany], har, hk⟩
    · obtain ⟨r₀, ar, hashed, hl, har, hk⟩ := hi.authRequest v hj
      have hany : (w.server.serve env fails (w.fromAgent r) e).1.setCookies.any (fun c =>
          c.name = env.cookiePrefix ++ "auth_request" && !decide (c.maxAge < 0)) = false :=
        List.any_eq_false.2 fun c hc => by simp [hnone c hc]
      exact ⟨r₀, ar, hashed, by rw [hany]; exact hl, har, hext.verify hk⟩
  · simp only [World.step] at hv ⊢
    rcases lookup_receive hv with ⟨c, hc, hn, rfl, hl⟩ | ⟨hj, -⟩
    · obtain ⟨nonce, hnonce, claims, hk, hc'⟩ := serve_live_upstream hc hl hn
      exact ⟨claims, hk, List.mem_append_right _ (hc' ▸ hnonce)⟩
    · obtain ⟨claims, hk, hn⟩ := hi.upstream v hj
      exact ⟨claims, hext.verify hk, List.mem_append_left _ hn⟩

theorem World.Reachable.jarInv {w : World} (hw : World.Reachable env w) : JarInv env w := by
  induction hw with
  | init k hk jar hauth hup => exact ⟨fun v hv => by simp [hauth] at hv, fun v hv => by simp [hup] at hv⟩
  | step fails sender r e _ _ ih => cases sender with
    | agent => exact ih.agent r e
    | other => exact ih.other r e

variable {w : World} {target : String}

theorem agent_auth_request {authReq : Claims} (hi : JarInv env w)
    (h : getJwtFromCookie w.server.keyring (env.cookiePrefix ++ "auth_request") (w.fromAgent r) =
      .ok authReq) :
    ∃ r₀ ar hashed, w.lastAuth = some r₀ ∧ parseAuthRequest {} r₀ = .ok ar ∧
      authReq = authRequestClaims r₀.now hashed ar r₀ := by
  obtain ⟨v, hv, hk⟩ := getJwtFromCookie_verify h
  obtain ⟨r₀, ar, hashed, hl, har, hk'⟩ := hi.authRequest v hv
  exact ⟨r₀, ar, hashed, hl, har, Option.some.inj (hk.symm.trans hk')⟩

/-- Whatever consent page an agent submits, the code `/approve` issues is for the client of
the last `/auth` request that set the agent's `auth_request` cookie, and is delivered to
that request's redirect URI. -/
theorem agent_code_for_last_auth (hw : World.Reachable env w)
    (h : (w.server.serve env fails (w.fromAgent r) .approve).1.location = some target) :
    ∃ r₀ ar hashed, w.lastAuth = some r₀ ∧ parseAuthRequest {} r₀ = .ok ar ∧
      DeliversCodeFor (w.server.serve env fails (w.fromAgent r) .approve).2.keyring
        (authRequestClaims r₀.now hashed ar r₀) target := by
  obtain ⟨authReq, hreq, -, hdel⟩ := approve_redirect_bound_to_client hw.server h
  obtain ⟨r₀, ar, hashed, hl, har, rfl⟩ := agent_auth_request hw.jarInv hreq
  exact ⟨r₀, ar, hashed, hl, har, hdel⟩

def start : World := ⟨boot, [("obligator_login_key", "e0")], none, [], []⟩

theorem start_reachable : World.Reachable demoEnv start := .init _ boot_sessionsOnly _ rfl rfl

def authFor (host : String) (now : Nat) : Request :=
  ⟨"GET", "idp.example", "/auth", "", [("client_id", "https://" ++ host),
    ("redirect_uri", "https://" ++ host ++ "/cb"), ("response_type", "code")], [], "", now⟩

def submit (now : Nat) : Request :=
  ⟨"POST", "idp.example", "/approve", "", [("identity_id", "alice@example.com")], [], "", now⟩

def twoFlows : World :=
  ((start.step demoEnv noFaults .agent (authFor "a.example" 1) .auth).step demoEnv noFaults .agent
    (authFor "b.example" 2) .auth)

set_option maxRecDepth 2000 in
theorem agent_code_for_last_auth_demo :
    ∃ r₀ ar hashed, twoFlows.lastAuth = some r₀ ∧ parseAuthRequest {} r₀ = .ok ar ∧
      DeliversCodeFor (twoFlows.server.serve demoEnv noFaults (twoFlows.fromAgent (submit 3))
        .approve).2.keyring (authRequestClaims r₀.now hashed ar r₀)
        ("https://b.example/cb?client_id=https://b.example&redirect_uri=https://b.example/cb" ++
          "&code=e7&state=&scope=") :=
  agent_code_for_last_auth (.step _ _ _ _ rfl (.step _ _ _ _ rfl start_reachable))
    (show (twoFlows.server.serve demoEnv noFaults (twoFlows.fromAgent (submit 3)) .approve).1.location
      = some _ by decide)

set_option maxRecDepth 2000 in
/-- Submitting the consent page rendered for `a.example` yields a code for `b.example`,
delivered to `b.example`: its ID token's audience is `b.example`. -/
theorem consent_for_one_client_codes_another :
    let res := twoFlows.server.serve demoEnv noFaults (twoFlows.fromAgent (submit 3)) .approve
    World.Reachable demoEnv twoFlows ∧
      ((auth demoEnv noFaults start.server.keyring (start.fromAgent (authFor "a.example" 1))).2.2.map
        (·.clientId)) = some (bytes "a.example") ∧
      res.1.location = some ("https://b.example/cb?client_id=https://b.example" ++
        "&redirect_uri=https://b.example/cb&code=e7&state=&scope=") ∧
      (res.2.keyring.verify "e6").bind (·.lookup "aud") = some (.strs ["https://b.example"]) :=
  ⟨.step _ _ _ _ rfl (.step _ _ _ _ rfl start_reachable), by decide, by decide, by decide⟩

/-- Honest providers: whenever a token endpoint answers the exchange of a code with an ID
token that verifies under a provider's key set, that token carries the nonce of the
authorization request the code was issued for. -/
def Honest (u : Providers) (nonceOf : String → String) : Prop :=
  ∀ endpoint body status tokenRes pid keyset now idToken,
    u.exchange endpoint body = .ok (status, .ok tokenRes) → u.keyset pid = .ok keyset →
    u.parse keyset now tokenRes.idToken = .ok idToken →
    idToken.lookup "nonce" = some (.str (nonceOf ((body.lookup "code").getD "")))

/-- What a `/callback` of the agent that sets a session cookie rests on: the identity it
appends comes from an ID token verified under the provider's key set, whose nonce is that
of the agent's `upstream_oauth2_request` envelope, a nonce drawn for the agent and for no
one else, and the nonce of the code's authorization request. -/
def NonceBound (env : Env) (w : World) (u : Providers) (nonceOf : String → String)
    (r : Request) (res : Response × Keyring) : Prop :=
  ∃ (upstreamReq : Claims) (provider : OAuth2Provider) (keyset : String)
    (tokenRes : OAuth2TokenResponse) (idToken : Claims) (name : String),
    getJwtFromCookie w.server.keyring (env.cookiePrefix ++ "upstream_oauth2_request")
      (w.fromAgent r) = .ok upstreamReq ∧
    u.keyset provider.id = .ok keyset ∧ u.parse keyset r.now tokenRes.idToken = .ok idToken ∧
    idToken.lookup "nonce" = some (.str (claimFromToken "nonce" upstreamReq)) ∧
    Appends env res ⟨"email", email idToken, provider.name, name, email idToken, true⟩ ∧
    claimFromToken "nonce" upstreamReq ∈ w.agentNonces ∧
    nonceOf (r.formValue "code") = claimFromToken "nonce" upstreamReq ∧
    nonceOf (r.formValue "code") ∉ w.otherNonces

/-- When the agent's `upstream_oauth2_request` envelope names an OpenID Connect provider, the
providers are honest and nonces are drawn distinct, a `/callback` of the agent appends an
identity only from an ID token with the nonce of the agent's own upstream request, so never
from a code issued for another party's login. -/
theorem agent_callback_nonce_bound {u : Providers} {nonceOf : String → String}
    (hw : World.Reachable env w)
    (hoidc : ∀ upstreamReq provider, getJwtFromCookie w.server.keyring
      (env.cookiePrefix ++ "upstream_oauth2_request") (w.fromAgent r) = .ok upstreamReq →
      env.providerById (claimFromToken "provider_id" upstreamReq) = .ok provider →
      provider.openIdConnect = true)
    (hhonest : Honest u nonceOf) (hdistinct : ∀ n ∈ w.agentNonces, n ∉ w.otherNonces)
    (h : SetsSession env (w.server.serve env fails (w.fromAgent r) (.callback u)).1) :
    NonceBound env w u nonceOf r ((w.server.serve env fails (w.fromAgent r) (.callback u)).1,
      (w.server.serve env fails (w.fromAgent r) (.callback u)).2.keyring) := by
  obtain ⟨upstreamReq, provider, tokenRes, email, name, hup, hprov, ⟨endpoint, status, hexch⟩, ha,
    -, happ⟩ := callback_sets_session h
  rcases assertedIdentity_ok ha with ⟨-, keyset, idToken, hks, hparse, hnonce, rfl⟩ | ⟨ho, -⟩ | ⟨ho, -⟩
  · obtain ⟨v, hv, hk⟩ := getJwtFromCookie_verify hup
    obtain ⟨claims, hk', hin⟩ := hw.jarInv.upstream v hv
    obtain rfl := Option.some.inj (hk.symm.trans hk')
    have hcode : nonceOf (r.formValue "code") = claimFromToken "nonce" upstreamReq := by
      have := (hhonest _ _ _ _ _ _ _ _ hexch hks hparse).symm.trans hnonce
      simpa [exchangeBody] using this
    exact ⟨upstreamReq, provider, keyset, tokenRes, idToken, name, hup, hks, hparse, hnonce, happ, hin,
      hcode, hcode ▸ hdistinct _ hin⟩
  all_goals simp [hoidc _ _ hup hprov] at ho

def google : OAuth2Provider :=
  ⟨"google", "Google", "https://accounts.google.example", "obligator", "secret", "", "",
    "openid email", true⟩

def oidcEnv : Env := { demoEnv with providers := [google] }

def googleNonce (code : String) : String := if code = "c1" then "nn" else "other"

def googleWorld : Providers where
  meta _ := .ok ⟨"https://accounts.google.example/auth", "https://accounts.google.example/token",
    "https://accounts.google.example/jwks"⟩
  keyset _ := .ok "google-keys"
  exchange _ body := .ok (200, .ok ⟨"at", (body.lookup "code").getD ""⟩)
  userEmails _ := .error "unreachable"
  oidcConfig _ := .error "unreachable"
  jwks _ := .error "unreachable"
  decode tok := .ok [("nonce", .str (googleNonce tok)), ("email", .str "alice@example.com"),
    ("iat", .time 0), ("exp", .time 100)]
  signedBy keyset _ := keyset = "google-keys"

theorem googleWorld_honest : Honest googleWorld googleNonce := by
  intro endpoint body status tokenRes pid keyset now idToken hex _ hparse
  simp only [googleWorld, Except.ok.injEq, Prod.mk.injEq] at hex
  obtain ⟨-, rfl⟩ := hex
  unfold Providers.parse at hparse
  split_ifs at hparse
  obtain rfl := Keyring.validate_ok hparse
  rfl

def googleRandom : Random := ⟨fun _ => .ok 0, .ok "st", .ok "nn"⟩

def loggingIn : World :=
  ((⟨fresh, [], none, [], []⟩ : World).step oidcEnv noFaults .agent rAuthAnon .auth).step oidcEnv
    noFaults .agent ⟨"GET", "idp.example", "/login-oauth2", "", [("oauth2_provider_id", "google")],
      [], "", 2⟩ (.loginOAuth2 googleWorld googleRandom)

def rCallbackGoogle : Request :=
  ⟨"GET", "idp.example", "/callback", "", [("code", "c1"), ("state", "st")], [], "", 3⟩

theorem agent_callback_nonce_bound_demo :
    NonceBound oidcEnv loggingIn googleWorld googleNonce rCallbackGoogle
      ((loggingIn.server.serve oidcEnv noFaults (loggingIn.fromAgent rCallbackGoogle)
        (.callback googleWorld)).1,
       (loggingIn.server.serve oidcEnv noFaults (loggingIn.fromAgent rCallbackGoogle)
        (.callback googleWorld)).2.keyring) :=
  agent_callback_nonce_bound
    (.step _ _ _ _ rfl (.step _ _ _ _ rfl (.init _ (fun _ hc => absurd hc (List.not_mem_nil _)) _
      rfl rfl)))
    (fun _ _ _ hp => by obtain rfl := List.mem_singleton.1 (Env.providerById_mem hp); rfl)
    googleWorld_honest (by decide)
    ⟨loginKeyCookie oidcEnv "e3", by decide, rfl⟩

end Obligator.UserAgent
