import Obligator.Server

/-!
# What the server signs

Every envelope in the key ring of a reachable state was built at one of the program's
minting sites, from what that site had checked. `Minted` lists the sites: an `auth_request`
envelope carries a `client_id`/`redirect_uri` pair that `ParseAuthRequest` accepted, and a
code wraps an ID token the server signed just before it. The invariant `Inv` is proved for
every reachable state from one lemma per handler saying what it can sign.
-/

namespace Obligator

open Http Url Oidc Upstream

namespace Keyring

def Extends (k k' : Keyring) : Prop := ∃ more, k'.signed = k.signed ++ more

theorem Extends.refl (k : Keyring) : k.Extends k := ⟨[], by simp⟩

theorem Extends.trans {k₁ k₂ k₃ : Keyring} (h₁ : k₁.Extends k₂) (h₂ : k₂.Extends k₃) :
    k₁.Extends k₃ := by
  obtain ⟨m₁, e₁⟩ := h₁
  obtain ⟨m₂, e₂⟩ := h₂
  exact ⟨m₁ ++ m₂, by simp [e₂, e₁]⟩

theorem extends_sign (k : Keyring) (c : Claims) : k.Extends (k.sign c).2 := ⟨[c], rfl⟩

theorem Extends.mem {k k' : Keyring} {c : Claims} (h : k.Extends k') (hc : c ∈ k.signed) :
    c ∈ k'.signed := by
  obtain ⟨m, e⟩ := h
  simp [e, hc]

theorem Extends.verify {k k' : Keyring} {s : String} {c : Claims} (h : k.Extends k')
    (hv : k.verify s = some c) : k'.verify s = some c := by
  obtain ⟨m, e⟩ := h
  simpa [Keyring.verify, e] using lookupFrom_append m hv

end Keyring

def IsIdToken (authReq c : Claims) : Prop :=
  ∃ clientId rootUri nonce now ident pr, c = idTokenClaims ident.id clientId rootUri nonce now
    ident (scopeHas (claimFromToken "scope" authReq) "email") pr

/-- The envelopes the program signs, one constructor per minting site, with what the site
established before signing. -/
inductive Minted (k : Keyring) : Claims → Prop
  | session (now ttl : Nat) (idents : List Identity) (logins : List (String × List Login))
      (hne : idents ≠ []) : Minted k (sessionClaims now ttl idents logins)
  | returnUri (now ttl : Nat) (uri : String) : Minted k (returnUriClaims now ttl uri)
  | authRequest (now : Nat) (hashed : String) (ar : OAuth2AuthRequest) (r : Request)
      (hhost : hostOf ar.redirectUri = hostOf ar.clientId) :
      Minted k (authRequestClaims now hashed ar r)
  | idToken (identId clientId rootUri nonce : String) (now : Nat) (ident : Identity)
      (er pr : Bool) : Minted k (idTokenClaims identId clientId rootUri nonce now ident er pr)
  | code (now : Nat) (idToken : Claims) (signedIdToken : String) (authReq : Claims)
      (hid : k.verify signedIdToken = some idToken) (hshape : IsIdToken authReq idToken)
      (hreq : authReq ∈ k.signed) : Minted k (approvalCode now idToken signedIdToken authReq)
  | accessToken (now : Nat) (sub : String) : Minted k (accessTokenClaims now sub)
  | upstreamRequest (now : Nat) (providerId state nonce verifier : String) :
      Minted k (upstreamRequestClaims now providerId state nonce verifier)

theorem Minted.mono {k k' : Keyring} {c : Claims} (h : k.Extends k') : Minted k c → Minted k' c
  | .session now ttl idents logins hne => .session now ttl idents logins hne
  | .returnUri .. => .returnUri ..
  | .authRequest now hashed ar r hhost => .authRequest now hashed ar r hhost
  | .idToken .. => .idToken ..
  | .code now idt s a hid hshape hreq => .code now idt s a (h.verify hid) hshape (h.mem hreq)
  | .accessToken .. => .accessToken ..
  | .upstreamRequest .. => .upstreamRequest ..

/-- A PKCE challenge is empty, or the `code_challenge` of an `/auth` request whose
`auth_request` envelope is signed. -/
def Traced (k : Keyring) (p : String) : Prop :=
  p = "" ∨ ∃ now hashed ar r, authRequestClaims now hashed ar r ∈ k.signed ∧
    r.formValue "code_challenge" = p

theorem Traced.mono {k k' : Keyring} {p : String} (h : k.Extends k') : Traced k p → Traced k' p
  | .inl hp => .inl hp
  | .inr ⟨now, hashed, ar, r, hm, hp⟩ => .inr ⟨now, hashed, ar, r, h.mem hm, hp⟩

/-- The invariant of the key ring. -/
structure Inv (k : Keyring) : Prop where
  minted : ∀ c ∈ k.signed, Minted k c
  traced : ∀ c ∈ k.signed, Traced k (claimFromToken "pkce_code_challenge" c)

theorem idTokenClaims_lookup_other (key identId clientId rootUri nonce : String) (now : Nat)
    (ident : Identity) (er pr : Bool) (hk : key ∈ ["client_id", "redirect_uri",
      "pkce_code_challenge", "id_token", "identities"]) :
    (idTokenClaims identId clientId rootUri nonce now ident er pr).lookup key = none := by
  simp only [List.mem_cons, List.mem_singleton, List.not_mem_nil, or_false] at hk
  unfold idTokenClaims
  rcases hk with rfl | rfl | rfl | rfl | rfl <;> split_ifs <;> rfl

theorem Minted.traced {k : Keyring} {c : Claims} (hi : Inv k) (hm : Minted k c) :
    Traced (k.sign c).2 (claimFromToken "pkce_code_challenge" c) := by
  cases hm with
  | authRequest now hashed ar r =>
    exact .inr ⟨now, hashed, ar, r, by simp, rfl⟩
  | code now idt s a hid hshape hreq =>
    exact (hi.traced a hreq).mono (k.extends_sign _)
  | idToken =>
    left
    simp only [claimFromToken, idTokenClaims_lookup_other "pkce_code_challenge" _ _ _ _ _ _ _ _
      (by simp)]
  | _ => exact .inl rfl

theorem Inv.sign {k : Keyring} {c : Claims} (hi : Inv k) (hm : Minted k c) :
    Inv (k.sign c).2 where
  minted d hd := by
    simp only [Keyring.sign_signed, List.mem_append, List.mem_singleton] at hd
    rcases hd with hd | rfl
    · exact (hi.minted d hd).mono (k.extends_sign c)
    · exact hm.mono (k.extends_sign _)
  traced d hd := by
    simp only [Keyring.sign_signed, List.mem_append, List.mem_singleton] at hd
    rcases hd with hd | rfl
    · exact (hi.traced d hd).mono (k.extends_sign c)
    · exact hm.traced hi

inductive Signs : Keyring → Keyring → Prop
  | refl (k : Keyring) : Signs k k
  | sign {k k' : Keyring} {c : Claims} (hm : Minted k c) (h : Signs (k.sign c).2 k') : Signs k k'

theorem Signs.inv {k k' : Keyring} (h : Signs k k') (hi : Inv k) : Inv k' := by
  induction h with
  | refl => exact hi
  | sign hm _ ih => exact ih (hi.sign hm)

theorem Signs.extends {k k' : Keyring} (h : Signs k k') : k.Extends k' := by
  induction h with
  | refl k => exact .refl k
  | sign _ _ ih => exact (Keyring.extends_sign _ _).trans ih

theorem Signs.one {k : Keyring} {c : Claims} (hm : Minted k c) : Signs k (k.sign c).2 :=
  .sign hm (.refl _)

theorem Signs.trans {k₁ k₂ k₃ : Keyring} (h₁ : Signs k₁ k₂) (h₂ : Signs k₂ k₃) : Signs k₁ k₃ := by
  induction h₁ with
  | refl => exact h₂
  | sign hm _ ih => exact .sign hm (ih h₂)

theorem addIdentToCookie_ok {env : Env} {k k' : Keyring} {now : Nat} {fails : Fault → Bool}
    {v : String} {ident : Identity} {cookie : Cookie}
    (h : addIdentToCookie env k now fails v ident = .ok (cookie, k')) : Signs k k' := by
  simp only [addIdentToCookie] at h
  split_ifs at h
  cases h
  exact .one (.session _ _ _ _ (appendIdentity_ne_nil _ _))

theorem addLoginToCookie_extends {env : Env} {k k' : Keyring} {now : Nat} {fails : Fault → Bool}
    {v client : String} {l : Login} {cookie : Cookie}
    (h : addLoginToCookie env k now fails v client l = .ok (cookie, k')) : k.Extends k' := by
  simp only [addLoginToCookie] at h
  split at h
  · cases h
  · split_ifs at h
    cases h
    exact Keyring.extends_sign _ _

theorem addLoginToCookie_ok {env : Env} {k k' : Keyring} {now : Nat} {fails : Fault → Bool}
    {v client : String} {l : Login} {cookie : Cookie} {session : Claims}
    (hs : k.parse now v = .ok session) (hne : identitiesOf session ≠ [])
    (h : addLoginToCookie env k now fails v client l = .ok (cookie, k')) : Signs k k' := by
  simp only [addLoginToCookie, hs] at h
  split_ifs at h
  cases h
  exact .one (.session _ _ _ _ hne)

theorem parseAuthRequest_host {w : Response} {r : Request} {ar : OAuth2AuthRequest}
    (h : parseAuthRequest w r = .ok ar) : hostOf ar.redirectUri = hostOf ar.clientId := by
  unfold parseAuthRequest at h
  dsimp only at h
  repeat' split at h
  all_goals cases h
  simp_all [hostOf]

theorem auth_signs (env : Env) (fails : Fault → Bool) (k : Keyring) (r : Request) :
    Signs k (auth env fails k r).2.1 := by
  unfold auth
  split
  · exact .refl k
  · rename_i ar har
    simp only
    have hm := Minted.authRequest (k := k) r.now (readLoginKey env k r).1 ar r
      (parseAuthRequest_host har)
    split_ifs
    · exact .refl k
    · exact .one hm
    all_goals split
    all_goals first | exact .one hm | exact .sign hm (.one (.returnUri ..))

theorem approveSign_signs {env : Env} {fails : Fault → Bool} {k : Keyring} {r : Request}
    {authReq : Claims} {identity : Identity} {w : Response}
    (hident : identity.id = r.formValue "identity_id") (hreq : authReq ∈ k.signed) :
    Signs k (approveSign env fails k r authReq identity w).2 := by
  have hid := Minted.idToken (k := k) (r.formValue "identity_id")
    (claimFromToken "client_id" authReq) env.rootUri (claimFromToken "nonce" authReq) r.now
    identity (scopeHas (claimFromToken "scope" authReq) "email")
    (scopeHas (claimFromToken "scope" authReq) "profile")
  unfold approveSign
  split_ifs
  · exact .refl k
  · exact .one hid
  · exact .one hid
  · exact .sign hid (.one (.code _ _ _ _ (Keyring.verify_sign_self _ _)
      ⟨_, _, _, _, _, _, by rw [approvalIdToken, hident]⟩ ((Keyring.extends_sign _ _).mem hreq)))

theorem approveIssue_signs {env : Env} {fails : Fault → Bool} {k : Keyring} {r : Request}
    {loginKey : String} {session authReq : Claims} {identity : Identity}
    (hs : k.parse r.now loginKey = .ok session) (hmem : identity ∈ identitiesOf session)
    (hident : identity.id = r.formValue "identity_id") (hreq : authReq ∈ k.signed) :
    Signs k (approveIssue env fails k r loginKey authReq identity).2 := by
  unfold approveIssue
  dsimp only
  split
  · exact .refl k
  · have hk := addLoginToCookie_ok hs (List.ne_nil_of_mem hmem) ‹_›
    exact hk.trans (approveSign_signs hident (hk.extends.mem hreq))

theorem approve_signs (env : Env) (fails : Fault → Bool) (err : Option String) (k : Keyring)
    (r : Request) : Signs k (approve env fails err k r).2 := by
  unfold approve
  split
  · exact .refl k
  · obtain ⟨-, -, hs, hreq, hfind⟩ := approveChecks_ok ‹_›
    exact approveIssue_signs hs (findIdentity_some hfind).1 (findIdentity_some hfind).2
      (getJwtFromCookie_mem hreq)

theorem token_signs (env : Env) (fails : Fault → Bool) (k : Keyring) (r : Request) :
    Signs k (token env fails k r).2 := by
  unfold token issueTokens
  repeat' split
  all_goals first | exact .refl k | exact .one (.accessToken ..)

theorem loginOAuth2_signs (env : Env) (fails : Fault → Bool) (u : Providers) (rnd : Random)
    (k : Keyring) (r : Request) : Signs k (loginOAuth2 env fails u rnd k r).2 := by
  unfold loginOAuth2
  simp only
  repeat' split
  all_goals first | exact .refl k | exact .one (.upstreamRequest ..)

theorem callback_signs (env : Env) (fails : Fault → Bool) (u : Providers) (k : Keyring)
    (r : Request) : Signs k (callback env fails u k r).2 := by
  rcases callback_cases env fails u k r with ⟨hk, -⟩ | ⟨_, _, _, _, _, _, _, _, _, _, -, -, -, -, -, hadd, hres⟩
  · rw [hk]
    exact .refl k
  · rw [hres]
    exact addIdentToCookie_ok hadd

theorem loginFedCm_signs (env : Env) (fails : Fault → Bool) (k : Keyring) (r : Request) :
    Signs k (loginFedCm env fails k r).2.1 := by
  unfold loginFedCm
  split <;> exact .one (.returnUri ..)

theorem completeLoginFedCm_signs (env : Env) (fails : Fault → Bool) (u : Providers)
    (k : Keyring) (r : Request) : Signs k (completeLoginFedCm env fails u k r).2 := by
  unfold completeLoginFedCm
  dsimp only
  repeat' split
  all_goals first | exact .refl k | exact addIdentToCookie_ok ‹_›

theorem serve_signs (env : Env) (fails : Fault → Bool) (s : Server) (r : Request) (e : Endpoint) :
    Signs s.keyring (s.serve env fails r e).2.keyring := by
  cases e with
  | wellKnown | register | userinfo => exact .refl _
  | auth => exact auth_signs ..
  | approve => exact approve_signs ..
  | token => exact token_signs ..
  | loginOAuth2 => exact loginOAuth2_signs ..
  | callback => exact callback_signs ..
  | loginFedCm => exact loginFedCm_signs ..
  | completeLoginFedCm => exact completeLoginFedCm_signs ..

theorem SessionsOnly.inv {k : Keyring} (hk : SessionsOnly k) : Inv k where
  minted c hc := by
    obtain ⟨now, ttl, idents, logins, hne, rfl⟩ := hk c hc
    exact .session _ _ _ _ hne
  traced c hc := by
    obtain ⟨now, ttl, idents, logins, -, rfl⟩ := hk c hc
    exact .inl rfl

theorem Reachable.inv {env : Env} {s : Server} (h : Reachable env s) : Inv s.keyring := by
  induction h with
  | boot k hk => exact hk.inv
  | step fails r e _ _ ih => exact (serve_signs env fails _ r e).inv ih

theorem Minted.host {k : Keyring} {c : Claims} (hm : Minted k c) :
    hostOf (claimFromToken "redirect_uri" c) = hostOf (claimFromToken "client_id" c) := by
  cases hm with
  | authRequest now hashed ar r hhost => exact hhost
  | idToken =>
    simp only [claimFromToken, idTokenClaims_lookup_other "redirect_uri" _ _ _ _ _ _ _ _ (by simp),
      idTokenClaims_lookup_other "client_id" _ _ _ _ _ _ _ _ (by simp)]
  | _ => rfl

theorem Minted.code_of_id_token {k : Keyring} {c : Claims} {signedIdToken : String}
    (hm : Minted k c) (h : c.lookup "id_token" = some (.str signedIdToken)) :
    ∃ now idToken authReq, c = approvalCode now idToken signedIdToken authReq ∧
      k.verify signedIdToken = some idToken ∧ authReq ∈ k.signed ∧ IsIdToken authReq idToken := by
  cases hm with
  | code now idt s a hid hshape hreq =>
    cases h
    exact ⟨now, idt, a, rfl, hid, hreq, hshape⟩
  | idToken =>
    rw [idTokenClaims_lookup_other "id_token" _ _ _ _ _ _ _ _ (by simp)] at h
    cases h
  | _ => cases h

theorem Minted.identities_ne_nil {k : Keyring} {c : Claims} {idents : List Identity}
    (hm : Minted k c) (h : c.lookup "identities" = some (.identities idents)) : idents ≠ [] := by
  cases hm with
  | session _ _ _ _ hne =>
    cases h
    exact hne
  | idToken =>
    rw [idTokenClaims_lookup_other "identities" _ _ _ _ _ _ _ _ (by simp)] at h
    cases h
  | _ => cases h

end Obligator
