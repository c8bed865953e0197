import Mathlib.Data.List.Sort
import Obligator.Storage
import Obligator.Url

/-!
# `ParseAuthRequest` and `/auth`

`/auth` validates the relying party's request, reads the session cookie, mints the
`auth_request` envelope that `/approve` later reads back, sets the return-URI cookie and
renders the consent page.
-/

namespace Obligator.Oidc

open Http Url

structure OAuth2AuthRequest where
  clientId : String
  redirectUri : String
  scope : String
  state : String
  responseType : String
  codeChallenge : String
  deriving DecidableEq, Repr

/-- `ParseAuthRequest(w, r)`: the request, or the response it wrote. -/
def parseAuthRequest (w : Response) (r : Request) : Except Response OAuth2AuthRequest :=
  let clientId := r.formValue "client_id"
  let redirectUri := r.formValue "redirect_uri"
  if clientId = "" then .error (w.fail 400 "client_id missing")
  else if redirectUri = "" then .error (w.fail 400 "redirect_uri missing")
  else match urlParse clientId, urlParse redirectUri with
  | .error _, _ => .error (w.fail 400 "client_id is not a valid URI")
  | .ok _, .error _ => .error (w.fail 400 "redirect_uri is not a valid URI")
  | .ok parsedClientIdUri, .ok parsedRedirectUri =>
    if parsedClientIdUri.host ≠ parsedRedirectUri.host then
      .error (w.fail 400 "redirect_uri must be on the same domain as client_id")
    else
      let scope := r.formValue "scope"
      let state := r.formValue "state"
      if r.formValue "prompt" = "none" then
        .error (w.redirect r.method "/auth" (redirectUri ++ "?error=interaction_required&state=" ++ state) 303)
      else
        let responseType := r.formValue "response_type"
        if responseType = "" then
          .error (w.redirect r.method "/auth" (redirectUri ++ "?error=unsupported_response_type&state=" ++ state) 303)
        else .ok ⟨clientId, redirectUri, scope, state, responseType, r.formValue "code_challenge"⟩

def authRequestClaims (now : Nat) (hashedLoginKey : String) (ar : OAuth2AuthRequest)
    (r : Request) : Claims :=
  [("iat", .time now), ("exp", .time (now + 480)), ("login_key_hash", .str hashedLoginKey),
    ("client_id", .str ar.clientId), ("redirect_uri", .str ar.redirectUri),
    ("state", .str ar.state), ("scope", .str (r.formValue "scope")),
    ("nonce", .str (r.formValue "nonce")),
    ("pkce_code_challenge", .str (r.formValue "code_challenge")),
    ("response_type", .str ar.responseType)]

structure AuthPage where
  clientId : List Nat
  identities : List Identity
  remainingIdentities : List Identity
  previousLogins : List Login
  returnUri : String
  deriving DecidableEq, Repr

def readLoginKey (env : Env) (k : Keyring) (r : Request) :
    String × List Identity × List (String × List Login) :=
  match r.cookie (env.cookiePrefix ++ "login_key") with
  | some v =>
    if v = "" then ("", [], [])
    else match k.parse r.now v with
      | .ok parsed => (env.hash v, identitiesOf parsed, loginsOf parsed)
      | .error _ => (env.hash v, [], [])
  | none => ("", [], [])

def sortNewestFirst (ls : List Login) : List Login :=
  ls.insertionSort fun a b => b.timestamp ≤ a.timestamp

def loginFound (ident : Identity) : List Login → Bool
  | [] => false
  | login :: rest =>
    if login.id = ident.id ∧ login.providerName = ident.providerName then true
    else loginFound ident rest

def remainingIdents (identities : List Identity) (previousLogins : List Login) : List Identity :=
  identities.foldl (fun remaining ident =>
    if loginFound ident previousLogins then remaining else remaining ++ [ident]) []

/-- The `/auth` handler: the response, the key ring, and the page it renders. -/
def auth (env : Env) (fails : Fault → Bool) (k : Keyring) (r : Request) :
    Response × Keyring × Option AuthPage :=
  match parseAuthRequest {} r with
  | .error w => (w, k, none)
  | .ok ar =>
    let loginKey := readLoginKey env k r
    let previousLogins := sortNewestFirst ((loginKey.2.2.lookup ar.clientId).getD [])
    let remaining := remainingIdents loginKey.2.1 previousLogins
    if fails .authRequestBuild then (({} : Response).fail 500 "failed to build auth_request", k, none)
    else
      let set := setJwtCookie k (authRequestClaims r.now loginKey.1 ar r)
        (env.cookiePrefix ++ "auth_request") 480 {}
      if fails .providersGet then (set.1.fail 500 "failed to get providers", set.2, none)
      else match urlParse ar.clientId with
      | .error e => (set.1.fail 400 e, set.2, none)
      | .ok parsedClientId =>
        let returnUri := r.path ++ "?" ++ r.rawQuery
        let set := setReturnUriCookie env set.2 r.now returnUri set.1
        if fails .templateExecute then (set.1.fail 500 "failed to render auth.html", set.2, none)
        else (set.1.write "", set.2,
          some ⟨parsedClientId.host, loginKey.2.1, remaining, previousLogins, returnUri⟩)

theorem loginFound_iff {ident : Identity} {logins : List Login} :
    loginFound ident logins = true ↔
      ∃ l ∈ logins, l.id = ident.id ∧ l.providerName = ident.providerName := by
  induction logins with
  | nil => simp [loginFound]
  | cons login rest ih =>
    by_cases h : login.id = ident.id ∧ login.providerName = ident.providerName
    · simp [loginFound, h]
    · simp only [loginFound, h, if_false, ih, List.mem_cons, exists_eq_or_imp, false_or]

theorem foldl_remaining (previousLogins : List Login) (identities acc : List Identity) :
    identities.foldl (fun remaining ident =>
        if loginFound ident previousLogins then remaining else remaining ++ [ident]) acc =
      acc ++ identities.filter fun ident => !loginFound ident previousLogins := by
  induction identities generalizing acc with
  | nil => simp
  | cons ident rest ih =>
    rw [List.foldl_cons, ih, List.filter_cons]
    cases loginFound ident previousLogins <;> simp

theorem remainingIdents_eq_filter (identities : List Identity) (previousLogins : List Login) :
    remainingIdents identities previousLogins =
      identities.filter fun ident =>
        decide ¬∃ l ∈ previousLogins, l.id = ident.id ∧ l.providerName = ident.providerName := by
  rw [remainingIdents, foldl_remaining, List.nil_append]
  congr 1
  funext ident
  simp only [← loginFound_iff]
  cases loginFound ident previousLogins <;> rfl

theorem sortNewestFirst_perm (logins : List Login) : (sortNewestFirst logins).Perm logins :=
  List.perm_insertionSort _ _

theorem sortNewestFirst_sorted (logins : List Login) :
    (sortNewestFirst logins).Pairwise fun a b => b.timestamp ≤ a.timestamp :=
  have : IsTotal Login fun a b => b.timestamp ≤ a.timestamp := ⟨fun _ _ => Nat.le_total _ _⟩
  have : IsTrans Login fun a b => b.timestamp ≤ a.timestamp := ⟨fun _ _ _ h₁ h₂ => h₂.trans h₁⟩
  List.sorted_insertionSort _ _

theorem readLoginKey_sessions (env : Env) (k : Keyring) (r : Request) :
    (∃ v parsed, r.cookie (env.cookiePrefix ++ "login_key") = some v ∧ v ≠ "" ∧
      k.parse r.now v = .ok parsed ∧
      (readLoginKey env k r).2 = (identitiesOf parsed, loginsOf parsed)) ∨
    ((∀ v parsed, r.cookie (env.cookiePrefix ++ "login_key") = some v → v ≠ "" →
      k.parse r.now v ≠ .ok parsed) ∧ (readLoginKey env k r).2 = ([], [])) := by
  unfold readLoginKey
  split
  · rename_i v hv
    split_ifs with he
    · exact .inr ⟨fun _ _ h h' => absurd he (by simp_all), rfl⟩
    · split
      · exact .inl ⟨v, _, hv, he, ‹_›, rfl⟩
      · exact .inr ⟨fun _ _ h _ => by simp_all, rfl⟩
  · exact .inr ⟨fun _ _ h => by simp_all, rfl⟩

theorem parseAuthRequest_clientId {w : Response} {r : Request} {ar : OAuth2AuthRequest}
    (h : parseAuthRequest w r = .ok ar) : ar.clientId = r.formValue "client_id" := by
  unfold parseAuthRequest at h
  dsimp only at h
  repeat' split at h
  all_goals cases h
  rfl

theorem auth_page {env : Env} {fails : Fault → Bool} {k : Keyring} {r : Request} {page : AuthPage}
    (h : (auth env fails k r).2.2 = some page) :
    page.identities = (readLoginKey env k r).2.1 ∧
      page.previousLogins =
        sortNewestFirst (((readLoginKey env k r).2.2.lookup (r.formValue "client_id")).getD []) ∧
      page.remainingIdentities = remainingIdents page.identities page.previousLogins := by
  unfold auth at h
  split at h
  · cases h
  · rename_i ar har
    rw [← parseAuthRequest_clientId har]
    dsimp only at h
    repeat' split at h
    all_goals cases h
    exact ⟨rfl, rfl, rfl⟩

end Obligator.Oidc
