import Obligator.Http
import Obligator.Jwt

/-!
# Storage, library faults and the cookie helpers

`Env` is what the handlers read from their collaborators: the storage getters, and the
functions no source file defines. The cookie helpers are called from src/ but live
elsewhere in the repository; they are modelled from the spec (§4.3, §6).
-/

namespace Obligator

open Http

structure OAuth2Provider where
  id : String
  name : String
  uri : String
  clientId : String
  clientSecret : String
  authorizationUri : String
  tokenUri : String
  scope : String
  openIdConnect : Bool
  deriving DecidableEq, Repr

structure User where
  email : String
  deriving DecidableEq, Repr

/-- The handlers' collaborators. `sha256` is Go's `crypto/sha256`; `hash` and `domainToUri`
are the repository's `Hash` and `domainToUri`, which are not under src/. -/
structure Env where
  cookiePrefix : String
  rootUri : String
  signingKey : Bool
  providers : List OAuth2Provider
  users : List User
  isPublic : Bool
  fedCm : Bool
  forwardAuthPassthrough : Bool
  loginKeyTtl : Nat
  returnUriTtl : Nat
  sha256 : String → List Nat
  hash : String → String
  domainToUri : String → String

inductive Fault
  | authRequestBuild
  | providersGet
  | templateExecute
  | sessionSign
  | idTokenBuild
  | idTokenSign
  | codeBuild
  | codeSign
  | accessTokenBuild
  | accessTokenSign
  | pkceData
  | stateKey
  | nonceKey
  | upstreamRequestBuild
  | newRequest
  | usersGet
  | configGet
  | publicJwks
  deriving DecidableEq, Repr

def Env.providerById (env : Env) (id : String) : Except String OAuth2Provider :=
  match env.providers.find? (·.id = id) with
  | some p => .ok p
  | none => .error "No such provider"

theorem Env.providerById_mem {env : Env} {id : String} {provider : OAuth2Provider}
    (h : env.providerById id = .ok provider) : provider ∈ env.providers := by
  unfold Env.providerById at h
  split at h
  · cases h
    exact List.mem_of_find?_eq_some ‹_›
  · cases h

/-- Modelled from the spec: `validUser` is not under src/; the email is in the allow-list of
configured users (§4.5 step 4). -/
def validUser (email : String) (users : List User) : Bool :=
  users.any (·.email = email)

@[simp] theorem cookieName_inj (env : Env) (a b : String) :
    env.cookiePrefix ++ a = env.cookiePrefix ++ b ↔ a = b :=
  ⟨fun h => String.ext (List.append_cancel_left (congrArg String.data h)), fun h => h ▸ rfl⟩

def identitiesOf (c : Claims) : List Identity :=
  match c.lookup "identities" with
  | some (.identities l) => l
  | _ => []

def loginsOf (c : Claims) : List (String × List Login) :=
  match c.lookup "logins" with
  | some (.logins m) => m
  | _ => []

/-- Modelled from the spec: the session envelope of §3, with `identities`, `logins`, `iat`
and `exp`. -/
def sessionClaims (now ttl : Nat) (idents : List Identity) (logins : List (String × List Login)) :
    Claims :=
  [("iat", .time now), ("exp", .time (now + ttl)), ("identities", .identities idents),
    ("logins", .logins logins)]

def appendIdentity (idents : List Identity) (i : Identity) : List Identity :=
  if idents.any (fun j => j.id = i.id ∧ j.providerName = i.providerName) then idents
  else idents ++ [i]

theorem appendIdentity_ne_nil (idents : List Identity) (i : Identity) :
    appendIdentity idents i ≠ [] := by
  unfold appendIdentity
  split_ifs with h
  · obtain ⟨j, hj, -⟩ := List.any_eq_true.1 h
    exact List.ne_nil_of_mem hj
  · simp

def appendLogin (m : List (String × List Login)) (client : String) (l : Login) :
    List (String × List Login) :=
  match m.lookup client with
  | some ls => m.map fun p => if p.1 = client then (client, ls ++ [l]) else p
  | none => m ++ [(client, [l])]

def loginKeyCookie (env : Env) (value : String) : Cookie :=
  ⟨env.cookiePrefix ++ "login_key", value, env.loginKeyTtl⟩

/-- Modelled from the spec: `addIdentToCookie` / `addIdentityToCookie` (`AppendIdentity`,
§4.3). A valid current cookie contributes its identities and logins; otherwise the envelope
starts fresh. -/
def addIdentToCookie (env : Env) (k : Keyring) (now : Nat) (fails : Fault → Bool)
    (cookieValue : String) (ident : Identity) : Except String (Cookie × Keyring) :=
  let current := match k.parse now cookieValue with
    | .ok c => (identitiesOf c, loginsOf c)
    | .error _ => ([], [])
  if fails .sessionSign then .error "failed to sign login_key"
  else
    let signed := k.sign (sessionClaims now env.loginKeyTtl (appendIdentity current.1 ident) current.2)
    .ok (loginKeyCookie env signed.1, signed.2)

theorem addIdentToCookie_session {env : Env} {k k' : Keyring} {now : Nat} {fails : Fault → Bool}
    {v : String} {ident : Identity} {cookie : Cookie}
    (h : addIdentToCookie env k now fails v ident = .ok (cookie, k')) :
    cookie.name = env.cookiePrefix ++ "login_key" ∧ ∃ idents logins,
      k'.verify cookie.value = some (sessionClaims now env.loginKeyTtl (appendIdentity idents ident) logins) := by
  unfold addIdentToCookie at h
  split_ifs at h
  cases h
  exact ⟨rfl, _, _, Keyring.verify_sign_self _ _⟩

/-- Modelled from the spec: `addIdentityToCookie(storage, providerName, id, email,
cookieValue, emailVerified)` builds the identity and appends it. -/
def addIdentityToCookie (env : Env) (k : Keyring) (now : Nat) (fails : Fault → Bool)
    (providerName id email cookieValue : String) (emailVerified : Bool) :
    Except String (Cookie × Keyring) :=
  addIdentToCookie env k now fails cookieValue ⟨"email", id, providerName, "", email, emailVerified⟩

/-- Modelled from the spec: `addLoginToCookie` (`AppendLogin`, §4.3), stamping the login
with the server time. -/
def addLoginToCookie (env : Env) (k : Keyring) (now : Nat) (fails : Fault → Bool)
    (cookieValue clientId : String) (l : Login) : Except String (Cookie × Keyring) :=
  match k.parse now cookieValue with
  | .error e => .error e
  | .ok c =>
    if fails .sessionSign then .error "failed to sign login_key"
    else
      let signed := k.sign (sessionClaims now env.loginKeyTtl (identitiesOf c)
        (appendLogin (loginsOf c) clientId { l with timestamp := now }))
      .ok (loginKeyCookie env signed.1, signed.2)

theorem addLoginToCookie_name {env : Env} {k k' : Keyring} {now : Nat} {fails : Fault → Bool}
    {v client : String} {l : Login} {cookie : Cookie}
    (h : addLoginToCookie env k now fails v client l = .ok (cookie, k')) :
    cookie.name = env.cookiePrefix ++ "login_key" := by
  unfold addLoginToCookie at h
  split at h
  · cases h
  · split_ifs at h
    cases h
    rfl

theorem addLoginToCookie_session {env : Env} {k k' : Keyring} {now : Nat} {fails : Fault → Bool}
    {v client : String} {l : Login} {cookie : Cookie}
    (h : addLoginToCookie env k now fails v client l = .ok (cookie, k')) :
    cookie.name = env.cookiePrefix ++ "login_key" ∧ ∃ presented, k.parse now v = .ok presented ∧
      ∃ logins, k'.verify cookie.value =
        some (sessionClaims now env.loginKeyTtl (identitiesOf presented) logins) := by
  unfold addLoginToCookie at h
  split at h
  · cases h
  · split_ifs at h
    cases h
    exact ⟨rfl, _, ‹_›, _, Keyring.verify_sign_self _ _⟩

/-- Modelled from the spec: `setJwtCookie` signs the envelope and sets it under `name`. -/
def setJwtCookie (k : Keyring) (c : Claims) (name : String) (maxAge : Nat) (w : Response) :
    Response × Keyring :=
  let signed := k.sign c
  (w.setCookie ⟨name, signed.1, maxAge⟩, signed.2)

/-- Modelled from the spec: `clearCookie` expires the cookie. -/
def clearCookie (name : String) (w : Response) : Response :=
  w.setCookie ⟨name, "", -1⟩

/-- Modelled from the spec: `getJwtFromCookie` reads the cookie and verifies it. -/
def getJwtFromCookie (k : Keyring) (name : String) (r : Request) : Except String Claims :=
  match r.cookie name with
  | none => .error "http: named cookie not present"
  | some v => k.parse r.now v

/-- Modelled from the spec: the envelope of the `<prefix>return_uri` cookie (§6). -/
def returnUriClaims (now ttl : Nat) (uri : String) : Claims :=
  [("iat", .time now), ("exp", .time (now + ttl)), ("return_uri", .str uri)]

theorem getJwtFromCookie_verify {k : Keyring} {name : String} {r : Request} {c : Claims}
    (h : getJwtFromCookie k name r = .ok c) : ∃ v, r.cookie name = some v ∧ k.verify v = some c := by
  unfold getJwtFromCookie at h
  split at h
  · cases h
  · exact ⟨_, ‹_›, Keyring.parse_verify h⟩

theorem getJwtFromCookie_mem {k : Keyring} {name : String} {r : Request} {c : Claims}
    (h : getJwtFromCookie k name r = .ok c) : c ∈ k.signed :=
  have ⟨_, _, hv⟩ := getJwtFromCookie_verify h
  Keyring.verify_mem hv

/-- Modelled from the spec: `setReturnUriCookie` sets the return URI as a signed envelope. -/
def setReturnUriCookie (env : Env) (k : Keyring) (now : Nat) (uri : String) (w : Response) :
    Response × Keyring :=
  setJwtCookie k (returnUriClaims now env.returnUriTtl uri) (env.cookiePrefix ++ "return_uri")
    env.returnUriTtl w

/-- Modelled from the spec: `getReturnUriCookie`. -/
def getReturnUriCookie (env : Env) (k : Keyring) (r : Request) : Except String String :=
  (getJwtFromCookie k (env.cookiePrefix ++ "return_uri") r).map (claimFromToken "return_uri")

/-- Modelled from the spec: `deleteReturnUriCookie`. -/
def deleteReturnUriCookie (env : Env) (w : Response) : Response :=
  clearCookie (env.cookiePrefix ++ "return_uri") w

end Obligator
