import Obligator.Oidc.Approve
import Obligator.Pkce

/-!
# `/token`, `/userinfo`, `/register` and the metadata document

`/token` redeems a code: it checks the PKCE verifier against the code's challenge and
issues a sixteen-second access token whose subject is the code's. `/userinfo` answers with
the subject of any envelope that verifies. `/register` derives a client id from the host of
the first redirect URI and reassigns the error variable `NewOIDCHandler` captures.
-/

namespace Obligator.Oidc

open Http Url Pkce

def accessTokenClaims (now : Nat) (sub : String) : Claims :=
  [("iat", .time now), ("exp", .time (now + 16)), ("sub", .str sub)]

def tokenResponse (accessToken idToken : String) : List (String × Json) :=
  [("access_token", .str accessToken), ("token_type", .str "bearer"), ("expires_in", .num 3600)] ++
    (if idToken = "" then [] else [("id_token", .str idToken)])

def issueTokens (env : Env) (fails : Fault → Bool) (k : Keyring) (r : Request) (code : Claims)
    (signedIdToken : String) : Response × Keyring :=
  let w : Response := {}
  if !env.signingKey then (w.writeHeader 500, k)
  else if fails .accessTokenBuild then (w.fail 400 "failed to build access token", k)
  else if fails .accessTokenSign then (w.fail 400 "failed to sign access token", k)
  else
    let signedAccessToken := k.sign (accessTokenClaims r.now (subject code))
    let w := ((w.setHeader "Access-Control-Allow-Origin" "*").setHeader "Content-Type"
      "application/json;charset=UTF-8").setHeader "Cache-Control" "no-store"
    (w.encode (tokenResponse signedAccessToken.1 signedIdToken), signedAccessToken.2)

def pkceRefusal (env : Env) (challenge : Claim) (verifier : String) : Option String :=
  if challenge ≠ .str "" then
    if .str (generatePKCECodeChallenge env verifier) ≠ challenge then some "Invalid code_verifier"
    else none
  else if verifier ≠ "" then
    some "code_verifier provided for request that did not include code_challenge"
  else none

theorem pkceRefusal_eq_none {env : Env} {challenge verifier : String} :
    pkceRefusal env (.str challenge) verifier = none ↔
      (challenge ≠ "" → generatePKCECodeChallenge env verifier = challenge) ∧
      (challenge = "" → verifier = "") := by
  unfold pkceRefusal
  by_cases hc : challenge = "" <;> simp [hc]

theorem issueTokens_json {env : Env} {fails : Fault → Bool} {k : Keyring} {r : Request}
    {code : Claims} {signedIdToken : String} {doc : List (String × Json)}
    (h : (issueTokens env fails k r code signedIdToken).1.json = some doc) :
    doc = tokenResponse (k.sign (accessTokenClaims r.now (subject code))).1 signedIdToken ∧
      (issueTokens env fails k r code signedIdToken).2 =
        (k.sign (accessTokenClaims r.now (subject code))).2 := by
  unfold issueTokens at h ⊢
  split_ifs at h ⊢ <;> simp at h
  exact ⟨h.symm, rfl⟩

/-- The `/token` handler. -/
def token (env : Env) (fails : Fault → Bool) (k : Keyring) (r : Request) : Response × Keyring :=
  let w : Response := {}
  match k.parse r.now (r.formValue "code") with
  | .error e => (w.fail 401 e, k)
  | .ok code =>
    match code.lookup "id_token", code.lookup "pkce_code_challenge" with
    | some (.str signedIdToken), some challenge =>
      match pkceRefusal env challenge (r.formValue "code_verifier") with
      | some msg => (w.fail 401 msg, k)
      | none => issueTokens env fails k r code signedIdToken
    | some (.str _), none => (w.fail 401 "Invalid pkce_code_challenge in code", k)
    | _, _ => (w.fail 401 "Invalid id_token in code", k)

theorem token_json {env : Env} {fails : Fault → Bool} {k : Keyring} {r : Request}
    {doc : List (String × Json)} (h : (token env fails k r).1.json = some doc) :
    ∃ code signedIdToken challenge, k.parse r.now (r.formValue "code") = .ok code ∧
      code.lookup "id_token" = some (.str signedIdToken) ∧
      code.lookup "pkce_code_challenge" = some challenge ∧
      pkceRefusal env challenge (r.formValue "code_verifier") = none ∧
      doc = tokenResponse (k.sign (accessTokenClaims r.now (subject code))).1 signedIdToken ∧
      (token env fails k r).2 = (k.sign (accessTokenClaims r.now (subject code))).2 := by
  revert h
  unfold token
  dsimp only
  split
  · simp
  · rename_i code hcode
    split
    · rename_i signedIdToken challenge hid hch
      split
      · simp
      · exact fun h => ⟨code, signedIdToken, challenge, hcode, hid, hch, ‹_›, issueTokens_json h⟩
    all_goals simp

theorem token_json_isSome {env : Env} {fails : Fault → Bool} {k : Keyring} {r : Request}
    {code : Claims} {signedIdToken : String} {challenge : Claim}
    (hp : k.parse r.now (r.formValue "code") = .ok code)
    (hid : code.lookup "id_token" = some (.str signedIdToken))
    (hch : code.lookup "pkce_code_challenge" = some challenge)
    (hpkce : pkceRefusal env challenge (r.formValue "code_verifier") = none) :
    (token env fails k r).1.json.isSome =
      (env.signingKey && !fails .accessTokenBuild && !fails .accessTokenSign) := by
  unfold token issueTokens
  simp only [hp, hid, hch, hpkce]
  split_ifs <;> simp_all

/-- The `/userinfo` handler. -/
def userinfo (k : Keyring) (r : Request) : Response :=
  let w : Response := {}
  match split r.authorization ' ' with
  | [_, accessToken] =>
    match k.parse r.now accessToken with
    | .error e => w.fail 401 e
    | .ok parsed =>
      (w.setHeader "Content-Type" "application/json;charset=UTF-8").encode
        [("sub", .str (subject parsed)), ("email", .str (subject parsed))]
  | _ => w.fail 400 "Invalid Authorization header"

theorem userinfo_json {k : Keyring} {r : Request} {info : List (String × Json)}
    (h : (userinfo k r).json = some info) :
    ∃ scheme accessToken c, split r.authorization ' ' = [scheme, accessToken] ∧
      k.parse r.now accessToken = .ok c ∧
      info = [("sub", .str (subject c)), ("email", .str (subject c))] := by
  revert h
  unfold userinfo
  dsimp only
  split
  · rename_i scheme accessToken hsplit
    split
    · simp
    · simp only [Response.encode_json, Option.some.injEq]
      exact fun h => ⟨scheme, accessToken, _, hsplit, ‹_›, h.symm⟩
  · simp

/-- The `/register` handler, given the decoded body (`redirect_uris`, or the decoder's
error). It returns the response and the new value of the captured error variable. -/
def register (decoded : Except String (List String)) : Response × Option String :=
  let w : Response := {}
  match decoded with
  | .error e => (w.writeHeader 400, some e)
  | .ok [] => (w.fail 400 "Need at least one redirect_uri", none)
  | .ok (u :: _) =>
    match urlParse u with
    | .error e => (w.fail 400 e, none)
    | .ok parsedClientIdUrl =>
      let clientId := bytes "https://" ++ parsedClientIdUrl.host
      (((w.setHeader "Content-Type" "application/json;charset=UTF-8").writeHeader 201).encode
        [("client_id", .str (text clientId))], none)

def metadata (env : Env) : List (String × Json) :=
  [("issuer", .str env.rootUri), ("authorization_endpoint", .str (env.rootUri ++ "/auth")),
    ("token_endpoint", .str (env.rootUri ++ "/token")),
    ("userinfo_endpoint", .str (env.rootUri ++ "/userinfo")),
    ("jwks_uri", .str (env.rootUri ++ "/jwks")),
    ("scopes_supported", .strs ["openid", "email", "profile"]),
    ("response_types_supported", .strs ["code"]),
    ("id_token_signing_alg_values_supported", .strs ["RS256"]),
    ("code_challenge_methods_supported", .strs ["S256"]),
    ("subject_types_supported", .strs ["public"]),
    ("registration_endpoint", .str (env.rootUri ++ "/register")),
    ("token_endpoint_auth_methods_supported", .strs ["none"])]

def wellKnown (env : Env) : Response :=
  (((({} : Response).setHeader "Access-Control-Allow-Origin" "*").setHeader "Content-Type"
    "application/json;charset=UTF-8")).encode (metadata env)

end Obligator.Oidc
