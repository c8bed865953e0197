import Obligator.Url

/-!
# The `net/http` surface the handlers use

A request carries its decoded form (`r.Form` after `r.ParseForm()`), its cookies and the
`Authorization` header. A response is the state of an `http.ResponseWriter`: headers set
before the status is written are sent, later ones are dropped, and the first `Write`
commits status 200. A handler that panics is marked `panicked`. `http.Redirect` resolves a
URL without scheme and host against the request path with `path.Clean`, hex-escapes the bytes
from `0x80` up into `Location`, and writes the HTML body of a `GET`.
-/

namespace Obligator.Http

universe u v

instance decEqExcept {ε : Type u} {α : Type v} [DecidableEq ε] [DecidableEq α] :
    DecidableEq (Except ε α)
  | .error a, .error b => decidable_of_iff (a = b) ⟨congrArg _, Except.error.inj⟩
  | .ok a, .ok b => decidable_of_iff (a = b) ⟨congrArg _, Except.ok.inj⟩
  | .error _, .ok _ => isFalse nofun
  | .ok _, .error _ => isFalse nofun

def splitChars (sep : Char) : List Char → List (List Char)
  | [] => [[]]
  | c :: cs =>
    if c = sep then [] :: splitChars sep cs
    else match splitChars sep cs with
      | p :: ps => (c :: p) :: ps
      | [] => [[c]]

theorem splitChars_of_not_mem {sep : Char} : ∀ {cs : List Char}, sep ∉ cs → splitChars sep cs = [cs]
  | [], _ => rfl
  | c :: cs, h => by
    simp only [List.mem_cons, not_or] at h
    simp [splitChars, Ne.symm h.1, splitChars_of_not_mem h.2]

theorem splitChars_append_sep {sep : Char} (b : List Char) :
    ∀ {a : List Char}, sep ∉ a → splitChars sep (a ++ sep :: b) = a :: splitChars sep b
  | [], _ => by simp [splitChars]
  | c :: a, h => by
    simp only [List.mem_cons, not_or] at h
    simp [splitChars, Ne.symm h.1, splitChars_append_sep b h.2]

def split (s : String) (sep : Char) : List String :=
  (splitChars sep s.toList).map String.mk

theorem split_join {a b : String} {sep : Char} (ha : sep ∉ a.data) (hb : sep ∉ b.data) :
    split (a ++ String.singleton sep ++ b) sep = [a, b] := by
  simp [split, String.toList, splitChars_append_sep _ ha, splitChars_of_not_mem hb]

def pathSplit (p : List Char) : List Char × List Char :=
  ((p.reverse.dropWhile (· ≠ '/')).reverse, (p.reverse.takeWhile (· ≠ '/')).reverse)

def cleanPush (rooted : Bool) (kept : List (List Char)) (e : List Char) : List (List Char) :=
  if e = [] ∨ e = ['.'] then kept
  else if e = ['.', '.'] then
    match kept with
    | x :: rest => if x = ['.', '.'] then e :: kept else rest
    | [] => if rooted then [] else [e]
  else e :: kept

def pathClean (p : List Char) : List Char :=
  let rooted := decide (p.head? = some '/')
  let body := List.intercalate ['/'] ((splitChars '/' p).foldl (cleanPush rooted) []).reverse
  if rooted then '/' :: body else if body = [] then ['.'] else body

example : pathClean "abc/def/../../../ghi/jkl/../../../mno".toList = "../../mno".toList ∧
    pathClean "/abc/def/../../..".toList = "/".toList ∧ pathClean "//abc//".toList = "/abc".toList ∧
    pathClean "abc/./../def".toList = "def".toList ∧ pathClean [] = ['.'] := by
  decide

def resolveRelative (oldpath url : List Char) : List Char :=
  let old := if oldpath = [] then ['/'] else oldpath
  let url := if url.head? = some '/' then url else (pathSplit old).1 ++ url
  let path := url.takeWhile (· ≠ '?')
  let cleaned := pathClean path
  (if path.getLast? = some '/' ∧ cleaned.getLast? ≠ some '/' then cleaned ++ ['/'] else cleaned) ++
    url.dropWhile (· ≠ '?')

def resolveRedirect (oldpath url : String) : String :=
  match Url.urlParse url with
  | .ok u =>
    if u.scheme = [] ∧ u.host = [] then String.mk (resolveRelative oldpath.toList url.toList)
    else url
  | .error _ => url

example : resolveRedirect "/approve" "cb?code=e5" = "/cb?code=e5" ∧
    resolveRedirect "/complete-login-fedcm" "phish/../x" = "/x" ∧
    resolveRedirect "/complete-login-fedcm" "" = "/" ∧
    resolveRedirect "/approve" "https://rp.example/a/../cb" = "https://rp.example/a/../cb" := by
  decide

def hexEscapeNonASCII (s : String) : String :=
  String.mk ((Url.bytes s).flatMap fun b =>
    if b < 0x80 then [Char.ofNat b] else '%' :: Nat.toDigits 16 b)

example : hexEscapeNonASCII "/caf\u00e9?x=\u00e9" = "/caf%c3%a9?x=%c3%a9" := by decide

/-- The `Location` header `http.Redirect` writes for `url` on a request for `oldpath`. -/
def redirectTarget (oldpath url : String) : String := hexEscapeNonASCII (resolveRedirect oldpath url)

def htmlEscape (s : String) : String :=
  String.join (s.toList.map fun c =>
    if c = '&' then "&amp;" else if c = '<' then "&lt;" else if c = '>' then "&gt;"
    else if c.toNat = 34 then "&#34;" else if c.toNat = 39 then "&#39;" else c.toString)

def statusText : Nat → String
  | 301 => "Moved Permanently"
  | 302 => "Found"
  | 303 => "See Other"
  | 307 => "Temporary Redirect"
  | 308 => "Permanent Redirect"
  | _ => ""

structure Cookie where
  name : String
  value : String
  maxAge : Int
  deriving DecidableEq, Repr

structure Request where
  method : String
  host : String
  path : String
  rawQuery : String
  form : List (String × String)
  cookies : List (String × String)
  authorization : String
  now : Nat
  deriving DecidableEq, Repr

def Request.formValue (r : Request) (key : String) : String :=
  (r.form.lookup key).getD ""

def Request.cookie (r : Request) (name : String) : Option String :=
  r.cookies.lookup name

inductive Json
  | str (s : String)
  | num (n : Nat)
  | strs (l : List String)
  deriving DecidableEq, Repr

/-- The state of the `http.ResponseWriter` when the handler returns: text written with
`io.WriteString`, and the document written with `json.NewEncoder(w).Encode`. -/
structure Response where
  status : Option Nat := none
  header : List (String × String) := []
  setCookies : List Cookie := []
  body : String := ""
  json : Option (List (String × Json)) := none
  panicked : Bool := false
  deriving DecidableEq, Repr

namespace Response

def writeHeader (code : Nat) (w : Response) : Response :=
  if w.status = none then { w with status := some code } else w

def write (s : String) (w : Response) : Response :=
  { w.writeHeader 200 with body := w.body ++ s }

def encode (doc : List (String × Json)) (w : Response) : Response :=
  { w.writeHeader 200 with json := some doc }

def setHeader (key value : String) (w : Response) : Response :=
  if w.status = none then { w with header := (key, value) :: w.header.filter (·.1 ≠ key) }
  else w

def setCookie (c : Cookie) (w : Response) : Response :=
  if w.status = none then { w with setCookies := w.setCookies ++ [c] } else w

/-- `http.Redirect(w, r, url, code)` on a request with method `method` for the path `oldpath`:
the `Location` header, for a GET or HEAD the `Content-Type`, the status, and for a GET the
short HTML body. A handler passes the path it is mounted at, since the mux hands it only
requests for that path. -/
def redirect (method oldpath url : String) (code : Nat) (w : Response) : Response :=
  let url := resolveRedirect oldpath url
  let hadCT := (w.header.lookup "Content-Type").isSome
  let w := w.setHeader "Location" (hexEscapeNonASCII url)
  let w := if !hadCT && (method == "GET" || method == "HEAD") then
    w.setHeader "Content-Type" "text/html; charset=utf-8" else w
  let w := w.writeHeader code
  if !hadCT && method == "GET" then
    let body := "<a href=\"" ++ htmlEscape url ++ "\">" ++ statusText code ++ "</a>.\n"
    w.write (body ++ "\n")
  else w

def crash (w : Response) : Response := { w with panicked := true }

def code (w : Response) : Nat := w.status.getD 200

def location (w : Response) : Option String := w.header.lookup "Location"

def fail (code : Nat) (msg : String) (w : Response) : Response :=
  (w.writeHeader code).write msg

@[simp] theorem setCookie_status (c : Cookie) (w : Response) :
    (w.setCookie c).status = w.status := by
  unfold setCookie; split <;> rfl

@[simp] theorem setHeader_status (k v : String) (w : Response) :
    (w.setHeader k v).status = w.status := by
  unfold setHeader; split <;> rfl

@[simp] theorem writeHeader_setCookies (n : Nat) (w : Response) :
    (w.writeHeader n).setCookies = w.setCookies := by
  unfold writeHeader; split <;> rfl

@[simp] theorem writeHeader_header (n : Nat) (w : Response) :
    (w.writeHeader n).header = w.header := by
  unfold writeHeader; split <;> rfl

@[simp] theorem setCookie_header (c : Cookie) (w : Response) :
    (w.setCookie c).header = w.header := by
  unfold setCookie; split <;> rfl

@[simp] theorem crash_header (w : Response) : w.crash.header = w.header := rfl

@[simp] theorem crash_setCookies (w : Response) : w.crash.setCookies = w.setCookies := rfl

@[simp] theorem encode_header (doc : List (String × Json)) (w : Response) :
    (w.encode doc).header = w.header := by
  simp [encode]

@[simp] theorem fail_header (n : Nat) (m : String) (w : Response) :
    (w.fail n m).header = w.header := by
  simp [fail, write]

@[simp] theorem fail_setCookies (n : Nat) (m : String) (w : Response) :
    (w.fail n m).setCookies = w.setCookies := by
  simp [fail, write]

@[simp] theorem setHeader_setCookies (k v : String) (w : Response) :
    (w.setHeader k v).setCookies = w.setCookies := by
  unfold setHeader; split <;> rfl

@[simp] theorem redirect_setCookies (method oldpath url : String) (code : Nat) (w : Response) :
    (w.redirect method oldpath url code).setCookies = w.setCookies := by
  dsimp only [redirect]
  split_ifs <;> simp [write]

@[simp] theorem write_setCookies (m : String) (w : Response) : (w.write m).setCookies = w.setCookies := by
  simp [write]

@[simp] theorem setCookie_setCookies {w : Response} (c : Cookie) (h : w.status = none) :
    (w.setCookie c).setCookies = w.setCookies ++ [c] := by
  simp [setCookie, h]

@[simp] theorem location_empty : ({} : Response).location = none := rfl

@[simp] theorem crash_location (w : Response) : w.crash.location = w.location := rfl

@[simp] theorem writeHeader_location (n : Nat) (w : Response) :
    (w.writeHeader n).location = w.location := by
  simp [location]

@[simp] theorem fail_location (n : Nat) (m : String) (w : Response) :
    (w.fail n m).location = w.location := by
  simp [location]

@[simp] theorem setCookie_location (c : Cookie) (w : Response) :
    (w.setCookie c).location = w.location := by
  simp [location]

@[simp] theorem json_empty : ({} : Response).json = none := rfl

@[simp] theorem writeHeader_json (n : Nat) (w : Response) : (w.writeHeader n).json = w.json := by
  unfold writeHeader; split <;> rfl

@[simp] theorem fail_json (n : Nat) (m : String) (w : Response) : (w.fail n m).json = w.json := by
  simp [fail, write]

@[simp] theorem setHeader_json (k v : String) (w : Response) : (w.setHeader k v).json = w.json := by
  unfold setHeader; split <;> rfl

@[simp] theorem encode_json (doc : List (String × Json)) (w : Response) :
    (w.encode doc).json = some doc := rfl

theorem redirect_location {w : Response} (method oldpath url : String) (code : Nat)
    (h : w.status = none) :
    (w.redirect method oldpath url code).location = some (redirectTarget oldpath url) := by
  dsimp only [redirect]
  split_ifs <;> simp [write, setHeader, location, h, List.lookup_cons, redirectTarget]

theorem redirect_code {w : Response} (method oldpath url : String) (code : Nat)
    (h : w.status = none) : (w.redirect method oldpath url code).code = code := by
  dsimp only [redirect]
  split_ifs <;> simp [write, setHeader, writeHeader, Response.code, h]

end Response

end Obligator.Http
