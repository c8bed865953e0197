import Mathlib.Data.List.Basic

/-!
# `net/url`: `url.Parse` and `url.ParseQuery`

Go strings are byte strings, so the parser runs on the UTF-8 bytes of its input and the
host it returns is a byte string. The definitions follow Go's `Parse`, `parse`,
`getScheme`, `parseAuthority`, `parseHost`, `validOptionalPort`, `validUserinfo`,
`shouldEscape`, `unescape` and `parseQuery`, case for case.
-/

namespace Obligator.Url

def utf8 (c : Char) : List Nat :=
  let n := c.toNat
  if n < 0x80 then [n]
  else if n < 0x800 then [0xC0 + n / 64, 0x80 + n % 64]
  else if n < 0x10000 then [0xE0 + n / 4096, 0x80 + n / 64 % 64, 0x80 + n % 64]
  else [0xF0 + n / 262144, 0x80 + n / 4096 % 64, 0x80 + n / 64 % 64, 0x80 + n % 64]

def bytes (s : String) : List Nat := s.toList.flatMap utf8

theorem length_flatMap_utf8 {l : List Char} (h : ∀ c ∈ l, c.toNat < 0x80) :
    (l.flatMap utf8).length = l.length := by
  induction l with
  | nil => rfl
  | cons c cs ih =>
    have hc : utf8 c = [c.toNat] := by simp [utf8, h c (List.mem_cons_self c cs)]
    simp only [List.flatMap_cons, List.length_append, List.length_cons, hc,
      ih fun d hd => h d (List.mem_cons_of_mem c hd), List.length_singleton, Nat.add_comm,
      List.length_nil]

theorem length_bytes_of_ascii {s : String} (h : ∀ c ∈ s.toList, c.toNat < 0x80) :
    (bytes s).length = s.toList.length :=
  length_flatMap_utf8 h

def inRange (lo hi x : Nat) : Bool := lo ≤ x && x ≤ hi

def decodeRune : List Nat → Char × List Nat
  | [] => (Char.ofNat 0xFFFD, [])
  | b0 :: rest =>
    let lo := if b0 = 0xE0 then 0xA0 else if b0 = 0xF0 then 0x90 else 0x80
    let hi := if b0 = 0xED then 0x9F else if b0 = 0xF4 then 0x8F else 0xBF
    let cont := inRange 0x80 0xBF
    if b0 < 0x80 then (Char.ofNat b0, rest)
    else match rest with
      | b1 :: b2 :: b3 :: rest' =>
        if inRange 0xC2 0xDF b0 && inRange lo hi b1 then
          (Char.ofNat (b0 % 32 * 64 + b1 % 64), b2 :: b3 :: rest')
        else if inRange 0xE0 0xEF b0 && inRange lo hi b1 && cont b2 then
          (Char.ofNat (b0 % 16 * 4096 + b1 % 64 * 64 + b2 % 64), b3 :: rest')
        else if inRange 0xF0 0xF4 b0 && inRange lo hi b1 && cont b2 && cont b3 then
          (Char.ofNat (b0 % 8 * 262144 + b1 % 64 * 4096 + b2 % 64 * 64 + b3 % 64), rest')
        else (Char.ofNat 0xFFFD, rest)
      | [b1, b2] =>
        if inRange 0xC2 0xDF b0 && inRange lo hi b1 then (Char.ofNat (b0 % 32 * 64 + b1 % 64), [b2])
        else if inRange 0xE0 0xEF b0 && inRange lo hi b1 && cont b2 then
          (Char.ofNat (b0 % 16 * 4096 + b1 % 64 * 64 + b2 % 64), [])
        else (Char.ofNat 0xFFFD, rest)
      | [b1] =>
        if inRange 0xC2 0xDF b0 && inRange lo hi b1 then (Char.ofNat (b0 % 32 * 64 + b1 % 64), [])
        else (Char.ofNat 0xFFFD, rest)
      | [] => (Char.ofNat 0xFFFD, [])

def runes : Nat → List Nat → List Char
  | 0, _ => []
  | _ + 1, [] => []
  | n + 1, bs => let (c, rest) := decodeRune bs; c :: runes n rest

def text (bs : List Nat) : String := String.mk (runes bs.length bs)

theorem decodeRune_two {b0 b1 : Nat} (rest : List Nat) (h0 : 0xC2 ≤ b0 ∧ b0 ≤ 0xDF)
    (h1 : 0x80 ≤ b1 ∧ b1 ≤ 0xBF) :
    decodeRune (b0 :: b1 :: rest) = (Char.ofNat (b0 % 32 * 64 + b1 % 64), rest) := by
  have : ¬b0 < 0x80 := by omega
  have : b0 ≠ 0xE0 ∧ b0 ≠ 0xF0 ∧ b0 ≠ 0xED ∧ b0 ≠ 0xF4 := by omega
  rcases rest with _ | ⟨b2, _ | ⟨b3, r⟩⟩ <;> simp_all [decodeRune, inRange]

theorem decodeRune_three {b0 b1 b2 : Nat} (rest : List Nat) (h0 : 0xE0 ≤ b0 ∧ b0 ≤ 0xEF)
    (h1 : (if b0 = 0xE0 then 0xA0 else 0x80) ≤ b1 ∧ b1 ≤ (if b0 = 0xED then 0x9F else 0xBF))
    (h2 : 0x80 ≤ b2 ∧ b2 ≤ 0xBF) :
    decodeRune (b0 :: b1 :: b2 :: rest) =
      (Char.ofNat (b0 % 16 * 4096 + b1 % 64 * 64 + b2 % 64), rest) := by
  have : ¬b0 < 0x80 := by omega
  have : b0 ≠ 0xF0 ∧ b0 ≠ 0xF4 := by omega
  have : ¬ b0 ≤ 0xDF := by omega
  rcases rest with _ | ⟨b3, r⟩ <;> simp_all [decodeRune, inRange] <;> rw [if_neg (by omega), if_neg (by omega)]

theorem decodeRune_four {b0 b1 b2 b3 : Nat} (rest : List Nat) (h0 : 0xF0 ≤ b0 ∧ b0 ≤ 0xF4)
    (h1 : (if b0 = 0xF0 then 0x90 else 0x80) ≤ b1 ∧ b1 ≤ (if b0 = 0xF4 then 0x8F else 0xBF))
    (h2 : 0x80 ≤ b2 ∧ b2 ≤ 0xBF) (h3 : 0x80 ≤ b3 ∧ b3 ≤ 0xBF) :
    decodeRune (b0 :: b1 :: b2 :: b3 :: rest) =
      (Char.ofNat (b0 % 8 * 262144 + b1 % 64 * 4096 + b2 % 64 * 64 + b3 % 64), rest) := by
  have : ¬b0 < 0x80 := by omega
  have : b0 ≠ 0xE0 ∧ b0 ≠ 0xED := by omega
  have : ¬ b0 ≤ 0xDF ∧ ¬ b0 ≤ 0xEF := by omega
  simp_all [decodeRune, inRange]
  rw [if_neg (by omega), if_neg (by omega), if_neg (by omega)]

theorem toNat_range (c : Char) : c.toNat < 0xd800 ∨ (0xdfff < c.toNat ∧ c.toNat < 0x110000) := by
  have := c.valid
  simpa [Char.toNat, UInt32.isValidChar, Nat.isValidChar] using this

theorem decodeRune_utf8 (c : Char) (rest : List Nat) : decodeRune (utf8 c ++ rest) = (c, rest) := by
  have hc := toNat_range c
  conv_rhs => rw [← Char.ofNat_toNat c]
  dsimp only [utf8]
  generalize c.toNat = n at hc ⊢
  split_ifs with h1 h2 h3
  · simp [decodeRune, h1]
  · rw [List.cons_append, List.cons_append, List.nil_append, decodeRune_two rest (by omega) (by omega)]
    exact congrArg (fun m => (Char.ofNat m, rest)) (by omega)
  · rw [List.cons_append, List.cons_append, List.cons_append, List.nil_append,
      decodeRune_three rest (by omega) (by constructor <;> split_ifs <;> omega) (by omega)]
    exact congrArg (fun m => (Char.ofNat m, rest)) (by omega)
  · rw [List.cons_append, List.cons_append, List.cons_append, List.cons_append, List.nil_append,
      decodeRune_four rest (by omega) (by constructor <;> split_ifs <;> omega) (by omega) (by omega)]
    exact congrArg (fun m => (Char.ofNat m, rest)) (by omega)

theorem utf8_ne_nil (c : Char) : utf8 c ≠ [] := by
  dsimp only [utf8]; split_ifs <;> simp

theorem length_le_flatMap_utf8 (l : List Char) : l.length ≤ (l.flatMap utf8).length := by
  induction l with
  | nil => exact Nat.le_refl _
  | cons c cs ih =>
    have := List.length_pos.2 (utf8_ne_nil c)
    simp only [List.flatMap_cons, List.length_append, List.length_cons]
    omega

theorem runes_flatMap_utf8 : ∀ (l : List Char) (n : Nat), l.length ≤ n → runes n (l.flatMap utf8) = l
  | [], n, _ => by cases n <;> rfl
  | c :: cs, n + 1, h => by
    obtain ⟨b, bs, hb⟩ := List.exists_cons_of_ne_nil (utf8_ne_nil c)
    rw [List.flatMap_cons, hb, List.cons_append, runes, ← List.cons_append, ← hb, decodeRune_utf8]
    · exact congrArg _ (runes_flatMap_utf8 cs n (Nat.le_of_succ_le_succ h))
    · exact List.cons_ne_nil _ _

theorem text_bytes (s : String) : text (bytes s) = s := by
  rw [text, bytes, runes_flatMap_utf8 _ _ (length_le_flatMap_utf8 _)]
  rfl

abbrev byte (c : Char) : Nat := c.toNat

def oneOf (cs : List Char) (c : Nat) : Bool := cs.any (byte · = c)

def isAlpha (c : Nat) : Bool := (byte 'a' ≤ c && c ≤ byte 'z') || (byte 'A' ≤ c && c ≤ byte 'Z')

def isDigit (c : Nat) : Bool := byte '0' ≤ c && c ≤ byte '9'

def isHex (c : Nat) : Bool :=
  isDigit c || (byte 'a' ≤ c && c ≤ byte 'f') || (byte 'A' ≤ c && c ≤ byte 'F')

def unhex (c : Nat) : Nat :=
  if isDigit c then c - byte '0' else if c ≤ byte 'F' then c - byte 'A' + 10 else c - byte 'a' + 10

def cut (sep : Nat) : List Nat → List Nat × List Nat × Bool
  | [] => ([], [], false)
  | c :: cs =>
    if c = sep then ([], cs, true)
    else let r := cut sep cs; (c :: r.1, r.2.1, r.2.2)

def lastIndex (sep : Nat) : List Nat → Option Nat
  | [] => none
  | c :: cs => match lastIndex sep cs with
    | some i => some (i + 1)
    | none => if c = sep then some 0 else none

def indexPct25 : List Nat → Option Nat
  | [] => none
  | c :: cs =>
    if c = byte '%' ∧ cs.take 2 = [byte '2', byte '5'] then some 0 else (indexPct25 cs).map (· + 1)

inductive Mode
  | path
  | userPassword
  | queryComponent
  | fragment
  | host
  | zone
  deriving DecidableEq, Repr

def shouldEscape (c : Nat) (mode : Mode) : Bool :=
  if isAlpha c || isDigit c then false
  else if (mode = .host || mode = .zone) && (oneOf ['!', '$', '&', '(', ')', '*', '+', ',', ';', '=', ':', '[', ']', '<', '>'] c ||
      c = 39 || c = 34) then false
  else if oneOf ['-', '_', '.', '~'] c then false
  else if oneOf ['$', '&', '+', ',', '/', ':', ';', '=', '?', '@'] c then
    match mode with
    | .path => c = byte '?'
    | .userPassword => c = byte '@' || c = byte '/' || c = byte '?' || c = byte ':'
    | .queryComponent => true
    | .fragment => false
    | _ => true
  else if mode = .fragment && oneOf ['!', '(', ')', '*'] c then false
  else true

def unescapeError (mode : Mode) : List Nat → Option String
  | [] => none
  | c :: rest =>
    if c = byte '%' then
      match rest with
      | h₁ :: h₂ :: rest' =>
        if !(isHex h₁ && isHex h₂) then some "invalid URL escape"
        else if mode = .host && unhex h₁ < 8 && [h₁, h₂] ≠ [byte '2', byte '5'] then
          some "invalid URL escape"
        else if mode = .zone && [h₁, h₂] ≠ [byte '2', byte '5'] &&
            unhex h₁ * 16 + unhex h₂ ≠ byte ' ' &&
            shouldEscape (unhex h₁ * 16 + unhex h₂) .host then
          some "invalid URL escape"
        else unescapeError mode rest'
      | _ => some "invalid URL escape"
    else if (mode = .host || mode = .zone) && c < 0x80 && shouldEscape c mode then
      some "invalid character in host name"
    else unescapeError mode rest

def decode (mode : Mode) : List Nat → List Nat
  | [] => []
  | c :: rest =>
    if c = byte '%' then
      match rest with
      | h₁ :: h₂ :: rest' => (unhex h₁ * 16 + unhex h₂) :: decode mode rest'
      | _ => c :: rest
    else if c = byte '+' && mode = .queryComponent then byte ' ' :: decode mode rest
    else c :: decode mode rest

def unescape (s : List Nat) (mode : Mode) : Except String (List Nat) :=
  match unescapeError mode s with
  | some e => .error e
  | none => .ok (decode mode s)

def validOptionalPort : List Nat → Bool
  | [] => true
  | c :: ds => c = byte ':' && ds.all isDigit

def validUserinfo (s : List Nat) : Bool :=
  s.all fun c => isAlpha c || isDigit c || c = 39 ||
    oneOf ['-', '.', '_', ':', '~', '!', '$', '&', '(', ')', '*', '+', ',', ';', '=', '%', '@'] c

def parseHost (host : List Nat) : Except String (List Nat) :=
  if host.head? = some (byte '[') then
    match lastIndex (byte ']') host with
    | none => .error "missing ']' in host"
    | some i =>
      if !validOptionalPort (host.drop (i + 1)) then .error "invalid port after host"
      else match indexPct25 (host.take i) with
        | some z => do
          let h₁ ← unescape (host.take z) .host
          let h₂ ← unescape ((host.take i).drop z) .zone
          let h₃ ← unescape (host.drop i) .host
          pure (h₁ ++ h₂ ++ h₃)
        | none => unescape host .host
  else match lastIndex (byte ':') host with
    | some i =>
      if !validOptionalPort (host.drop i) then .error "invalid port after host"
      else unescape host .host
    | none => unescape host .host

def parseAuthority (authority : List Nat) : Except String (List Nat) :=
  match lastIndex (byte '@') authority with
  | none => parseHost authority
  | some i => do
    let host ← parseHost (authority.drop (i + 1))
    let userinfo := authority.take i
    if !validUserinfo userinfo then .error "net/url: invalid userinfo"
    else
      let (user, pass, _) := cut (byte ':') userinfo
      let _ ← unescape user .userPassword
      let _ ← unescape pass .userPassword
      pure host

def getScheme (raw : List Nat) : Except String (List Nat × List Nat) :=
  go [] raw
where
  go (acc : List Nat) : List Nat → Except String (List Nat × List Nat)
    | [] => .ok ([], raw)
    | c :: cs =>
      if isAlpha c then go (acc ++ [c]) cs
      else if isDigit c || c = byte '+' || c = byte '-' || c = byte '.' then
        if acc = [] then .ok ([], raw) else go (acc ++ [c]) cs
      else if c = byte ':' then
        if acc = [] then .error "missing protocol scheme" else .ok (acc, cs)
      else .ok ([], raw)

structure URL where
  scheme : List Nat
  host : List Nat
  rawQuery : List Nat
  deriving DecidableEq, Repr

def lower (s : List Nat) : List Nat :=
  s.map fun c => if byte 'A' ≤ c && c ≤ byte 'Z' then c + 32 else c

def parse (raw : List Nat) : Except String URL :=
  if raw.any (fun c => c < 0x20 || c = 0x7f) then
    .error "net/url: invalid control character in URL"
  else if raw = [byte '*'] then .ok ⟨[], [], []⟩
  else do
    let (scheme, rest) ← getScheme raw
    let scheme := lower scheme
    let (rest, query) :=
      if rest.getLast? = some (byte '?') && rest.count (byte '?') = 1 then (rest.dropLast, [])
      else let r := cut (byte '?') rest; (r.1, r.2.1)
    if rest.head? ≠ some (byte '/') ∧ scheme ≠ [] then pure ⟨scheme, [], query⟩
    else if rest.head? ≠ some (byte '/') ∧ (cut (byte '/') rest).1.contains (byte ':') then
      .error "first path segment in URL cannot contain colon"
    else if rest.take 2 = [byte '/', byte '/'] ∧
        (scheme ≠ [] ∨ rest.take 3 ≠ [byte '/', byte '/', byte '/']) then
      let (authority, _, _) := cut (byte '/') (rest.drop 2)
      let path := (rest.drop 2).drop authority.length
      let host ← parseAuthority authority
      let _ ← unescape path .path
      pure ⟨scheme, host, query⟩
    else
      let _ ← unescape rest .path
      pure ⟨scheme, [], query⟩

/-- `url.Parse(rawURL)`. -/
def urlParse (s : String) : Except String URL :=
  let (u, frag, _) := cut (byte '#') (bytes s)
  match parse u with
  | .error e => .error e
  | .ok url =>
    if frag = [] then .ok url
    else match unescape frag .fragment with
      | .error e => .error e
      | .ok _ => .ok url

def hostOf (s : String) : Option (List Nat) :=
  match urlParse s with
  | .ok u => some u.host
  | .error _ => none

theorem hostOf_some {s : String} {h : List Nat} (hs : hostOf s = some h) :
    ∃ u, urlParse s = .ok u ∧ u.host = h := by
  unfold hostOf at hs
  split at hs
  · exact ⟨_, ‹_›, Option.some.inj hs⟩
  · cases hs

def splitAmp : List Nat → List (List Nat)
  | [] => [[]]
  | c :: cs =>
    if c = byte '&' then [] :: splitAmp cs
    else match splitAmp cs with
      | p :: ps => (c :: p) :: ps
      | [] => [[c]]

def queryPair (piece : List Nat) : Option (List Nat × List Nat) :=
  if piece.contains (byte ';') || piece = [] then none
  else
    let (k, v, _) := cut (byte '=') piece
    match unescape k .queryComponent, unescape v .queryComponent with
    | .ok k, .ok v => some (k, v)
    | _, _ => none

/-- `url.ParseQuery(query)`: the decoded pairs in order. -/
def parseQuery (query : List Nat) : List (List Nat × List Nat) :=
  if query = [] then [] else (splitAmp query).filterMap queryPair

def queryValues (query : List Nat) (key : String) : List (List Nat) :=
  ((parseQuery query).filter (·.1 = bytes key)).map (·.2)

end Obligator.Url
