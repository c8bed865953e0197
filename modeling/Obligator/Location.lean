import Obligator.Query

/-!
# What `http.Redirect` sends

`http.Redirect` rewrites the URL a handler passes before it writes it into `Location`: a URL
without scheme and host is resolved against the directory of the request path and cleaned up to
its first `?`, and every byte from `0x80` up becomes `%` and two hex digits. Neither step
disturbs a query the handler appends to a base without `?` or `#`: the resolution keeps
everything from the first `?`, and `url.ParseQuery` decodes each escape back to the byte it
replaced. The receiver of `base?query` therefore reads the pairs of the query exactly when
`url.Parse` accepts what `http.Redirect` sends for the bare base.
-/

namespace Obligator.Location

open Url Http Query

def escapeByte (b : Nat) : List Nat :=
  if b < 0x80 then [b]
  else [byte '%', (Nat.digitChar (b / 16)).toNat, (Nat.digitChar (b % 16)).toNat]

def escapeBytes (l : List Nat) : List Nat := l.flatMap escapeByte

def Plain (c : Nat) : Prop := c < 0x80 ∧ c ≠ byte '%' ∧ isHex c = false

instance : DecidablePred Plain := fun c =>
  inferInstanceAs (Decidable (c < 0x80 ∧ c ≠ byte '%' ∧ isHex c = false))

@[simp] theorem escapeBytes_nil : escapeBytes [] = [] := rfl

theorem escapeBytes_cons (b : Nat) (l : List Nat) :
    escapeBytes (b :: l) = escapeByte b ++ escapeBytes l := rfl

theorem escapeBytes_append (l l' : List Nat) :
    escapeBytes (l ++ l') = escapeBytes l ++ escapeBytes l' := List.flatMap_append _ _ _

theorem toDigits_byte {b : Nat} (h1 : 16 ≤ b) (h2 : b < 256) :
    Nat.toDigits 16 b = [Nat.digitChar (b / 16), Nat.digitChar (b % 16)] := by
  obtain ⟨m, rfl⟩ : ∃ m, b = m + 1 := ⟨b - 1, by omega⟩
  have h3 : (m + 1) / 16 ≠ 0 := by omega
  have h4 : (m + 1) / 16 / 16 = 0 := by omega
  have h5 : (m + 1) / 16 % 16 = (m + 1) / 16 := by omega
  show (if (m + 1) / 16 = 0 then [Nat.digitChar ((m + 1) % 16)]
    else Nat.toDigitsCore 16 (m + 1) ((m + 1) / 16) [Nat.digitChar ((m + 1) % 16)]) = _
  rw [if_neg h3]
  show (if (m + 1) / 16 / 16 = 0 then
    [Nat.digitChar ((m + 1) / 16 % 16), Nat.digitChar ((m + 1) % 16)] else _) = _
  rw [if_pos h4, h5]

theorem toNat_ofNat_lt {n : Nat} (h : n < 0xd800) : (Char.ofNat n).toNat = n := by
  rw [Char.ofNat, dif_pos (Or.inl h)]
  rfl

theorem utf8_lt (c : Char) : ∀ b ∈ utf8 c, b < 256 := by
  have := toNat_range c
  unfold utf8
  dsimp only
  split_ifs <;> simp <;> omega

theorem bytes_lt (s : String) : ∀ b ∈ bytes s, b < 256 := fun b hb => by
  obtain ⟨c, -, hc⟩ := List.mem_flatMap.1 hb
  exact utf8_lt c b hc

theorem digitChar_hex : ∀ n < 16, isHex (Nat.digitChar n).toNat = true ∧
    unhex (Nat.digitChar n).toNat = n ∧ (Nat.digitChar n).toNat < 0x80 := by
  decide

theorem utf8_ascii {c : Char} (h : c.toNat < 0x80) : utf8 c = [c.toNat] := by
  simp [utf8, h]

theorem bytes_hexEscapeNonASCII (s : String) :
    bytes (hexEscapeNonASCII s) = escapeBytes (bytes s) := by
  have hl := bytes_lt s
  show (((bytes s).flatMap _).flatMap utf8) = _
  generalize bytes s = l at hl ⊢
  induction l with
  | nil => rfl
  | cons b l ih =>
    have hb := hl b (List.mem_cons_self _ _)
    rw [List.flatMap_cons, List.flatMap_append, ih fun c hc => hl c (List.mem_cons_of_mem _ hc),
      escapeBytes_cons]
    congr 1
    by_cases h : b < 0x80
    · simp [h, escapeByte, utf8_ascii, toNat_ofNat_lt (show b < 0xd800 by omega)]
    · obtain ⟨-, -, h1⟩ := digitChar_hex (b / 16) (by omega)
      obtain ⟨-, -, h2⟩ := digitChar_hex (b % 16) (by omega)
      simp [h, escapeByte, toDigits_byte (show 16 ≤ b by omega) hb, utf8_ascii h1, utf8_ascii h2,
        utf8_ascii (show ('%').toNat < 0x80 by decide), byte]

theorem escapeByte_low {b : Nat} (h : b < 0x80) : escapeByte b = [b] := if_pos h

theorem escapeByte_high {b : Nat} (h : ¬b < 0x80) :
    escapeByte b = [byte '%', (Nat.digitChar (b / 16)).toNat, (Nat.digitChar (b % 16)).toNat] :=
  if_neg h

theorem not_isHex_high {b : Nat} (h : ¬b < 0x80) : isHex b = false := by
  simp [isHex, isDigit, byte]
  omega

theorem not_isHex_pct : isHex (byte '%') = false := by decide

variable {mode : Mode}

theorem unescapeError_cons_of_ne (hm : mode ≠ .host ∧ mode ≠ .zone) {c : Nat}
    (hc : c ≠ byte '%') (l : List Nat) : unescapeError mode (c :: l) = unescapeError mode l := by
  rcases l with _ | ⟨a, _ | ⟨b, r⟩⟩ <;> simp [unescapeError, hc, hm.1, hm.2]

theorem unescapeError_escapeByte_high (hm : mode ≠ .host ∧ mode ≠ .zone) {b : Nat}
    (h : ¬b < 0x80) (hb : b < 256) (l : List Nat) :
    unescapeError mode (escapeByte b ++ l) = unescapeError mode l := by
  obtain ⟨h1, -, -⟩ := digitChar_hex (b / 16) (by omega)
  obtain ⟨h2, -, -⟩ := digitChar_hex (b % 16) (by omega)
  simp [escapeByte_high h, unescapeError, h1, h2, hm.1, hm.2]

theorem unescapeError_pct_high {b : Nat} (h : ¬b < 0x80) (l : List Nat) :
    unescapeError mode (byte '%' :: (escapeByte b ++ l)) = some "invalid URL escape" := by
  simp [escapeByte_high h, unescapeError, not_isHex_pct]

theorem unescapeError_escapeBytes (hm : mode ≠ .host ∧ mode ≠ .zone) :
    ∀ l : List Nat, (∀ b ∈ l, b < 256) → unescapeError mode (escapeBytes l) = unescapeError mode l
  | [], _ => rfl
  | c :: l, hl => by
    have hc := hl c (List.mem_cons_self _ _)
    have ih := unescapeError_escapeBytes hm l fun b hb => hl b (List.mem_cons_of_mem _ hb)
    rw [escapeBytes_cons]
    by_cases hlow : c < 0x80
    · rw [escapeByte_low hlow, List.singleton_append]
      by_cases hpct : c = byte '%'
      · subst hpct
        rcases l with _ | ⟨d, _ | ⟨e, rest⟩⟩
        · rfl
        · by_cases hd : d < 0x80
          · simp [escapeBytes_cons, escapeByte_low hd, unescapeError]
          · rw [escapeBytes_cons, unescapeError_pct_high hd]; rfl
        · have hrest := unescapeError_escapeBytes hm rest fun b hb =>
            hl b (List.mem_cons_of_mem _ (List.mem_cons_of_mem _ (List.mem_cons_of_mem _ hb)))
          by_cases hd : d < 0x80
          · rw [escapeBytes_cons, escapeByte_low hd, List.singleton_append, escapeBytes_cons]
            by_cases he : e < 0x80
            · simp [escapeByte_low he, unescapeError, hrest]
            · simp [escapeByte_high he, unescapeError, not_isHex_high he, not_isHex_pct]
          · rw [escapeBytes_cons, unescapeError_pct_high hd]
            simp [unescapeError, not_isHex_high hd]
      · rw [unescapeError_cons_of_ne hm hpct, unescapeError_cons_of_ne hm hpct, ih]
    · rw [unescapeError_escapeByte_high hm hlow hc, ih,
        unescapeError_cons_of_ne hm (show c ≠ byte '%' from fun h => hlow (h ▸ by decide))]

theorem decode_cons_of_ne {c : Nat} (hc : c ≠ byte '%') (l : List Nat) :
    decode mode (c :: l) =
      (if c = byte '+' ∧ mode = .queryComponent then byte ' ' else c) :: decode mode l := by
  by_cases h1 : c = byte '+' <;> by_cases h2 : mode = .queryComponent <;>
    rcases l with _ | ⟨a, _ | ⟨b, r⟩⟩ <;>
    simp [decode, hc, h1, h2, show byte '+' ≠ byte '%' by decide]

theorem decode_pct (h₁ h₂ : Nat) (rest : List Nat) :
    decode mode (byte '%' :: h₁ :: h₂ :: rest) = (unhex h₁ * 16 + unhex h₂) :: decode mode rest := by
  simp [decode]

theorem isHex_lt {c : Nat} (h : isHex c = true) : c < 0x80 :=
  Decidable.by_contra fun hc => absurd h (by rw [not_isHex_high hc]; decide)

theorem unescapeError_pct_eq_none (hm : mode ≠ .host ∧ mode ≠ .zone) {d e : Nat}
    {rest : List Nat} (h : unescapeError mode (byte '%' :: d :: e :: rest) = none) :
    isHex d = true ∧ isHex e = true ∧ unescapeError mode rest = none := by
  by_cases hde : (isHex d && isHex e) = true
  · simp only [Bool.and_eq_true] at hde
    simpa [unescapeError, hde, hm.1, hm.2] using h
  · simp [unescapeError, hde] at h

theorem decode_escapeBytes (hm : mode ≠ .host ∧ mode ≠ .zone) :
    ∀ l : List Nat, (∀ b ∈ l, b < 256) → unescapeError mode l = none →
      decode mode (escapeBytes l) = decode mode l
  | [], _, _ => rfl
  | c :: l, hl, he => by
    have hc := hl c (List.mem_cons_self _ _)
    have hl' : ∀ b ∈ l, b < 256 := fun b hb => hl b (List.mem_cons_of_mem _ hb)
    rw [escapeBytes_cons]
    by_cases hpct : c = byte '%'
    · subst hpct
      rcases l with _ | ⟨d, _ | ⟨e, rest⟩⟩
      · simp [unescapeError] at he
      · simp [unescapeError] at he
      obtain ⟨hd, he', hrest⟩ := unescapeError_pct_eq_none hm he
      rw [escapeByte_low (by decide), escapeBytes_cons, escapeByte_low (isHex_lt hd),
        escapeBytes_cons, escapeByte_low (isHex_lt he')]
      simp [decode, decode_escapeBytes hm rest (fun b hb => hl' b (by simp [hb])) hrest]
    · rw [unescapeError_cons_of_ne hm hpct] at he
      rw [decode_cons_of_ne hpct, ← decode_escapeBytes hm l hl' he]
      by_cases hlow : c < 0x80
      · rw [escapeByte_low hlow, List.singleton_append, decode_cons_of_ne hpct]
      · obtain ⟨-, h1, -⟩ := digitChar_hex (c / 16) (by omega)
        obtain ⟨-, h2, -⟩ := digitChar_hex (c % 16) (by omega)
        have hplus : c ≠ byte '+' := fun h => hlow (h ▸ by decide)
        rw [escapeByte_high hlow, List.cons_append, List.cons_append, List.cons_append,
          List.nil_append, decode_pct, h1, h2, if_neg fun h => hplus h.1]
        congr 1
        omega

theorem unescape_escapeBytes (hm : mode ≠ .host ∧ mode ≠ .zone) {l : List Nat}
    (hl : ∀ b ∈ l, b < 256) : unescape (escapeBytes l) mode = unescape l mode := by
  unfold unescape
  rw [unescapeError_escapeBytes hm l hl]
  cases he : unescapeError mode l
  · rw [decode_escapeBytes hm l hl he]
  · rfl

theorem mem_escapeByte {b c : Nat} (hb : b < 256) (h : c ∈ escapeByte b) :
    (c = b ∧ b < 0x80) ∨ c = byte '%' ∨ isHex c = true := by
  by_cases hlow : b < 0x80
  · rw [escapeByte_low hlow, List.mem_singleton] at h
    exact .inl ⟨h, hlow⟩
  · obtain ⟨h1, -, -⟩ := digitChar_hex (b / 16) (by omega)
    obtain ⟨h2, -, -⟩ := digitChar_hex (b % 16) (by omega)
    rw [escapeByte_high hlow] at h
    simp only [List.mem_cons, List.not_mem_nil, or_false] at h
    rcases h with rfl | rfl | rfl
    exacts [.inr (.inl rfl), .inr (.inr h1), .inr (.inr h2)]

theorem mem_escapeBytes {c : Nat} (hc : Plain c) {l : List Nat} (hl : ∀ b ∈ l, b < 256) :
    c ∈ escapeBytes l ↔ c ∈ l := by
  unfold escapeBytes
  rw [List.mem_flatMap]
  constructor
  · rintro ⟨b, hb, hm⟩
    rcases mem_escapeByte (hl b hb) hm with ⟨rfl, -⟩ | rfl | hx
    · exact hb
    · exact absurd rfl hc.2.1
    · exact absurd hx (by rw [hc.2.2]; decide)
  · exact fun hm => ⟨c, hm, by rw [escapeByte_low hc.1]; exact List.mem_singleton_self c⟩

theorem escapeBytes_eq_nil {l : List Nat} : escapeBytes l = [] ↔ l = [] := by
  cases l with
  | nil => simp
  | cons b l =>
    rw [escapeBytes_cons]
    simp only [List.append_eq_nil, reduceCtorEq, iff_false, not_and]
    intro h
    by_cases hb : b < 0x80 <;> simp [escapeByte_low, escapeByte_high, hb] at h

theorem splitAmp_escapeBytes : ∀ {l : List Nat}, (∀ b ∈ l, b < 256) →
    splitAmp (escapeBytes l) = (splitAmp l).map escapeBytes
  | [], _ => rfl
  | c :: l, hl => by
    have ih := splitAmp_escapeBytes fun b hb => hl b (List.mem_cons_of_mem _ hb)
    rw [escapeBytes_cons]
    by_cases hamp : c = byte '&'
    · subst hamp
      rw [escapeByte_low (by decide), List.singleton_append]
      simp [splitAmp, ih]
    · obtain ⟨f, rs, hf⟩ : ∃ f rs, splitAmp l = f :: rs := by
        cases h : splitAmp l with
        | nil => exact absurd h (splitAmp_ne_nil l)
        | cons f rs => exact ⟨f, rs, rfl⟩
      have ha : byte '&' ∉ escapeByte c := fun hm => by
        rcases mem_escapeByte (hl c (List.mem_cons_self _ _)) hm with ⟨h, -⟩ | h | h
        · exact hamp h.symm
        · exact absurd h (by decide)
        · exact absurd h (by decide)
      rw [splitAmp_append_left ha (by rw [ih, hf]; rfl)]
      simp [splitAmp, hamp, hf, escapeBytes_cons]

theorem not_mem_escapeByte_of_ne {sep c : Nat} (hs : Plain sep) (hc : c < 256) (h : c ≠ sep) :
    sep ∉ escapeByte c := fun hm => by
  rcases mem_escapeByte hc hm with ⟨h', -⟩ | h' | h'
  · exact h h'.symm
  · exact hs.2.1 h'
  · exact absurd h' (by rw [hs.2.2]; decide)

theorem cut_escapeBytes {sep : Nat} (hs : Plain sep) : ∀ {l : List Nat}, (∀ b ∈ l, b < 256) →
    cut sep (escapeBytes l) =
      (escapeBytes (cut sep l).1, escapeBytes (cut sep l).2.1, (cut sep l).2.2)
  | [], _ => rfl
  | c :: l, hl => by
    have ih := cut_escapeBytes hs fun b hb => hl b (List.mem_cons_of_mem _ hb)
    rw [escapeBytes_cons]
    by_cases hc : c = sep
    · subst hc
      rw [escapeByte_low hs.1, List.singleton_append]
      simp [cut]
    · rw [cut_append_left (not_mem_escapeByte_of_ne hs (hl c (List.mem_cons_self _ _)) hc), ih]
      simp [cut, hc, escapeBytes_cons]

theorem cut_subset (sep : Nat) : ∀ l : List Nat, (cut sep l).1 ⊆ l ∧ (cut sep l).2.1 ⊆ l
  | [] => by simp [cut]
  | c :: l => by
    have ih := cut_subset sep l
    unfold cut
    split_ifs
    · simp
    · exact ⟨List.cons_subset_cons _ ih.1, ih.2.trans (List.subset_cons_self _ _)⟩

theorem splitAmp_subset : ∀ {l p : List Nat}, p ∈ splitAmp l → p ⊆ l
  | [], p, h => by simp [splitAmp] at h; simp [h]
  | c :: l, p, h => by
    unfold splitAmp at h
    split_ifs at h
    · rcases List.mem_cons.1 h with rfl | h
      · exact List.nil_subset _
      · exact (splitAmp_subset h).trans (List.subset_cons_self _ _)
    · split at h
      · rename_i f rs hf
        rcases List.mem_cons.1 h with rfl | h
        · exact List.cons_subset_cons _ (splitAmp_subset (hf ▸ List.mem_cons_self f rs))
        · exact (splitAmp_subset (hf ▸ List.mem_cons_of_mem f h)).trans (List.subset_cons_self _ _)
      · exact absurd ‹_› (splitAmp_ne_nil l)

theorem queryPair_escapeBytes {piece : List Nat} (hl : ∀ b ∈ piece, b < 256) :
    queryPair (escapeBytes piece) = queryPair piece := by
  have hsemi : (escapeBytes piece).contains (byte ';') = piece.contains (byte ';') := by
    rw [Bool.eq_iff_iff, List.contains, List.contains, List.elem_iff, List.elem_iff]
    exact mem_escapeBytes (by decide) hl
  have hcut := cut_escapeBytes (show Plain (byte '=') by decide) hl
  have hsub := cut_subset (byte '=') piece
  unfold queryPair
  simp only [hsemi, hcut, escapeBytes_eq_nil]
  rw [unescape_escapeBytes (by decide) fun b hb => hl b (hsub.1 hb),
    unescape_escapeBytes (by decide) fun b hb => hl b (hsub.2 hb)]

theorem parseQuery_escapeBytes {q : List Nat} (hq : ∀ b ∈ q, b < 256) :
    parseQuery (escapeBytes q) = parseQuery q := by
  unfold parseQuery
  simp only [escapeBytes_eq_nil, splitAmp_escapeBytes hq, List.filterMap_map]
  split_ifs
  · rfl
  exact List.filterMap_congr fun p hp => queryPair_escapeBytes fun b hb => hq b (splitAmp_subset hp hb)

theorem escapeBytes_printable {l : List Nat} (hl : ∀ b ∈ l, b < 256)
    (h : ∀ c ∈ l, 0x20 ≤ c ∧ c ≠ 0x7f ∧ c ≠ byte '#') :
    ∀ c ∈ escapeBytes l, 0x20 ≤ c ∧ c ≠ 0x7f ∧ c ≠ byte '#' := fun c hc => by
  obtain ⟨b, hb, hm⟩ := List.mem_flatMap.1 hc
  rcases mem_escapeByte (hl b hb) hm with ⟨rfl, -⟩ | rfl | hx
  · exact h c hb
  · decide
  · simp [isHex, isDigit, byte] at hx ⊢
    omega

theorem queryBase_hexEscapeNonASCII {s : String} (h : QueryBase s) :
    QueryBase (hexEscapeNonASCII s) := by
  obtain ⟨hq, hf, hstar⟩ := h
  rw [QueryBase, bytes_hexEscapeNonASCII, mem_escapeBytes (by decide) (bytes_lt s),
    mem_escapeBytes (by decide) (bytes_lt s)]
  refine ⟨hq, hf, fun he => hstar ?_⟩
  cases hb : bytes s with
  | nil => rw [hb] at he; exact absurd he (by decide)
  | cons b l =>
    rw [hb, escapeBytes_cons] at he
    have hb' := bytes_lt s b (by rw [hb]; exact List.mem_cons_self _ _)
    by_cases hlow : b < 0x80
    · rw [escapeByte_low hlow, List.singleton_append, List.cons.injEq, escapeBytes_eq_nil] at he
      rw [he.1, he.2]
    · simp [escapeByte_high hlow] at he

theorem utf8_high {d : Char} (h : ¬d.toNat < 0x80) : ∀ b ∈ utf8 d, 0x80 ≤ b := by
  unfold utf8
  dsimp only
  split_ifs <;> simp <;> omega

theorem byte_mem_bytes {c : Char} (hc : c.toNat < 0x80) {s : String} :
    byte c ∈ bytes s ↔ c ∈ s.toList := by
  unfold bytes
  rw [List.mem_flatMap]
  constructor
  · rintro ⟨d, hd, hm⟩
    by_cases hdl : d.toNat < 0x80
    · rw [utf8_ascii hdl, List.mem_singleton] at hm
      have : c = d := by rw [← Char.ofNat_toNat c, ← Char.ofNat_toNat d]; exact congrArg _ hm
      exact this ▸ hd
    · exact absurd (utf8_high hdl _ hm) (by simp only [byte]; omega)
  · exact fun hm => ⟨c, hm, by rw [utf8_ascii hc]; exact List.mem_singleton_self _⟩

theorem mem_splitChars {sep c : Char} : ∀ {cs e : List Char}, e ∈ splitChars sep cs → c ∈ e → c ∈ cs
  | [], e, he, hc => by simp [splitChars] at he; simp [he] at hc
  | d :: cs, e, he, hc => by
    unfold splitChars at he
    split_ifs at he
    · rcases List.mem_cons.1 he with rfl | he
      · simp at hc
      · exact List.mem_cons_of_mem _ (mem_splitChars he hc)
    · split at he
      · rename_i f fs hf
        rcases List.mem_cons.1 he with rfl | he
        · rcases List.mem_cons.1 hc with rfl | hc
          · exact List.mem_cons_self _ _
          · exact List.mem_cons_of_mem _ (mem_splitChars (hf ▸ List.mem_cons_self f fs) hc)
        · exact List.mem_cons_of_mem _ (mem_splitChars (hf ▸ List.mem_cons_of_mem f he) hc)
      · simp only [List.mem_singleton] at he
        subst he
        exact List.mem_cons.2 (.inl (List.mem_singleton.1 hc))

theorem mem_cleanPush {r : Bool} {kept : List (List Char)} {e x : List Char}
    (h : x ∈ cleanPush r kept e) : x ∈ kept ∨ x = e := by
  unfold cleanPush at h
  by_cases h1 : e = [] ∨ e = ['.']
  · rw [if_pos h1] at h; exact .inl h
  rw [if_neg h1] at h
  by_cases h2 : e = ['.', '.']
  · rw [if_pos h2] at h
    rcases kept with _ | ⟨y, rest⟩
    · cases r <;> simp_all
    · simp only at h
      split_ifs at h
      · exact (List.mem_cons.1 h).symm
      · exact .inl (List.mem_cons_of_mem _ h)
  · rw [if_neg h2] at h
    exact (List.mem_cons.1 h).symm

theorem mem_foldl_cleanPush {r : Bool} :
    ∀ {es kept : List (List Char)} {x : List Char}, x ∈ es.foldl (cleanPush r) kept → x ∈ kept ∨ x ∈ es
  | [], _, _, h => .inl h
  | e :: es, kept, x, h => by
    rw [List.foldl_cons] at h
    rcases mem_foldl_cleanPush h with h | h
    · rcases mem_cleanPush h with h | rfl
      · exact .inl h
      · exact .inr (List.mem_cons_self _ _)
    · exact .inr (List.mem_cons_of_mem _ h)

theorem mem_intercalate {sep : List Char} {c : Char} :
    ∀ {L : List (List Char)}, c ∈ List.intercalate sep L → c ∈ sep ∨ ∃ e ∈ L, c ∈ e
  | [], h => by simp [List.intercalate] at h
  | [e], h => .inr ⟨e, List.mem_singleton_self e, by simpa [List.intercalate] using h⟩
  | e :: f :: L, h => by
    rw [List.intercalate, List.intersperse_cons₂, List.flatten_cons, List.flatten_cons,
      List.mem_append, List.mem_append] at h
    rcases h with h | h | h
    · exact .inr ⟨e, List.mem_cons_self _ _, h⟩
    · exact .inl h
    · rcases mem_intercalate (L := f :: L) h with h | ⟨g, hg, h⟩
      · exact .inl h
      · exact .inr ⟨g, List.mem_cons_of_mem _ hg, h⟩

theorem mem_pathClean {p : List Char} {c : Char} (h : c ∈ pathClean p) :
    c ∈ p ∨ c = '/' ∨ c = '.' := by
  have hbody : ∀ {r : Bool}, c ∈ List.intercalate ['/']
      ((splitChars '/' p).foldl (cleanPush r) []).reverse → c ∈ p ∨ c = '/' := fun hm => by
    rcases mem_intercalate hm with hm | ⟨e, he, hm⟩
    · exact .inr (List.mem_singleton.1 hm)
    · rcases mem_foldl_cleanPush (List.mem_reverse.1 he) with he | he
      · simp at he
      · exact .inl (mem_splitChars he hm)
  unfold pathClean at h
  dsimp only at h
  split_ifs at h
  · rcases List.mem_cons.1 h with rfl | h
    · exact .inr (.inl rfl)
    · exact (hbody h).imp_right .inl
  · exact .inr (.inr (List.mem_singleton.1 h))
  · exact (hbody h).imp_right .inl

theorem pathClean_head {p : List Char} (h : p.head? = some '/') : (pathClean p).head? = some '/' := by
  simp [pathClean, h]

/-- The directory of a path one segment below the root, where the server mounts every
handler that redirects. -/
def Mounted (oldpath : String) : Prop := (pathSplit oldpath.toList).1 = ['/']

instance : DecidablePred Mounted := fun _ => inferInstanceAs (Decidable (_ = _))

theorem Mounted.dir {old : String} (h : Mounted old) :
    (pathSplit (if old.toList = [] then ['/'] else old.toList)).1 = ['/'] := by
  by_cases he : old.toList = []
  · rw [Mounted, he] at h; simp [pathSplit] at h
  · rw [if_neg he]; exact h

theorem head_append_query (P Q : List Char) :
    (P ++ '?' :: Q).head? = some '/' ↔ P.head? = some '/' := by
  cases P <;> simp

theorem resolveRelative_query {old P Q : List Char} (hP : '?' ∉ P)
    (hdir : '?' ∉ (pathSplit (if old = [] then ['/'] else old)).1) :
    resolveRelative old (P ++ '?' :: Q) = resolveRelative old P ++ '?' :: Q := by
  have key : ∀ X : List Char, '?' ∉ X →
      (X ++ P ++ '?' :: Q).takeWhile (· ≠ '?') = X ++ P ∧
      (X ++ P ++ '?' :: Q).dropWhile (· ≠ '?') = '?' :: Q ∧
      (X ++ P).takeWhile (· ≠ '?') = X ++ P ∧ (X ++ P).dropWhile (· ≠ '?') = [] := by
    intro X hX
    have hXP : ∀ a ∈ X ++ P, decide (a ≠ '?') = true := fun a ha => by
      rcases List.mem_append.1 ha with ha | ha <;> simp only [decide_eq_true_eq] <;> rintro rfl
      exacts [hX ha, hP ha]
    refine ⟨?_, ?_, ?_, ?_⟩
    · rw [List.takeWhile_append_of_pos hXP]; simp
    · rw [List.dropWhile_append_of_pos hXP]; simp
    · exact List.takeWhile_eq_self_iff.2 hXP
    · exact List.dropWhile_eq_nil_iff.2 hXP
  unfold resolveRelative
  simp only [head_append_query]
  by_cases hh : P.head? = some '/'
  · obtain ⟨h1, h2, h3, h4⟩ := key [] (List.not_mem_nil _)
    simp only [List.nil_append] at h1 h2 h3 h4
    simp only [hh, if_true, h1, h2, h3, h4, List.append_nil]
  · obtain ⟨h1, h2, h3, h4⟩ := key _ hdir
    simp only [hh, if_false, ← List.append_assoc, h1, h2, h3, h4, List.append_nil]

theorem mem_resolveRelative {old P : List Char} {c : Char}
    (hq : ∀ a ∈ (pathSplit (if old = [] then ['/'] else old)).1 ++ P, a ≠ '?')
    (h : c ∈ resolveRelative old P) :
    c ∈ (pathSplit (if old = [] then ['/'] else old)).1 ++ P ∨ c = '/' ∨ c = '.' := by
  dsimp only [resolveRelative] at h
  generalize (pathSplit (if old = [] then ['/'] else old)).1 = dir at h hq ⊢
  generalize hu : (if P.head? = some '/' then P else dir ++ P) = u at h
  have hsub : ∀ a ∈ u, a ∈ dir ++ P := fun a ha => by
    rw [← hu] at ha
    split_ifs at ha
    · exact List.mem_append_right _ ha
    · exact ha
  have hall : ∀ a ∈ u, decide (a ≠ '?') = true := fun a ha => decide_eq_true (hq a (hsub a ha))
  rw [List.takeWhile_eq_self_iff.2 hall, List.dropWhile_eq_nil_iff.2 hall, List.append_nil] at h
  have hc : c ∈ pathClean u ∨ c = '/' := by
    split_ifs at h
    · rcases List.mem_append.1 h with h | h
      · exact .inl h
      · exact .inr (List.mem_singleton.1 h)
    · exact .inl h
  rcases hc with hc | rfl
  · exact (mem_pathClean hc).imp_left (hsub c)
  · exact .inr (.inl rfl)

theorem head_of_ne_nil {l : List Char} {c : Char} (h : l.head? = some c) (l' : List Char) :
    (l ++ l').head? = some c := by
  cases l <;> simp_all

theorem resolveRelative_head {old P : List Char}
    (hdir : (pathSplit (if old = [] then ['/'] else old)).1.head? = some '/') :
    (resolveRelative old P).head? = some '/' := by
  dsimp only [resolveRelative]
  generalize (pathSplit (if old = [] then ['/'] else old)).1 = dir at hdir ⊢
  generalize hu : (if P.head? = some '/' then P else dir ++ P) = u
  have hu1 : u.head? = some '/' := by
    rw [← hu]
    split_ifs with hh
    · exact hh
    · exact head_of_ne_nil hdir P
  have hw : (u.takeWhile (· ≠ '?')).head? = some '/' := by
    cases u with
    | nil => simp at hu1
    | cons d ds => simp only [List.head?_cons, Option.some.injEq] at hu1; subst hu1; simp
  have hc := pathClean_head hw
  split_ifs
  · exact head_of_ne_nil (head_of_ne_nil hc _) _
  · exact head_of_ne_nil hc _

theorem mk_append_query (a : List Char) (Q : String) :
    String.mk (a ++ '?' :: Q.toList) = String.mk a ++ "?" ++ Q := by
  show String.mk _ = String.mk _
  simp

theorem toList_query (R Q : String) : (R ++ "?" ++ Q).toList = R.toList ++ '?' :: Q.toList := by
  show (R.data ++ ['?']) ++ Q.data = _
  simp [String.toList]

theorem queryBase_mk {l : List Char} (hq : '?' ∉ l) (hf : '#' ∉ l) (hs : l.head? = some '/') :
    QueryBase (String.mk l) := by
  refine ⟨(byte_mem_bytes (by decide)).not.2 hq, (byte_mem_bytes (by decide)).not.2 hf, fun h => ?_⟩
  obtain ⟨d, ds, rfl⟩ : ∃ d ds, l = d :: ds := by cases l <;> simp_all
  simp only [List.head?_cons, Option.some.injEq] at hs
  subst hs
  have h' : (bytes (String.mk ('/' :: ds))).head? = some 47 := by simp [bytes, String.toList, utf8]
  rw [h] at h'
  exact absurd h' (by decide)

variable {old : String}

theorem mem_resolveRelative_mounted (hold : Mounted old) {P : List Char} {c : Char}
    (hq : '?' ∉ P) (h : c ∈ resolveRelative old.toList P) : c ∈ P ∨ c = '/' ∨ c = '.' := by
  have hdir := hold.dir
  have hm := mem_resolveRelative (fun a ha => by
    rw [hdir, List.singleton_append] at ha
    rcases List.mem_cons.1 ha with rfl | ha
    · decide
    · exact fun he => hq (he ▸ ha)) h
  rw [hdir, List.singleton_append] at hm
  rcases hm with hm | hm
  · rcases List.mem_cons.1 hm with rfl | hm
    · exact .inr (.inl rfl)
    · exact .inl hm
  · exact .inr hm

theorem queryBase_resolveRelative (hold : Mounted old) {R : String} (hR : QueryBase R) :
    QueryBase (String.mk (resolveRelative old.toList R.toList)) := by
  have hq : '?' ∉ R.toList := (byte_mem_bytes (by decide)).not.1 hR.1
  have hf : '#' ∉ R.toList := (byte_mem_bytes (by decide)).not.1 hR.2.1
  refine queryBase_mk (fun hm => ?_) (fun hm => ?_) (resolveRelative_head (by rw [hold.dir]; rfl))
  · rcases mem_resolveRelative_mounted hold hq hm with h | h | h
    exacts [hq h, absurd h (by decide), absurd h (by decide)]
  · rcases mem_resolveRelative_mounted hold hq hm with h | h | h
    exacts [hf h, absurd h (by decide), absurd h (by decide)]

theorem queryBase_resolveRedirect (hold : Mounted old) {R : String} (hR : QueryBase R) :
    QueryBase (resolveRedirect old R) := by
  unfold resolveRedirect
  split
  · split_ifs
    · exact queryBase_resolveRelative hold hR
    · exact hR
  · exact hR

theorem bytes_query (R Q : String) : bytes (R ++ "?" ++ Q) = bytes R ++ byte '?' :: bytes Q := by
  simp [bytes_append]; rfl

theorem resolveRedirect_query (hold : Mounted old) {R Q : String} (hR : QueryBase R)
    (hQ : ∀ c ∈ bytes Q, 0x20 ≤ c ∧ c ≠ 0x7f ∧ c ≠ byte '#') (hne : bytes Q ≠ []) :
    resolveRedirect old (R ++ "?" ++ Q) = resolveRedirect old R ++ "?" ++ Q := by
  have hq : '?' ∉ R.toList := (byte_mem_bytes (by decide)).not.1 hR.1
  unfold resolveRedirect
  rw [urlParse_query hR hQ hne (bytes_query R Q)]
  cases urlParse R with
  | error e => rfl
  | ok u =>
    simp only [Except.map]
    split_ifs
    · rw [toList_query, resolveRelative_query hq (by rw [hold.dir]; decide), mk_append_query]
    · rfl

theorem hexEscapeNonASCII_query (B Q : String) :
    bytes (hexEscapeNonASCII (B ++ "?" ++ Q)) =
      bytes (hexEscapeNonASCII B) ++ byte '?' :: escapeBytes (bytes Q) := by
  rw [bytes_hexEscapeNonASCII, bytes_hexEscapeNonASCII, bytes_query, escapeBytes_append,
    escapeBytes_cons, escapeByte_low (by decide)]
  rfl

theorem urlParse_redirectTarget_query (hold : Mounted old) {R Q : String} (hR : QueryBase R)
    (hQ : ∀ c ∈ bytes Q, 0x20 ≤ c ∧ c ≠ 0x7f ∧ c ≠ byte '#') (hne : bytes Q ≠ []) :
    urlParse (redirectTarget old (R ++ "?" ++ Q)) =
      (urlParse (redirectTarget old R)).map fun u => { u with rawQuery := escapeBytes (bytes Q) } := by
  rw [redirectTarget, resolveRedirect_query hold hR hQ hne]
  exact urlParse_query (queryBase_hexEscapeNonASCII (queryBase_resolveRedirect hold hR))
    (escapeBytes_printable (bytes_lt Q) hQ) (by rwa [Ne, escapeBytes_eq_nil])
    (hexEscapeNonASCII_query _ _)

/-- The receiver of what `http.Redirect` sends for `base?query` reads the pairs of the query
exactly when it can parse what `http.Redirect` sends for the bare base. -/
theorem readQuery_redirectTarget (hold : Mounted old) {R Q : String} (hR : QueryBase R)
    (hQ : ∀ c ∈ bytes Q, 0x20 ≤ c ∧ c ≠ 0x7f ∧ c ≠ byte '#') (hne : bytes Q ≠ []) :
    (urlParse (redirectTarget old (R ++ "?" ++ Q))).map (fun u => parseQuery u.rawQuery) =
      (urlParse (redirectTarget old R)).map fun _ => parseQuery (bytes Q) := by
  rw [urlParse_redirectTarget_query hold hR hQ hne]
  cases urlParse (redirectTarget old R) <;> simp [Except.map, parseQuery_escapeBytes (bytes_lt Q)]

theorem joinQuery_sendable {p : String × String} {ps : List (String × String)}
    (hp : ∀ q ∈ p :: ps, QueryKey q.1 ∧ QuerySafe q.2) :
    (∀ c ∈ joinQuery p ps, 0x20 ≤ c ∧ c ≠ 0x7f ∧ c ≠ byte '#') ∧ joinQuery p ps ≠ [] :=
  ⟨joinQuery_printable fun q hq => ⟨(hp q hq).1.2.1, (hp q hq).2⟩, by simp [joinQuery, pairBytes]⟩

section LastValue

variable {R Q key v : String} {p : String × String} {ps : List (String × String)}

end LastValue

end Obligator.Location
