import Router.Json.Text
import Router.Proofs.Json.Consumes

/-!
How strings are spelled. A character stands for itself, or is escaped by a letter, by its code point, or,
beyond the first 65536 code points, by the two halves of a pair. Every spelling is read as the string,
and what is written is one of them.
-/

set_option autoImplicit false
set_option relaxedAutoImplicit false

namespace Router.Json

/-- The letters behind a backslash, with the characters that they stand for. -/
def shortEscapes : List (Char × Char) :=
  [('"', '"'), ('\\', '\\'), ('/', '/'), ('b', '\x08'), ('f', '\x0c'), ('n', '\n'), ('r', '\r'),
    ('t', '\t')]

def IsHexDigit (digit : Nat) (x : Char) : Prop :=
  x = Nat.digitChar digit ∨ x = (Nat.digitChar digit).toUpper

instance (digit : Nat) (x : Char) : Decidable (IsHexDigit digit x) :=
  inferInstanceAs (Decidable (x = Nat.digitChar digit ∨ x = (Nat.digitChar digit).toUpper))

/-- The text is a number below 65536 in four hexadecimal digits. -/
inductive SpellsUnit (n : Nat) : List Char → Prop
  | digits {p q r s : Char} (h : n < 0x10000) (hp : IsHexDigit (n / 0x1000) p)
      (hq : IsHexDigit (n / 0x100 % 16) q) (hr : IsHexDigit (n / 16 % 16) r)
      (hs : IsHexDigit (n % 16) s) : SpellsUnit n [p, q, r, s]

/-- The first half of the pair that stands for a character beyond the first 65536. -/
def leadingHalf (c : Char) : Nat := 0xD800 + (c.toNat - 0x10000) / 0x400

def trailingHalf (c : Char) : Nat := 0xDC00 + (c.toNat - 0x10000) % 0x400

/-- The text stands for the character between the quotes of a string. -/
inductive SpellsChar (c : Char) : List Char → Prop
  | plain (hquote : c ≠ '"') (hbackslash : c ≠ '\\') (hcontrol : isControl c = false) :
      SpellsChar c [c]
  | letter {x : Char} (h : (x, c) ∈ shortEscapes) : SpellsChar c ['\\', x]
  | code {digits : List Char} (h : SpellsUnit c.toNat digits) : SpellsChar c ('\\' :: 'u' :: digits)
  | pair {leading trailing : List Char} (h : 0x10000 ≤ c.toNat)
      (hleading : SpellsUnit (leadingHalf c) leading)
      (htrailing : SpellsUnit (trailingHalf c) trailing) :
      SpellsChar c ('\\' :: 'u' :: (leading ++ '\\' :: 'u' :: trailing))

inductive SpellsChars : List Char → List Char → Prop
  | nil : SpellsChars [] []
  | cons {c : Char} {cs text more : List Char} (h : SpellsChar c text) (hcs : SpellsChars cs more) :
      SpellsChars (c :: cs) (text ++ more)

def SpellsString (s : String) (text : List Char) : Prop :=
  ∃ body, SpellsChars s.toList body ∧ text = '"' :: (body ++ ['"'])

theorem hexValue?_of_isHexDigit {digit : Nat} {x : Char} (hdigit : digit < 16)
    (h : IsHexDigit digit x) : hexValue? x = some digit := by
  have hall : ∀ d < 16, hexValue? (Nat.digitChar d) = some d ∧
      hexValue? (Nat.digitChar d).toUpper = some d := by decide
  rcases h with rfl | rfl
  · exact (hall digit hdigit).1
  · exact (hall digit hdigit).2

theorem consumes_hexEscape {n : Nat} {digits : List Char} (h : SpellsUnit n digits)
    (rest : List Char) : Consumes hexEscape digits n rest := by
  intro offset
  cases h with
  | @digits p q r s hn hp hq hr hs =>
    have hfour : fourDigits? p q r s = some n := by
      simp only [fourDigits?, hexValue?_of_isHexDigit (by omega) hp,
        hexValue?_of_isHexDigit (by omega) hq, hexValue?_of_isHexDigit (by omega) hr,
        hexValue?_of_isHexDigit (by omega) hs, Option.bind_eq_bind, Option.bind_some,
        Option.some.injEq]
      omega
    refine ⟨offset + 4, ?_⟩
    simp only [hexEscape, List.cons_append, List.nil_append, hfour]

theorem letterEscape?_of_mem {x c : Char} (h : (x, c) ∈ shortEscapes) :
    letterEscape? x = some c ∧ x ≠ 'u' := by
  simp only [shortEscapes, List.mem_cons, Prod.mk.injEq, List.not_mem_nil, or_false] at h
  obtain ⟨rfl, rfl⟩ | ⟨rfl, rfl⟩ | ⟨rfl, rfl⟩ | ⟨rfl, rfl⟩ | ⟨rfl, rfl⟩ | ⟨rfl, rfl⟩ | ⟨rfl, rfl⟩ |
    ⟨rfl, rfl⟩ := h <;> exact ⟨rfl, by decide⟩

theorem toNat_lt_or_lt (c : Char) : c.toNat < 0xD800 ∨ 0xDFFF < c.toNat ∧ c.toNat < 0x110000 :=
  c.valid

theorem joinHalves_halves {c : Char} (h : 0x10000 ≤ c.toNat) :
    joinHalves (leadingHalf c) (trailingHalf c) = c := by
  have hnat : 0x10000 + (leadingHalf c - 0xD800) * 0x400 + (trailingHalf c - 0xDC00) = c.toNat := by
    simp only [leadingHalf, trailingHalf]
    omega
  rw [joinHalves, hnat, Char.ofNat_toNat]

theorem consumes_codeEscape {c : Char} {digits : List Char} (h : SpellsUnit c.toNat digits)
    (rest : List Char) : Consumes codeEscape digits c rest := by
  have hbound := toNat_lt_or_lt c
  have htrailing : isTrailing c.toNat = false := by
    simp only [isTrailing, Bool.and_eq_false_iff, decide_eq_false_iff_not]
    omega
  have hleading : isLeading c.toNat = false := by
    simp only [isLeading, Bool.and_eq_false_iff, decide_eq_false_iff_not]
    omega
  intro offset
  obtain ⟨offset', hread⟩ := consumes_hexEscape h rest offset
  refine ⟨offset', ?_⟩
  rw [codeEscape, hread, Reading.andThen_ok, htrailing, hleading, Char.ofNat_toNat]
  rfl

theorem isLeading_leadingHalf {c : Char} (h : 0x10000 ≤ c.toNat) :
    isLeading (leadingHalf c) = true ∧ isTrailing (leadingHalf c) = false := by
  have hbound := toNat_lt_or_lt c
  have hle : 0xD800 ≤ leadingHalf c := by simp only [leadingHalf]; omega
  have hge : leadingHalf c ≤ 0xDBFF := by simp only [leadingHalf]; omega
  simp only [isLeading, isTrailing, Bool.and_eq_true, Bool.and_eq_false_iff, decide_eq_true_eq,
    decide_eq_false_iff_not]
  omega

theorem isTrailing_trailingHalf (c : Char) : isTrailing (trailingHalf c) = true := by
  have hle : 0xDC00 ≤ trailingHalf c := by simp only [trailingHalf]; omega
  have hge : trailingHalf c ≤ 0xDFFF := by simp only [trailingHalf]; omega
  simp only [isTrailing, Bool.and_eq_true, decide_eq_true_eq]
  omega

theorem consumes_codeEscape_pair {c : Char} {leading trailing : List Char} (h : 0x10000 ≤ c.toNat)
    (hleading : SpellsUnit (leadingHalf c) leading)
    (htrailing : SpellsUnit (trailingHalf c) trailing) (rest : List Char) :
    Consumes codeEscape (leading ++ '\\' :: 'u' :: trailing) c rest := by
  obtain ⟨hlead, hnot⟩ := isLeading_leadingHalf h
  intro offset
  obtain ⟨middle, hread⟩ :=
    consumes_hexEscape hleading ('\\' :: 'u' :: trailing ++ rest) offset
  obtain ⟨offset', hread'⟩ := consumes_hexEscape htrailing rest (middle + 1 + 1)
  refine ⟨offset', ?_⟩
  rw [List.append_assoc, codeEscape, hread, Reading.andThen_ok, hnot, hlead]
  simp only [Bool.false_eq_true, if_false, if_true, secondHalf, List.cons_append, Cursor.past,
    List.tail_cons]
  rw [hread', Reading.andThen_ok, isTrailing_trailingHalf, joinHalves_halves h]
  rfl

theorem escape_letter {x c : Char} (h : (x, c) ∈ shortEscapes) (rest : List Char) (offset : Nat) :
    escape ⟨x :: rest, offset⟩ = .ok (c, ⟨rest, offset + 1⟩) := by
  obtain ⟨hletter, hu⟩ := letterEscape?_of_mem h
  rw [escape]
  split
  · rename_i heq
    exact absurd heq (by simp)
  · rename_i heq
    exact absurd (List.cons.inj heq).1 hu
  · rename_i heq
    obtain ⟨rfl, rfl⟩ := List.cons.inj heq
    rw [hletter]
    rfl

theorem consumes_escape {c : Char} {text : List Char} (h : SpellsChar c ('\\' :: text))
    (rest : List Char) : Consumes escape text c rest := by
  intro offset
  cases h with
  | plain _ hbackslash _ => exact absurd rfl hbackslash
  | letter h => exact ⟨offset + 1, escape_letter h rest offset⟩
  | code h => exact consumes_codeEscape h rest (offset + 1)
  | pair h hleading htrailing =>
    exact consumes_codeEscape_pair h hleading htrailing rest (offset + 1)

theorem stringBody_cons {c : Char} {text : List Char} (h : SpellsChar c text) (fuel : Nat)
    (rest : List Char) (offset : Nat) : ∃ offset', stringBody (fuel + 1) ⟨text ++ rest, offset⟩ =
      (stringBody fuel ⟨rest, offset'⟩).map (c :: ·) := by
  have hescape : ∀ {text}, SpellsChar c ('\\' :: text) → ∃ offset',
      stringBody (fuel + 1) ⟨'\\' :: text ++ rest, offset⟩ =
        (stringBody fuel ⟨rest, offset'⟩).map (c :: ·) := by
    intro text h
    obtain ⟨offset', hread⟩ := consumes_escape h rest (offset + 1)
    refine ⟨offset', ?_⟩
    show (escape ⟨text ++ rest, offset + 1⟩).andThen _ = _
    rw [hread, Reading.andThen_ok]
  cases h with
  | plain hquote hbackslash hcontrol =>
    exact ⟨offset + c.utf8Size, by simp [stringBody, hcontrol]⟩
  | letter h => exact hescape (.letter h)
  | code h => exact hescape (.code h)
  | pair h hleading htrailing => exact hescape (.pair h hleading htrailing)

theorem SpellsChar.length_pos {c : Char} {text : List Char} (h : SpellsChar c text) :
    0 < text.length := by
  cases h <;> simp

theorem stringBody_of_spellsChars {cs text : List Char} (h : SpellsChars cs text) (rest : List Char)
    {fuel : Nat} (hfuel : text.length < fuel) (offset : Nat) :
    ∃ offset', stringBody fuel ⟨text ++ '"' :: rest, offset⟩ = .ok (cs, ⟨rest, offset'⟩) := by
  induction h generalizing fuel offset with
  | nil =>
    obtain ⟨fuel, rfl⟩ := Nat.exists_eq_succ_of_ne_zero (Nat.ne_of_gt hfuel)
    exact ⟨offset + 1, rfl⟩
  | @cons c cs text more h _ ih =>
    have hpos := h.length_pos
    rw [List.length_append] at hfuel
    obtain ⟨fuel, rfl⟩ : ∃ n, fuel = n + 1 := ⟨fuel - 1, by omega⟩
    obtain ⟨middle, hfirst⟩ := stringBody_cons h fuel (more ++ '"' :: rest) offset
    have hmore : more.length < fuel := by omega
    obtain ⟨offset', hrest⟩ := ih hmore middle
    refine ⟨offset', ?_⟩
    rw [List.append_assoc, hfirst, hrest]
    rfl

theorem consumes_string {s : String} {body : List Char} (h : SpellsChars s.toList body)
    (rest : List Char) : Consumes string (body ++ ['"']) s rest := by
  intro offset
  have hfuel : body.length < (body ++ ['"'] ++ rest).length + 1 := by
    simp only [List.length_append]
    omega
  obtain ⟨offset', hread⟩ := stringBody_of_spellsChars h rest hfuel offset
  refine ⟨offset', ?_⟩
  have htext : body ++ ['"'] ++ rest = body ++ '"' :: rest := by simp
  rw [string, htext]
  rw [htext] at hread
  rw [hread]
  exact congrArg (fun t => Except.ok (t, (⟨rest, offset'⟩ : Cursor))) String.ofList_toList

theorem consumes_skipEscape {x c : Char} (h : (x, c) ∈ shortEscapes) (rest : List Char) :
    Consumes skipEscape [x] () rest := by
  obtain ⟨hletter, hu⟩ := letterEscape?_of_mem h
  intro offset
  refine ⟨offset + 1, ?_⟩
  rw [List.singleton_append, skipEscape]
  split
  · rename_i heq
    exact absurd heq (by simp)
  · rename_i heq
    exact absurd (List.cons.inj heq).1 hu
  · rename_i heq
    obtain ⟨rfl, rfl⟩ := List.cons.inj heq
    rw [hletter]
    rfl

theorem consumes_skipEscape_unit {n : Nat} {digits : List Char} (h : SpellsUnit n digits)
    (rest : List Char) : Consumes skipEscape ('u' :: digits) () rest := by
  intro offset
  obtain ⟨offset', hread⟩ := consumes_hexEscape h rest (offset + 1)
  refine ⟨offset', ?_⟩
  show (hexEscape ⟨digits ++ rest, offset + 1⟩).map _ = _
  rw [hread]
  rfl

theorem skipStringBody_escape {text : List Char} {rest : List Char}
    (h : Consumes skipEscape text () rest) (offset : Nat) : ∃ offset', ∀ fuel,
      skipStringBody (fuel + 1) ⟨'\\' :: (text ++ rest), offset⟩ =
        skipStringBody fuel ⟨rest, offset'⟩ := by
  obtain ⟨offset', hread⟩ := h (offset + 1)
  refine ⟨offset', fun fuel => ?_⟩
  show (skipEscape ⟨text ++ rest, offset + 1⟩).andThen _ = _
  rw [hread, Reading.andThen_ok]

theorem spellsUnit_of_isControl {c : Char} (h : isControl c = true) : SpellsUnit c.toNat
    ['0', '0', Nat.digitChar (c.toNat / 16), Nat.digitChar (c.toNat % 16)] := by
  have hlt : c.toNat < 0x20 := by simpa [isControl] using h
  have hfirst : c.toNat / 0x1000 = 0 := by omega
  have hsecond : c.toNat / 0x100 % 16 = 0 := by omega
  have hthird : c.toNat / 16 % 16 = c.toNat / 16 := by omega
  refine .digits (by omega) ?_ ?_ ?_ (.inl rfl)
  · rw [hfirst]
    exact .inl rfl
  · rw [hsecond]
    exact .inl rfl
  · rw [hthird]
    exact .inl rfl

theorem spellsChar_writeChar (c : Char) : SpellsChar c (writeChar c) := by
  unfold writeChar
  split_ifs with hself hb hf hn hr ht hcontrol
  · have hmem : (c, c) ∈ shortEscapes := by
      rcases (by simpa using hself : c = '"' ∨ c = '\\') with rfl | rfl <;> decide
    exact .letter hmem
  · exact hb ▸ .letter (by decide)
  · exact hf ▸ .letter (by decide)
  · exact hn ▸ .letter (by decide)
  · exact hr ▸ .letter (by decide)
  · exact ht ▸ .letter (by decide)
  · exact .code (spellsUnit_of_isControl hcontrol)
  · obtain ⟨hquote, hbackslash⟩ : c ≠ '"' ∧ c ≠ '\\' := by simpa using hself
    exact .plain hquote hbackslash (by simpa using hcontrol)

theorem spellsChars_flatMap (cs : List Char) : SpellsChars cs (cs.flatMap writeChar) := by
  induction cs with
  | nil => exact .nil
  | cons c cs ih => exact .cons (spellsChar_writeChar c) ih

theorem spellsString_writeString (s : String) : SpellsString s (writeString s) :=
  ⟨_, spellsChars_flatMap s.toList, rfl⟩

end Router.Json
