import Mathlib.Data.List.Basic

/-!
Texts in a code. Where no word of a code begins another, what is written word after word can be read back in
one way only.

The bytes of a text. An ASCII character is one byte, and no other character has this byte. The first
byte of a character begins no other way than a character can, the others never do: a suffix of the
bytes is the end of one character and then whole characters, and bytes that begin with whole characters
go on with whole characters.
-/

set_option autoImplicit false
set_option relaxedAutoImplicit false

namespace Router.Text

section Codes

/-- Texts that begin with words of the code begin with the same word only if it stands for the same. -/
structure PrefixCode {α β : Type} (code : α → List β) : Prop where
  ne_nil : ∀ a, code a ≠ []
  eq_of_append_eq : ∀ a b s t, code a ++ s = code b ++ t → a = b

variable {α β : Type} {code : α → List β}

theorem PrefixCode.flatMap_injective (h : PrefixCode code) :
    Function.Injective fun as : List α => as.flatMap code := by
  intro as
  induction as with
  | nil =>
    intro bs heq
    cases bs with
    | nil => rfl
    | cons b bs => exact absurd (List.append_eq_nil_iff.1 heq.symm).1 (h.ne_nil b)
  | cons a as ih =>
    intro bs heq
    cases bs with
    | nil => exact absurd (List.append_eq_nil_iff.1 heq).1 (h.ne_nil a)
    | cons b bs =>
      obtain rfl : a = b := h.eq_of_append_eq a b _ _ heq
      rw [ih (List.append_cancel_left heq)]

end Codes

def utf8 (cs : List Char) : List UInt8 := cs.flatMap String.utf8EncodeChar

@[simp] theorem utf8_nil : utf8 [] = [] := rfl

@[simp] theorem utf8_cons (c : Char) (cs : List Char) :
    utf8 (c :: cs) = String.utf8EncodeChar c ++ utf8 cs := rfl

@[simp] theorem utf8_append (cs ds : List Char) : utf8 (cs ++ ds) = utf8 cs ++ utf8 ds :=
  List.flatMap_append

theorem toList_toUTF8 (s : String) : s.toUTF8.data.toList = utf8 s.toList := by
  rw [String.toUTF8_eq_toByteArray, ← String.utf8Encode_toList, List.utf8Encode,
    List.toList_data_toByteArray, utf8]

theorem length_utf8 (s : String) : (utf8 s.toList).length = s.utf8ByteSize := by
  rw [← toList_toUTF8]
  rfl

theorem fromUTF8?_eq_some_iff {bytes : List UInt8} {text : String} :
    String.fromUTF8? ⟨bytes.toArray⟩ = some text ↔ utf8 text.toList = bytes := by
  rw [← toList_toUTF8, String.fromUTF8?]
  constructor
  · intro h
    split at h
    · obtain rfl := Option.some.inj h
      rfl
    · simp at h
  · rintro rfl
    exact dif_pos text.isValidUTF8

theorem utf8EncodeChar_ascii {c : Char} (hc : c.toNat < 0x80) :
    String.utf8EncodeChar c = [c.toUInt8] := by
  have hle : c.val.toNat ≤ 0x7f := Nat.le_of_lt_succ hc
  simp only [String.utf8EncodeChar, if_pos hle]
  rfl

/-- A byte below `0x80` belongs to one character only. -/
theorem toNat_eq_of_mem_utf8EncodeChar {b : UInt8} {c : Char} (hb : b.toNat < 0x80)
    (h : b ∈ String.utf8EncodeChar c) : c.toNat = b.toNat := by
  change c.val.toNat = b.toNat
  simp only [String.utf8EncodeChar] at h
  split_ifs at h with h1 h2 h3
  · obtain rfl := List.mem_singleton.1 h
    rw [UInt8.toNat_ofNat']
    omega
  all_goals
    -- Every byte of a longer encoding has its highest bit set.
    simp only [List.mem_cons, List.not_mem_nil, or_false] at h
    obtain rfl | rfl | rfl | rfl | _ := h <;> simp only [UInt8.toNat_ofNat'] at hb <;> omega

theorem mem_utf8EncodeChar_ascii {m c : Char} (hm : m.toNat < 0x80) :
    m.toUInt8 ∈ String.utf8EncodeChar c ↔ c = m := by
  have hbyte : m.toUInt8.toNat = m.toNat := by
    change (UInt8.ofNat m.val.toNat).toNat = m.val.toNat
    have : m.val.toNat < 0x80 := hm
    rw [UInt8.toNat_ofNat']
    omega
  constructor
  · intro h
    have heq := toNat_eq_of_mem_utf8EncodeChar (by rw [hbyte]; exact hm) h
    exact Char.toNat_inj.1 (heq.trans hbyte)
  · rintro rfl
    rw [utf8EncodeChar_ascii hm]
    exact List.mem_singleton.2 rfl

theorem mem_utf8_ascii {m : Char} (hm : m.toNat < 0x80) {cs : List Char} :
    m.toUInt8 ∈ utf8 cs ↔ m ∈ cs := by
  simp only [utf8, List.mem_flatMap, mem_utf8EncodeChar_ascii hm]
  constructor
  · intro h
    obtain ⟨c, hc, rfl⟩ := h
    exact hc
  · intro h
    exact ⟨m, h, rfl⟩

theorem utf8EncodeChar_eq_cons (c : Char) : ∃ b bs, String.utf8EncodeChar c = b :: bs ∧
    b.IsUTF8FirstByte ∧ ∀ x ∈ bs, ¬ x.IsUTF8FirstByte := by
  obtain ⟨b, bs, hc⟩ := List.exists_cons_of_ne_nil (String.utf8EncodeChar_ne_nil (c := c))
  refine ⟨b, bs, hc, ?_, ?_⟩
  · have h := (@UInt8.isUTF8FirstByte_getElem_utf8EncodeChar c 0 (by simp [hc])).2 rfl
    simpa [hc] using h
  · intro x hx hfirst
    obtain ⟨i, hi, rfl⟩ := List.getElem_of_mem hx
    have h := (@UInt8.isUTF8FirstByte_getElem_utf8EncodeChar c (i + 1) (by simpa [hc] using hi)).1
      (by simpa [hc] using hfirst)
    omega

theorem exists_of_utf8_eq_cons {cs : List Char} {b : UInt8} {bytes : List UInt8}
    (hb : b.toNat < 0x80) (h : utf8 cs = b :: bytes) :
    ∃ c ds, cs = c :: ds ∧ c.toNat < 0x80 ∧ c.toUInt8 = b ∧ utf8 ds = bytes := by
  cases cs with
  | nil => simp at h
  | cons c ds =>
    have hmem : b ∈ String.utf8EncodeChar c := by
      obtain ⟨first, tail, hc, -, -⟩ := utf8EncodeChar_eq_cons c
      rw [utf8_cons, hc, List.cons_append] at h
      rw [hc, (List.cons.inj h).1]
      exact List.mem_cons_self
    have hascii : c.toNat < 0x80 := by rwa [toNat_eq_of_mem_utf8EncodeChar hb hmem]
    rw [utf8_cons, utf8EncodeChar_ascii hascii] at h
    obtain ⟨hfirst, hrest⟩ := List.cons.inj h
    exact ⟨c, ds, rfl, hascii, hfirst, hrest⟩

/-- A suffix of the bytes of a text is the end of a character and then the bytes of a suffix. -/
theorem exists_of_suffix_utf8 {bytes tail : List UInt8} {cs : List Char}
    (htail : ∀ x ∈ tail, ¬ x.IsUTF8FirstByte) (h : bytes <:+ tail ++ utf8 cs) :
    ∃ tail' ds, bytes = tail' ++ utf8 ds ∧ (∀ x ∈ tail', ¬ x.IsUTF8FirstByte) ∧ ds <:+ cs := by
  induction cs generalizing tail with
  | nil =>
    refine ⟨bytes, [], by simp, fun x hx => htail x ?_, List.suffix_rfl⟩
    simpa using h.subset hx
  | cons c cs ih =>
    induction tail with
    | nil =>
      obtain ⟨b, bs, hc, -, hbs⟩ := utf8EncodeChar_eq_cons c
      rw [List.nil_append, utf8_cons, hc, List.cons_append, List.suffix_cons_iff] at h
      rcases h with rfl | h
      · exact ⟨[], c :: cs, by simp [hc], by simp, List.suffix_rfl⟩
      · obtain ⟨tail', ds, heq, htail', hds⟩ := ih hbs h
        exact ⟨tail', ds, heq, htail', hds.trans (List.suffix_cons c cs)⟩
    | cons x tail ihtail =>
      rw [List.cons_append, List.suffix_cons_iff] at h
      rcases h with rfl | h
      · exact ⟨x :: tail, c :: cs, by simp, htail, List.suffix_rfl⟩
      · exact ihtail (fun y hy => htail y (List.mem_cons_of_mem x hy)) h

theorem exists_of_utf8_append_eq {cs ds : List Char} {bytes : List UInt8}
    (h : utf8 cs ++ bytes = utf8 ds) : ∃ es, ds = cs ++ es ∧ bytes = utf8 es := by
  have harray : cs.utf8Encode ++ bytes.toByteArray = ds.utf8Encode := by
    rw [List.utf8Encode, List.utf8Encode, ← List.toByteArray_append]
    exact congrArg List.toByteArray h
  obtain ⟨es, rfl⟩ := List.isPrefix_of_utf8Encode_append_eq_utf8Encode bytes.toByteArray harray
  exact ⟨es, rfl, List.append_cancel_left (h.trans (utf8_append cs es))⟩

end Router.Text
