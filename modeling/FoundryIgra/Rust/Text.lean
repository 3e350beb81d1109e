import Mathlib.Data.List.DropRight
import Mathlib.Data.List.TakeWhile
import Mathlib.Data.List.Infix
import Mathlib.Data.UInt
import Mathlib.Tactic.Common

/-!
# Text

The string functions of Rust's standard library that the program uses, on Lean strings (both are
sequences of Unicode scalar values), and the hexadecimal rendering of bytes.

## Main definitions

* `Rust.trim`, `Rust.trimStart0x`, `Rust.toAsciiLowercase`, `Rust.contains`.
* `Rust.splitWhitespace`.
* `Rust.isAsciiHexdigit`, `Rust.hexEncode`, `Rust.utf8`.
* `Rust.hexPairs`: the bytes that a hexadecimal text spells.

## Main results

* `Rust.hexEncode_inj`, `Rust.utf8_inj`, `Rust.toString_inj`: different bytes, texts and words are
  rendered differently.
* `Rust.length_trimChars_lt`: text before a character that is kept makes the trimmed text longer.
* `Rust.append_cons_inj`, `Rust.append_cons_inj_left`: a text splits in one way at its last
  separator, and at its first.
* `Rust.append_separator_cases`: two splits of a text at one separator.
* `Rust.splitWhitespace_intercalate`: words that are joined with spaces are found again.
-/

namespace Rust

/-- `char::is_whitespace`: the Unicode property `White_Space`. -/
def isWhitespace (c : Char) : Bool :=
  let n := c.toNat
  (0x09 ≤ n && n ≤ 0x0d) || n == 0x20 || n == 0x85 || n == 0xa0 || n == 0x1680 ||
    (0x2000 ≤ n && n ≤ 0x200a) || n == 0x2028 || n == 0x2029 || n == 0x202f || n == 0x205f ||
    n == 0x3000

/-- `u8::is_ascii_hexdigit`, on characters. -/
def isAsciiHexdigit (c : Char) : Bool :=
  ('0' ≤ c && c ≤ '9') || ('a' ≤ c && c ≤ 'f') || ('A' ≤ c && c ≤ 'F')

/-- The characters of `str::trim`. -/
def trimChars (cs : List Char) : List Char :=
  (cs.dropWhile isWhitespace).rdropWhile isWhitespace

/-- `str::trim`. -/
def trim (s : String) : String := String.ofList (trimChars s.toList)

/-- The characters of `str::trim_start_matches("0x")`: every leading `0x` is dropped. -/
def trimStart0xChars : List Char → List Char
  | '0' :: 'x' :: cs => trimStart0xChars cs
  | cs => cs

/-- `str::trim_start_matches("0x")`. -/
def trimStart0x (s : String) : String := String.ofList (trimStart0xChars s.toList)

/-- `str::to_ascii_lowercase`. -/
def toAsciiLowercase (s : String) : String := String.ofList (s.toList.map Char.toLower)

/-- `str::contains` with a string pattern. -/
def contains (s pat : String) : Bool := pat.toList <:+: s.toList

/-- The words of a text: the maximal runs of characters that are not white space. -/
def wordsOf (cs : List Char) : List (List Char) :=
  (cs.splitOnP isWhitespace).filter fun word => !word.isEmpty

/-- `str::split_whitespace`. -/
def splitWhitespace (s : String) : List String := (wordsOf s.toList).map String.ofList

/-- `str::as_bytes`. -/
def utf8 (s : String) : List UInt8 := s.toUTF8.data.toList

/-- The two hexadecimal digits of a byte. -/
def hexByte (b : UInt8) : List Char :=
  [Nat.digitChar (b.toNat / 16), Nat.digitChar (b.toNat % 16)]

/-- `hex::encode`. -/
def hexEncode (bytes : List UInt8) : String := String.ofList (bytes.flatMap hexByte)

@[simp] theorem toList_trim (s : String) : (trim s).toList = trimChars s.toList :=
  String.toList_ofList

@[simp] theorem toList_trimStart0x (s : String) :
    (trimStart0x s).toList = trimStart0xChars s.toList :=
  String.toList_ofList

@[simp] theorem toList_toAsciiLowercase (s : String) :
    (toAsciiLowercase s).toList = s.toList.map Char.toLower :=
  String.toList_ofList

/-! ### Hexadecimal texts -/

/-- The value of a hexadecimal digit. -/
def hexDigitValue (c : Char) : ℕ :=
  if c ≤ '9' then c.toNat - '0'.toNat else c.toLower.toNat - 'a'.toNat + 10

/-- The bytes that a hexadecimal text spells, two digits a byte. -/
def hexPairs : List Char → List UInt8
  | a :: b :: cs => UInt8.ofNat (16 * hexDigitValue a + hexDigitValue b) :: hexPairs cs
  | [] => []
  | [_] => []

theorem length_hexPairs (cs : List Char) : (hexPairs cs).length = cs.length / 2 := by
  fun_induction hexPairs cs with
  | case1 a b cs ih =>
    simp only [List.length_cons, ih]
    omega
  | case2 => rfl
  | case3 => simp

/-- A property of the ASCII characters, checked one by one. -/
theorem of_ascii {P : Char → Prop} (h : ∀ n < 128, P (Char.ofNat n)) {c : Char}
    (hc : c.toNat < 128) : P c := by
  rw [← Char.ofNat_toNat c]
  exact h c.toNat hc

theorem isAsciiHexdigit_iff {c : Char} : isAsciiHexdigit c = true ↔
    (48 ≤ c.toNat ∧ c.toNat ≤ 57) ∨ (97 ≤ c.toNat ∧ c.toNat ≤ 102) ∨
      (65 ≤ c.toNat ∧ c.toNat ≤ 70) := by
  simp only [isAsciiHexdigit, Bool.or_eq_true, Bool.and_eq_true, decide_eq_true_eq, Char.le_def,
    UInt32.le_iff_toNat_le, or_assoc]
  rfl

theorem toNat_lt_of_hexdigit {c : Char} (h : isAsciiHexdigit c = true) : c.toNat < 128 := by
  have hc := isAsciiHexdigit_iff.mp h
  omega

theorem not_isWhitespace_of_hexdigit {c : Char} (h : isAsciiHexdigit c = true) :
    isWhitespace c = false := by
  have hc := isAsciiHexdigit_iff.mp h
  simp only [isWhitespace, Bool.or_eq_false_iff, Bool.and_eq_false_iff, decide_eq_false_iff_not,
    beq_eq_false_iff_ne]
  omega

/-- Lowering a hexadecimal digit keeps it one, of the same value. -/
theorem hexdigit_toLower {c : Char} (h : isAsciiHexdigit c = true) :
    isAsciiHexdigit c.toLower = true ∧ hexDigitValue c.toLower = hexDigitValue c :=
  of_ascii (P := fun c => isAsciiHexdigit c = true →
      isAsciiHexdigit c.toLower = true ∧ hexDigitValue c.toLower = hexDigitValue c)
    (by decide +kernel) (toNat_lt_of_hexdigit h) h

theorem trimChars_eq_self {cs : List Char} (h : ∀ c ∈ cs, isAsciiHexdigit c = true) :
    trimChars cs = cs := by
  have hws : ∀ c ∈ cs, ¬isWhitespace c = true := fun c hc => by
    simp [not_isWhitespace_of_hexdigit (h c hc)]
  rw [trimChars, List.dropWhile_eq_self_iff.mpr fun hl => hws _ (List.getElem_mem hl),
    List.rdropWhile_eq_self_iff.mpr fun hl => hws _ (List.getLast_mem hl)]

theorem trimStart0xChars_eq_self {cs : List Char} (h : ∀ c ∈ cs, isAsciiHexdigit c = true) :
    trimStart0xChars cs = cs := by
  fun_cases trimStart0xChars cs with
  | case1 cs => exact absurd (h 'x' (by simp)) (by decide)
  | case2 => rfl

theorem hexPairs_map_toLower {cs : List Char} (h : ∀ c ∈ cs, isAsciiHexdigit c = true) :
    hexPairs (cs.map Char.toLower) = hexPairs cs := by
  fun_induction hexPairs cs with
  | case1 a b cs ih =>
    have ha := (hexdigit_toLower (h a (by simp))).2
    have hb := (hexdigit_toLower (h b (by simp))).2
    rw [List.map_cons, List.map_cons, hexPairs, ha, hb, ih fun c hc => h c (by simp [hc])]
  | case2 => rfl
  | case3 => rfl

theorem utf8ByteSize_ofList {cs : List Char} (h : ∀ c ∈ cs, c.toNat < 128) :
    (String.ofList cs).utf8ByteSize = cs.length := by
  induction cs with
  | nil => rfl
  | cons c cs ih =>
    have hc : c.utf8Size = 1 := by
      have := h c List.mem_cons_self
      rw [Char.utf8Size_eq_one_iff, UInt32.le_iff_toNat_le]
      exact Nat.lt_succ_iff.mp this
    rw [String.ofList_cons, String.utf8ByteSize_append, String.utf8ByteSize_singleton, hc,
      ih fun x hx => h x (List.mem_cons_of_mem _ hx), List.length_cons, Nat.add_comm]

theorem hexDigitValue_digitChar {d : ℕ} (h : d < 16) : hexDigitValue (Nat.digitChar d) = d := by
  have hall : ∀ d < 16, hexDigitValue (Nat.digitChar d) = d := by decide
  exact hall d h

theorem hexPairs_flatMap_hexByte (bytes : List UInt8) :
    hexPairs (bytes.flatMap hexByte) = bytes := by
  induction bytes with
  | nil => rfl
  | cons b bytes ih =>
    have hb := b.toNat_lt
    have hbyte : 16 * (b.toNat / 16) + b.toNat % 16 = b.toNat := by omega
    rw [List.flatMap_cons, hexByte, List.cons_append, List.cons_append, List.nil_append, hexPairs,
      hexDigitValue_digitChar (by omega), hexDigitValue_digitChar (by omega), hbyte, ih,
      UInt8.ofNat_toNat]

/-- Different bytes have different hexadecimal texts. -/
theorem hexEncode_inj {a b : List UInt8} (h : hexEncode a = hexEncode b) : a = b := by
  have hchars : a.flatMap hexByte = b.flatMap hexByte := String.ofList_injective h
  have hpairs := congrArg hexPairs hchars
  rwa [hexPairs_flatMap_hexByte, hexPairs_flatMap_hexByte] at hpairs

theorem utf8_inj {s t : String} (h : utf8 s = utf8 t) : s = t := by
  have hdata : s.toUTF8.data = t.toUTF8.data := Array.toList_inj.mp h
  exact String.toByteArray_inj.mp (ByteArray.ext hdata)

/-! ### Trimmed texts -/

theorem mem_dropWhile_of_not {α : Type} {p : α → Bool} {x : α} {l : List α} (hx : x ∈ l)
    (hp : p x = false) : x ∈ l.dropWhile p := by
  rw [← List.takeWhile_append_dropWhile (p := p) (l := l), List.mem_append] at hx
  rcases hx with hx | hx
  · exact absurd (List.mem_takeWhile_imp hx) (by simp [hp])
  · exact hx

theorem mem_trimChars {x : Char} {cs : List Char} (hx : x ∈ cs) (hw : isWhitespace x = false) :
    x ∈ trimChars cs := by
  rw [trimChars, List.rdropWhile, List.mem_reverse]
  exact mem_dropWhile_of_not (List.mem_reverse.mpr (mem_dropWhile_of_not hx hw)) hw

theorem rdropWhile_append {α : Type} (p : α → Bool) (l l' : List α) :
    (l ++ l').rdropWhile p =
      if (l'.rdropWhile p).isEmpty then l.rdropWhile p else l ++ l'.rdropWhile p := by
  simp only [List.rdropWhile, List.reverse_append, List.dropWhile_append, List.isEmpty_reverse]
  split_ifs
  · rfl
  · rw [List.reverse_append, List.reverse_reverse]

theorem length_rdropWhile_le_append {α : Type} (p : α → Bool) (l l' : List α) :
    (l'.rdropWhile p).length ≤ ((l ++ l').rdropWhile p).length := by
  rw [rdropWhile_append]
  split_ifs with h
  · rw [List.isEmpty_iff.mp h]
    exact Nat.zero_le _
  · rw [List.length_append]
    exact Nat.le_add_left ..

/-- Text before a character that is kept makes the trimmed text longer. -/
theorem length_trimChars_lt {x : Char} (hx : isWhitespace x = false) (b cs : List Char) :
    (trimChars cs).length < (trimChars (b ++ x :: cs)).length := by
  -- only blanks of `b` are dropped in front
  have hdrop : (b ++ x :: cs).dropWhile isWhitespace =
      b.dropWhile isWhitespace ++ x :: cs := by
    rw [List.dropWhile_append]
    split_ifs with h
    · rw [List.isEmpty_iff.mp h, List.dropWhile_cons_of_neg (by simp [hx]), List.nil_append]
    · rfl
  have hcs : (trimChars cs).length ≤ (cs.rdropWhile isWhitespace).length := by
    have h := length_rdropWhile_le_append isWhitespace (cs.takeWhile isWhitespace)
      (cs.dropWhile isWhitespace)
    rwa [List.takeWhile_append_dropWhile] at h
  have hkeep : (x :: cs).rdropWhile isWhitespace = x :: cs.rdropWhile isWhitespace := by
    have h := rdropWhile_append isWhitespace [x] cs
    rw [List.singleton_append] at h
    rw [h]
    split_ifs with hnil
    · rw [List.isEmpty_iff.mp hnil]
      simp [hx]
    · rfl
  have hlong := length_rdropWhile_le_append isWhitespace (b.dropWhile isWhitespace) (x :: cs)
  rw [hkeep, List.length_cons] at hlong
  rw [trimChars.eq_1 (b ++ x :: cs), hdrop]
  omega

/-! ### Decimal texts -/

theorem repr_inj {a b : ℕ} (h : a.repr = b.repr) : a = b := by
  have hdigits := congrArg String.toList h
  rw [Nat.toList_repr, Nat.toList_repr] at hdigits
  have hval := congrArg (fun l => Nat.ofDigitChars 10 l 0) hdigits
  simpa only [Nat.ofDigitChars_ten_toDigits] using hval

theorem isDigit_of_mem_repr {a : ℕ} {c : Char} (hc : c ∈ a.repr.toList) : c.isDigit := by
  rw [Nat.toList_repr] at hc
  exact Nat.isDigit_of_mem_toDigits (by decide) (by decide) hc

/-- Different words have different decimal texts. -/
theorem toString_inj {a b : UInt64} : toString a = toString b ↔ a = b := by
  constructor
  · intro h
    exact UInt64.toNat_inj.mp (repr_inj h)
  · rintro rfl
    rfl

theorem toString_inj32 {a b : UInt32} (h : toString a = toString b) : a = b :=
  UInt32.toNat_inj.mp (repr_inj h)

theorem isDigit_of_mem_toString {a : UInt64} {c : Char} (hc : c ∈ (toString a).toList) :
    c.isDigit :=
  isDigit_of_mem_repr (a := a.toNat) hc

theorem isDigit_of_mem_toString32 {a : UInt32} {c : Char} (hc : c ∈ (toString a).toList) :
    c.isDigit :=
  isDigit_of_mem_repr (a := a.toNat) hc

/-! ### Separators -/

/-- A text splits in one way at its last separator. -/
theorem append_cons_inj {α : Type} {x : α} {l l' r r' : List α} (hr : x ∉ r) (hr' : x ∉ r')
    (h : l ++ x :: r = l' ++ x :: r') : l = l' ∧ r = r' := by
  rcases List.append_eq_append_iff.mp h with ⟨a, rfl, ha⟩ | ⟨a, rfl, ha⟩
  · cases a with
    | nil => simpa using ha
    | cons y ys =>
      rw [List.cons_append, List.cons.injEq] at ha
      have hmem : x ∈ r := ha.2 ▸ List.mem_append_right _ List.mem_cons_self
      exact absurd hmem hr
  · cases a with
    | nil => simpa using ha.symm
    | cons y ys =>
      rw [List.cons_append, List.cons.injEq] at ha
      have hmem : x ∈ r' := ha.2 ▸ List.mem_append_right _ List.mem_cons_self
      exact absurd hmem hr'

/-- A text splits in one way at its first separator. -/
theorem append_cons_inj_left {α : Type} {x : α} {l l' r r' : List α} (hl : x ∉ l) (hl' : x ∉ l')
    (h : l ++ x :: r = l' ++ x :: r') : l = l' ∧ r = r' := by
  rcases List.append_eq_append_iff.mp h with ⟨a, rfl, ha⟩ | ⟨a, rfl, ha⟩
  · cases a with
    | nil => simpa using ha
    | cons y ys =>
      obtain ⟨rfl, -⟩ := List.cons.inj ha
      exact absurd (List.mem_append_right _ List.mem_cons_self) hl'
  · cases a with
    | nil => simpa using ha.symm
    | cons y ys =>
      obtain ⟨rfl, -⟩ := List.cons.inj ha
      exact absurd (List.mem_append_right _ List.mem_cons_self) hl

/-- Two splits of a text at a separator that ends in `x` are the same, or the tail of one of them
follows an `x` in the tail of the other. -/
theorem append_separator_cases {α : Type} {x : α} {u u' r n n' : List α}
    (h : u ++ r ++ x :: n = u' ++ r ++ x :: n') :
    (u = u' ∧ n = n') ∨ (∃ b, n = b ++ x :: n') ∨ ∃ b, n' = b ++ x :: n := by
  rcases List.append_eq_append_iff.mp h with ⟨a, hu, hn⟩ | ⟨a, hu, hn⟩
  · cases a with
    | nil =>
      rw [List.append_nil] at hu
      rw [List.nil_append, List.cons.injEq] at hn
      exact Or.inl ⟨(List.append_cancel_right hu).symm, hn.2⟩
    | cons y a =>
      rw [List.cons_append, List.cons.injEq] at hn
      exact Or.inr (Or.inl ⟨a, hn.2⟩)
  · cases a with
    | nil =>
      rw [List.append_nil] at hu
      rw [List.nil_append, List.cons.injEq] at hn
      exact Or.inl ⟨List.append_cancel_right hu, hn.2.symm⟩
    | cons y a =>
      rw [List.cons_append, List.cons.injEq] at hn
      exact Or.inr (Or.inr ⟨a, hn.2⟩)

/-! ### Words -/

/-- A word: some characters, and none of them white space. -/
def IsWord (word : List Char) : Prop := word ≠ [] ∧ ∀ c ∈ word, isWhitespace c = false

/-- The parts of a split do not contain the separators. -/
theorem forall_mem_splitOnP {α : Type} (p : α → Bool) (xs : List α) :
    ∀ part ∈ xs.splitOnP p, ∀ x ∈ part, p x = false := by
  induction xs with
  | nil =>
    intro part hpart x hx
    rw [List.splitOnP_nil, List.mem_singleton] at hpart
    rw [hpart] at hx
    cases hx
  | cons y ys ih =>
    intro part hpart x hx
    rw [List.splitOnP_cons_eq_if_modifyHead] at hpart
    split_ifs at hpart with hy
    · rcases List.mem_cons.mp hpart with rfl | hpart
      · cases hx
      · exact ih part hpart x hx
    · obtain ⟨first, rest, hsplit⟩ := List.exists_cons_of_ne_nil (List.splitOnP_ne_nil p ys)
      rw [hsplit] at hpart ih
      rcases List.mem_cons.mp hpart with rfl | hpart
      · rcases List.mem_cons.mp hx with rfl | hx
        · exact Bool.eq_false_iff.mpr hy
        · exact ih first List.mem_cons_self x hx
      · exact ih part (List.mem_cons_of_mem _ hpart) x hx

theorem isWord_of_mem_wordsOf {cs word : List Char} (h : word ∈ wordsOf cs) : IsWord word := by
  obtain ⟨hmem, hne⟩ := List.mem_filter.mp h
  exact ⟨by simpa using hne, forall_mem_splitOnP _ _ word hmem⟩

theorem isWord_of_mem_splitWhitespace {s word : String} (h : word ∈ splitWhitespace s) :
    IsWord word.toList := by
  obtain ⟨cs, hcs, rfl⟩ := List.mem_map.mp h
  rw [String.toList_ofList]
  exact isWord_of_mem_wordsOf hcs

/-- Words that are joined with spaces are found again. -/
theorem wordsOf_intercalate {words : List (List Char)} (h : ∀ word ∈ words, IsWord word) :
    wordsOf ([' '].intercalate words) = words := by
  induction words with
  | nil => rfl
  | cons word words ih =>
    obtain ⟨hne, hword⟩ := h word List.mem_cons_self
    have hkeep : ∀ rest, (word :: rest).filter (fun word => !word.isEmpty) =
        word :: rest.filter fun word => !word.isEmpty := fun rest =>
      List.filter_cons_of_pos (by simpa using hne)
    cases words with
    | nil =>
      rw [List.intercalate_singleton, wordsOf, List.splitOnP_eq_singleton hword, hkeep,
        List.filter_nil]
    | cons word' words =>
      have htail := ih fun word' hword' => h word' (List.mem_cons_of_mem _ hword')
      rw [wordsOf] at htail ⊢
      rw [List.intercalate_cons_cons, List.append_assoc, List.singleton_append,
        List.splitOnP_append_cons_of_forall_mem hword ' ' (by decide), hkeep, htail]

theorem splitWhitespace_intercalate {words : List String}
    (h : ∀ word ∈ words, IsWord word.toList) :
    splitWhitespace (" ".intercalate words) = words := by
  have hwords : ∀ word ∈ words.map String.toList, IsWord word := by
    intro word hword
    obtain ⟨s, hs, rfl⟩ := List.mem_map.mp hword
    exact h s hs
  rw [splitWhitespace, String.toList_intercalate]
  exact (congrArg _ (wordsOf_intercalate hwords)).trans (by simp [List.map_map, Function.comp_def])

end Rust
