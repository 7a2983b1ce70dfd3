/-
  SGX caching service: the pieces of the Go standard library the handlers call, as they
  compute. `hex.DecodeString` and `hex.EncodeToString` (and their round trip),
  `binary.LittleEndian.Uint16`, `strconv.ParseUint`, `base64.StdEncoding.EncodeToString`,
  `Header.Get` and `url.Values.Get`.

  Byte values go through `Nat` (`Nat.toUInt8`), so the lemmas are about `toNat`.

  The last section is about digits that were checked first: an even number of hexadecimal
  digits decodes, one byte per pair, and encodes back in lower case (`decodeString_of_hex`);
  `ParseUint` in base 16 of digits whose largest value fits succeeds below `16 ^ length`
  (`parseUint_of_hex`). Both rest on one character lemma, `fromHexChar_eq_some`, checked over the
  code points below `'g'`.
-/
import Mathlib.Data.String.Basic
import SgxCachingService.Types

namespace SgxCachingService

/-- How a Go call ends: it returns, or the goroutine panics with a runtime error. -/
inductive Exit (α : Type) where
  | returned (a : α)
  | panicked (msg : String)
  deriving DecidableEq, Repr

/-! ## `encoding/hex` -/

/-- `fromHexChar`: the value of one hexadecimal digit, either case. -/
def fromHexChar (c : Char) : Option Nat :=
  if '0' ≤ c ∧ c ≤ '9' then some (c.toNat - '0'.toNat)
  else if 'a' ≤ c ∧ c ≤ 'f' then some (c.toNat - 'a'.toNat + 10)
  else if 'A' ≤ c ∧ c ≤ 'F' then some (c.toNat - 'A'.toNat + 10)
  else none

/-- The upper-case hexadecimal digit of `d < 16`. -/
def upperHexDigit (d : Nat) : Char := (Nat.digitChar d).toUpper

/-- `strconv.IsPrint` of a rune below 256: printable ASCII, and Latin-1 from `¡` on but the
soft hyphen. -/
def isPrintLatin1 (r : Nat) : Bool :=
  (0x20 ≤ r && r ≤ 0x7E) || (0xA1 ≤ r && r ≠ 0xAD)

/-- `InvalidByteError(b).Error()`, that is `"encoding/hex: invalid byte: %#U"` of the byte:
`U+` and four upper-case digits, then the rune in quotes when it is printable. `Decode` reads
bytes, and every byte before the first non-digit character is a digit, so the byte it names is
the first of that character's UTF-8 encoding. -/
def invalidByteError (c : Char) : String :=
  let b := (String.utf8EncodeChar c).headD 0 |>.toNat
  "encoding/hex: invalid byte: U+00" ++
    String.mk [upperHexDigit (b / 16), upperHexDigit (b % 16)] ++
    if isPrintLatin1 b then " '" ++ String.singleton (Char.ofNat b) ++ "'" else ""

example : invalidByteError 'g' = "encoding/hex: invalid byte: U+0067 'g'" := by decide
example : invalidByteError '\n' = "encoding/hex: invalid byte: U+000A" := by decide

/-- `hex.Decode` over the characters: a pair of digits per byte, high nibble first; the first
non-digit of a pair is `InvalidByteError`, a lone last digit `ErrLength`. -/
def decodeHex : List Char → Except String (List UInt8)
  | [] => .ok []
  | [c] => match fromHexChar c with
    | none => .error (invalidByteError c)
    | some _ => .error "encoding/hex: odd length hex string"
  | p :: q :: rest => match fromHexChar p, fromHexChar q with
    | some a, some b => (decodeHex rest).map ((16 * a + b).toUInt8 :: ·)
    | none, _ => .error (invalidByteError p)
    | some _, none => .error (invalidByteError q)

/-- `hex.DecodeString`. -/
def decodeString (s : String) : Except String (List UInt8) := decodeHex s.toList

/-- The object sizes of the allocator's size classes up to 32 KiB (`runtime/sizeclasses.go`). -/
def sizeClasses : List Nat :=
  [0, 8, 16, 24, 32, 48, 64, 80, 96, 112, 128, 144, 160, 176, 192, 208, 224, 240, 256, 288, 320,
    352, 384, 416, 448, 480, 512, 576, 640, 704, 768, 896, 1024, 1152, 1280, 1408, 1536, 1792,
    2048, 2304, 2688, 3072, 3200, 3456, 4096, 4864, 5376, 6144, 6528, 6784, 6912, 8192, 9472,
    9728, 10240, 10880, 12288, 13568, 14336, 16384, 18432, 19072, 20480, 21760, 24576, 27264,
    28672, 32768]

/-- `roundupsize`: the smallest size class that holds `n` bytes, and past the largest class
whole 8 KiB pages. `DecodeString` decodes in place into `[]byte(s)`, which it returns, so the
runtime allocates that slice on the heap (`rawbyteslice`) with this capacity. -/
def roundupsize (n : Nat) : Nat :=
  match sizeClasses.find? (n ≤ ·) with
  | some c => c
  | none => (n + 8191) / 8192 * 8192

example : roundupsize 4 = 8 ∧ roundupsize 36 = 48 := by decide

theorem le_roundupsize (n : Nat) : n ≤ roundupsize n := by
  unfold roundupsize
  split
  · rename_i c hc
    simpa using List.find?_some hc
  · omega

/-- The two lower-case digits `hex.Encode` writes for each byte. -/
def hexDigits (bs : List UInt8) : List Char :=
  bs.flatMap fun b => [Nat.digitChar (b.toNat / 16), Nat.digitChar (b.toNat % 16)]

/-- `hex.EncodeToString`. -/
def encodeToString (bs : List UInt8) : String := String.mk (hexDigits bs)

theorem fromHexChar_digitChar : ∀ n < 16, fromHexChar (Nat.digitChar n) = some n := by
  decide

theorem toUInt8_toNat (b : UInt8) : b.toNat.toUInt8 = b :=
  UInt8.toNat.inj (UInt8.toNat_ofNat_of_lt b.toNat_lt_size)


theorem decodeHex_hexDigits (bs : List UInt8) : decodeHex (hexDigits bs) = .ok bs := by
  induction bs with
  | nil => rfl
  | cons b bs ih =>
    have hb : b.toNat < 256 := b.toNat_lt_size
    simp only [hexDigits, List.flatMap_cons, List.cons_append, List.nil_append] at ih ⊢
    rw [decodeHex, fromHexChar_digitChar _ (by omega), fromHexChar_digitChar _ (by omega), ih]
    simp only [Except.map, Nat.div_add_mod, toUInt8_toNat]

theorem hexDigits_length (bs : List UInt8) : (hexDigits bs).length = 2 * bs.length := by
  induction bs with
  | nil => rfl
  | cons b bs ih => simp only [hexDigits, List.flatMap_cons] at ih ⊢; simp [ih]; omega

/-- Decoding gives back every byte string that was encoded. -/
theorem decodeString_encodeToString (bs : List UInt8) :
    decodeString (encodeToString bs) = .ok bs :=
  decodeHex_hexDigits bs

/-! ## `encoding/binary` -/

/-- `binary.LittleEndian.Uint16`: `b[0] | b[1] << 8`, that is `b[0] + 256 b[1]`; `none`
where the bounds check on `b[1]` panics. -/
def littleEndianUint16 : List UInt8 → Option UInt16
  | lo :: hi :: _ => some (lo.toNat + 256 * hi.toNat).toUInt16
  | _ => none

/-! ## `strconv` -/

/-- The digit value `strconv.ParseUint` gives a character: `0`–`9`, then ASCII letters of
either case from 10. -/
def digitValue (c : Char) : Option Nat :=
  if '0' ≤ c ∧ c ≤ '9' then some (c.toNat - '0'.toNat)
  else if 'a' ≤ c.toLower ∧ c.toLower ≤ 'z' then some (c.toLower.toNat - 'a'.toNat + 10)
  else none

/-- The digit loop of `strconv.ParseUint`: it stops at the first character that is not a
digit of `base` (a syntax error) or that takes the value past `maxVal` (a range error). -/
def parseUintLoop (base maxVal : Nat) : List Char → Nat → Except String Nat
  | [], n => .ok n
  | c :: cs, n =>
    match digitValue c with
    | some d =>
      if d < base then
        if n * base + d ≤ maxVal then parseUintLoop base maxVal cs (n * base + d)
        else .error "value out of range"
      else .error "invalid syntax"
    | none => .error "invalid syntax"

/-- The escape `strconv.Quote` writes for one character: the named escapes, `\xNN` (lower-case
digits) for the other ASCII controls and DEL, and the character itself otherwise. A rune past
ASCII is kept as Quote keeps every printable one; its `\u` escape of the others is left out. -/
def quoteChar (c : Char) : List Char :=
  match c with
  | '"' => ['\\', '"']
  | '\\' => ['\\', '\\']
  | '\x07' => ['\\', 'a']
  | '\x08' => ['\\', 'b']
  | '\x0c' => ['\\', 'f']
  | '\n' => ['\\', 'n']
  | '\r' => ['\\', 'r']
  | '\t' => ['\\', 't']
  | '\x0b' => ['\\', 'v']
  | c => if c.toNat < 0x20 ∨ c.toNat = 0x7F then
      ['\\', 'x', Nat.digitChar (c.toNat / 16), Nat.digitChar (c.toNat % 16)]
    else [c]

/-- `strconv.Quote`: the string in double quotes, each character escaped by `quoteChar`. -/
def quote (s : String) : String := String.mk ('"' :: s.toList.flatMap quoteChar ++ ['"'])

example : quote "1\"\n" = "\"1\\\"\\n\"" := by decide

/-- `NumError.Error()` for `ParseUint`: the function, the input quoted, and the cause. -/
def parseUintError (s e : String) : String :=
  "strconv.ParseUint: parsing " ++ quote s ++ ": " ++ e

/-- `strconv.ParseUint(s, base, bitSize)` for `2 ≤ base ≤ 36` (no prefix, no underscores). -/
def parseUint (s : String) (base bitSize : Nat) : Except String Nat :=
  if s.isEmpty then .error (parseUintError s "invalid syntax")
  else match parseUintLoop base (2 ^ bitSize - 1) s.toList 0 with
    | .ok n => .ok n
    | .error e => .error (parseUintError s e)

/-! ## `encoding/base64` -/

/-- The standard base64 alphabet. -/
def base64Char (n : Nat) : Char :=
  "ABCDEFGHIJKLMNOPQRSTUVWXYZabcdefghijklmnopqrstuvwxyz0123456789+/".toList.getD n '='

/-- `base64.StdEncoding.Encode`: four characters per three bytes, `=` padding. -/
def base64Chars : List UInt8 → List Char
  | a :: b :: c :: rest =>
    let n := a.toNat * 65536 + b.toNat * 256 + c.toNat
    [base64Char (n / 262144), base64Char (n / 4096 % 64), base64Char (n / 64 % 64),
      base64Char (n % 64)] ++ base64Chars rest
  | [a, b] =>
    let n := a.toNat * 65536 + b.toNat * 256
    [base64Char (n / 262144), base64Char (n / 4096 % 64), base64Char (n / 64 % 64), '=']
  | [a] =>
    let n := a.toNat * 65536
    [base64Char (n / 262144), base64Char (n / 4096 % 64), '=', '=']
  | [] => []

/-- `base64.StdEncoding.EncodeToString` of a body's bytes, its UTF-8 encoding. -/
def base64EncodeToString (body : String) : String :=
  String.mk (base64Chars (body.data.flatMap String.utf8EncodeChar))

/-! ## `net/http` and `net/url` -/

/-- `Header.Get`: the first value under the (canonical) key, `""` when there is none. -/
def headerGet (header : List (String × String)) (key : String) : String :=
  (header.lookup key).getD ""

/-- `url.Values.Get`: the first value of a query parameter, `""` when absent. -/
def queryGet (query : List (String × String)) (key : String) : String :=
  (query.lookup key).getD ""

/-! ## Hexadecimal input -/

/-- A character `fromHexChar` accepts is below `'g'`. -/
theorem fromHexChar_lt {c : Char} (h : (fromHexChar c).isSome) : c.toNat < 103 := by
  unfold fromHexChar at h
  split_ifs at h with h₁ h₂ h₃
  · exact Nat.lt_of_le_of_lt h₁.2 (by decide)
  · exact Nat.lt_of_le_of_lt h₂.2 (by decide)
  · exact Nat.lt_of_le_of_lt h₃.2 (by decide)
  · simp at h

/-- The hexadecimal digits, checked one code point at a time: the value is a nibble,
`strconv`'s digit value agrees with it, and `hex.Encode` writes the digit back in lower case. -/
theorem hexChars_below : ∀ k < 103, ∀ d, fromHexChar (Char.ofNat k) = some d →
    d < 16 ∧ digitValue (Char.ofNat k) = some d ∧ Nat.digitChar d = (Char.ofNat k).toLower := by
  decide

theorem fromHexChar_eq_some {c : Char} {d : Nat} (h : fromHexChar c = some d) :
    d < 16 ∧ digitValue c = some d ∧ Nat.digitChar d = c.toLower := by
  have hc := fromHexChar_lt (c := c) (by simp [h])
  rw [← Char.ofNat_toNat c] at h ⊢
  exact hexChars_below _ hc d h

/-- `hex.Decode` of an even number of hexadecimal digits succeeds with one byte per pair, and
`hex.Encode` of the result gives the digits back in lower case. -/
theorem decodeHex_of_hex : ∀ (cs : List Char), cs.length % 2 = 0 →
    (∀ c ∈ cs, (fromHexChar c).isSome) →
    ∃ bs, decodeHex cs = .ok bs ∧ 2 * bs.length = cs.length ∧ hexDigits bs = cs.map Char.toLower
  | [], _, _ => ⟨[], rfl, rfl, rfl⟩
  | [_], h, _ => by simp at h
  | p :: q :: rest, h, hx => by
    obtain ⟨a, ha⟩ := Option.isSome_iff_exists.1 (hx p (by simp))
    obtain ⟨b, hb⟩ := Option.isSome_iff_exists.1 (hx q (by simp))
    obtain ⟨ha16, -, hpa⟩ := fromHexChar_eq_some ha
    obtain ⟨hb16, -, hqb⟩ := fromHexChar_eq_some hb
    obtain ⟨bs, hd, hl, he⟩ := decodeHex_of_hex rest (by simp only [List.length_cons] at h; omega)
      fun c hc => hx c (by simp [hc])
    have hv : (16 * a + b).toUInt8.toNat = 16 * a + b :=
      UInt8.toNat_ofNat_of_lt (by show _ < 256; omega)
    refine ⟨(16 * a + b).toUInt8 :: bs, by simp [decodeHex, ha, hb, hd, Except.map],
      by simp; omega, ?_⟩
    simp only [hexDigits, List.flatMap_cons, List.map_cons] at he ⊢
    rw [he, hv, show (16 * a + b) / 16 = a by omega, show (16 * a + b) % 16 = b by omega, hpa, hqb]
    rfl

/-- The digit loop of `strconv.ParseUint` in base 16 over hexadecimal digits: it accepts every
digit and stays below `(n + 1) * 16 ^ length`, so it never overflows a `maxVal` that bound fits. -/
theorem parseUintLoop_hex (maxVal : Nat) : ∀ (cs : List Char) (n : Nat),
    (∀ c ∈ cs, (fromHexChar c).isSome) → (n + 1) * 16 ^ cs.length ≤ maxVal + 1 →
    ∃ v, parseUintLoop 16 maxVal cs n = .ok v ∧ v < (n + 1) * 16 ^ cs.length
  | [], n, _, _ => ⟨n, rfl, by simp⟩
  | c :: cs, n, hx, hb => by
    obtain ⟨d, hd⟩ := Option.isSome_iff_exists.1 (hx c (by simp))
    obtain ⟨hd16, hdv, -⟩ := fromHexChar_eq_some hd
    have hpow : 1 ≤ 16 ^ cs.length := Nat.one_le_pow _ _ (by decide)
    have hstep : (n * 16 + d + 1) * 16 ^ cs.length ≤ (n + 1) * 16 ^ (cs.length + 1) := by
      rw [Nat.pow_succ', ← Nat.mul_assoc]
      exact Nat.mul_le_mul_right _ (by omega)
    rw [List.length_cons] at hb ⊢
    have hmax : n * 16 + d ≤ maxVal := by
      have := Nat.le_mul_of_pos_right (n * 16 + d + 1) hpow
      omega
    obtain ⟨v, hv, hlt⟩ := parseUintLoop_hex maxVal cs (n * 16 + d)
      (fun c' hc' => hx c' (by simp [hc'])) (hstep.trans hb)
    exact ⟨v, by simp [parseUintLoop, hdv, hd16, hmax, hv], hlt.trans_le hstep⟩

/-- `hex.DecodeString` of an even number of hexadecimal digits: one byte per pair, and
`hex.EncodeToString` of them is the string in lower case. -/
theorem decodeString_of_hex {s : String} (he : s.length % 2 = 0)
    (hx : ∀ c ∈ s.data, (fromHexChar c).isSome) :
    ∃ bs, decodeString s = .ok bs ∧ 2 * bs.length = s.length ∧ encodeToString bs = s.toLower := by
  obtain ⟨bs, hd, hl, hs⟩ := decodeHex_of_hex _ he hx
  exact ⟨bs, hd, hl, by rw [String.toLower, String.map_eq, ← hs]; rfl⟩

/-- `strconv.ParseUint(s, 16, bitSize)` of a nonempty string of hexadecimal digits whose largest
value fits in `bitSize` bits: it succeeds, below `16 ^ length`. -/
theorem parseUint_of_hex {s : String} {bitSize : Nat} (hne : s.length ≠ 0)
    (hx : ∀ c ∈ s.data, (fromHexChar c).isSome) (hb : 16 ^ s.length ≤ 2 ^ bitSize) :
    ∃ v, parseUint s 16 bitSize = .ok v ∧ v < 16 ^ s.length := by
  have hemp : s.isEmpty = false :=
    Bool.eq_false_iff.2 fun h => hne (by rw [(String.isEmpty_iff s).1 h]; rfl)
  obtain ⟨v, hv, hlt⟩ := parseUintLoop_hex (2 ^ bitSize - 1) _ 0 hx
    (by change (0 + 1) * 16 ^ s.length ≤ _; have := Nat.one_le_two_pow (n := bitSize); omega)
  refine ⟨v, ?_, by simpa using hlt⟩
  simp only [parseUint, hemp, Bool.false_eq_true, if_false, String.toList, hv]

end SgxCachingService
