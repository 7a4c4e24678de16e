import PowerSync.Replication.Checkpoints

/-!
# MongoDB LSNs

A `MongoLSN` is the position of the MongoDB replication stream: a cluster time, which is a
`mongo.Timestamp`, and an optional change stream resume token.  Its `comparable` string
is what the batch writer stores and compares as an LSN: the timestamp's `high` and `low`
words in hex, each padded to eight characters, then `|` and the encoded resume token.

A `mongo.Timestamp` is a bson `Long`, which keeps each word as `bits | 0`, so `high` and
`low` are signed.  A word from `2^31` on is negative, and `toString(16)` writes it with a
minus sign.

## What is transcribed and what is ours

* `MongoLSN.comparable`, `MongoLSN.deserialize`, `parseResumeTokenTimestamp` and
  `MongoLSN.fromResumeToken` follow the code.
* `Timestamp`, `toString16`, `padStart`, `parseInt16`, `substring`, `jsSplit` and `hexBytes`
  are the bson and JavaScript functions the code calls, as far as it uses them.  Strings
  are lists of characters, so the model is exact for the ASCII text these functions see.
* The BSON and base64 encoding of a resume token is a parameter: `comparable` takes
  `encode` and `deserialize` takes `decode`, and every result holds for all of them.

For cluster times whose two words are below `2^31`, `comparable` reads back to the same
timestamp (`fromSerialized_comparable`) and orders LSNs as their cluster times
(`comparable_lt_comparable`).  From `2^31` on it does neither: every such LSN compares
below every LSN of an earlier time (`comparable_lt_of_high_neg`), and reading one back can
throw, since `parseInt` may read a negative seconds word, which bson refuses.

bson 6 builds `Timestamp.fromBits(low, high)` as `new Timestamp({ t: high, i: low })`, which
throws a `BSONError` for a negative or `NaN` word; `Timestamp.fromBits`, `deserialize` and
`fromSerialized` return `Except` for it.
-/

namespace PowerSync

/-! ## bson and JavaScript -/

/-- A `mongo.Timestamp`, a bson `Long`: its two 32-bit words. -/
structure Timestamp where
  lowBits : BitVec 32
  highBits : BitVec 32
deriving DecidableEq, Repr

/-- `timestamp.low`, signed. -/
def Timestamp.low (ts : Timestamp) : Int := ts.lowBits.toInt

/-- `timestamp.high`, signed. -/
def Timestamp.high (ts : Timestamp) : Int := ts.highBits.toInt

/-- The cluster time's seconds, as an unsigned word. -/
def Timestamp.t (ts : Timestamp) : Nat := ts.highBits.toNat

/-- The cluster time's increment, as an unsigned word. -/
def Timestamp.i (ts : Timestamp) : Nat := ts.lowBits.toNat

/-- `x | 0` on a JavaScript number, with `NaN` as `none`. -/
def toInt32 : Option Int → BitVec 32
  | none => 0
  | some n => BitVec.ofInt 32 n

/-- `x < 0 || Number.isNaN(x)`, with `NaN` as `none`. -/
def negativeOrNaN : Option Int → Bool
  | some n => decide (n < 0)
  | none => true

/-- The text of the `BSONError` that `new Timestamp({ t, i })` throws for a word it refuses. -/
def timestampError (what : String) : String :=
  "Timestamp constructed from \x7b t, i \x7d must provide " ++ what

/-- `Timestamp.fromBits(lowBits, highBits)`, which bson 6 makes `new Timestamp({ t: highBits,
i: lowBits })`.  That throws a `BSONError` for a word that is negative, `NaN` or above
`0xffffffff`, and otherwise keeps each word as `x | 0`. -/
def Timestamp.fromBits (lowBits highBits : Option Int) : Except String Timestamp :=
  if negativeOrNaN highBits then .error (timestampError "a positive t")
  else if negativeOrNaN lowBits then .error (timestampError "a positive i")
  else if 0xffffffff < highBits.getD 0 then
    .error (timestampError "t equal or less than uint32 max")
  else if 0xffffffff < lowBits.getD 0 then
    .error (timestampError "i equal or less than uint32 max")
  else .ok ⟨toInt32 lowBits, toInt32 highBits⟩

/-- Built from its own unsigned words, a timestamp is itself. -/
theorem Timestamp.fromBits_toNat (ts : Timestamp) :
    Timestamp.fromBits (some ts.lowBits.toNat) (some ts.highBits.toNat) = .ok ts := by
  have hl := ts.lowBits.isLt
  have hh := ts.highBits.isLt
  simp only [Timestamp.fromBits, negativeOrNaN, toInt32, Option.getD_some,
    BitVec.ofInt_natCast, BitVec.ofNat_toNat, BitVec.setWidth_eq]
  rw [if_neg (by simp), if_neg (by simp), if_neg (by omega), if_neg (by omega)]

/-- `n.toString(16)` for an integer `n`. -/
def toString16 (n : Int) : String :=
  if n < 0 then ⟨'-' :: Nat.toDigits 16 n.natAbs⟩ else ⟨Nat.toDigits 16 n.toNat⟩

/-- `s.padStart(len, c)` with a one-character filler. -/
def padStart (s : String) (len : Nat) (c : Char) : String :=
  ⟨List.replicate (len - s.length) c ++ s.data⟩

/-- `s.substring(i, j)` for `i ≤ j`. -/
def substring (s : String) (i j : Nat) : String := ⟨(s.data.take j).drop i⟩

/-- `s.split(sep)` for a one-character separator. -/
def jsSplit (sep : Char) : List Char → List (List Char)
  | [] => [[]]
  | c :: cs =>
    if c = sep then [] :: jsSplit sep cs
    else match jsSplit sep cs with
      | p :: ps => (c :: p) :: ps
      | [] => [[c]]

/-- The value of a hex digit, in either case. -/
def hexDigitValue (c : Char) : Option Nat :=
  if '0' ≤ c ∧ c ≤ '9' then some (c.toNat - '0'.toNat)
  else if 'a' ≤ c ∧ c ≤ 'f' then some (c.toNat - 'a'.toNat + 10)
  else if 'A' ≤ c ∧ c ≤ 'F' then some (c.toNat - 'A'.toNat + 10)
  else none

/-- The digits `parseInt` reads: the value of the longest run of hex digits after `acc`,
and the number of digits read after `n`. -/
def parseHexDigits (acc n : Nat) : List Char → Nat × Nat
  | [] => (acc, n)
  | c :: cs =>
    match hexDigitValue c with
    | some d => parseHexDigits (acc * 16 + d) (n + 1) cs
    | none => (acc, n)

/-- The sign `parseInt` reads: whether there is a `-`, and the text after the sign. -/
def parseSign : List Char → Bool × List Char
  | '-' :: r => (true, r)
  | '+' :: r => (false, r)
  | r => (false, r)

/-- The `0x` prefix `parseInt` skips in base 16. -/
def dropHexPrefix : List Char → List Char
  | '0' :: 'x' :: r => r
  | '0' :: 'X' :: r => r
  | r => r

/-- `parseInt(s, 16)`: leading white space, a sign and a `0x` prefix skipped, then the
longest run of hex digits; `NaN` (`none`) if there is none. -/
def parseInt16 (s : String) : Option Int :=
  let signed := parseSign (s.data.dropWhile Char.isWhitespace)
  match parseHexDigits 0 0 (dropHexPrefix signed.2) with
  | (_, 0) => none
  | (v, _) => some (if signed.1 then -(v : Int) else v)

/-- `Buffer.from(hex, 'hex')`: pairs of hex digits, up to the first pair that is not one. -/
def hexBytes : List Char → List Nat
  | c₁ :: c₂ :: cs =>
    match hexDigitValue c₁, hexDigitValue c₂ with
    | some h, some l => (h * 16 + l) :: hexBytes cs
    | _, _ => []
  | _ => []

/-! ## The LSN -/

/-- A change stream resume token `{ _data }`. -/
structure ResumeToken where
  _data : String
deriving DecidableEq, Repr

/-- A `MongoLSN`: its `MongoLSNSpecification`. -/
structure MongoLSN where
  timestamp : Timestamp
  resume_token : Option ResumeToken
deriving DecidableEq, Repr

/-- `const DELIMINATOR = '|'`. -/
def DELIMINATOR : Char := '|'

/-- `comparable`, with `encode` for `storage.serializeBson({ resumeToken }).toString('base64')`. -/
def MongoLSN.comparable (encode : ResumeToken → String) (x : MongoLSN) : String :=
  let a := padStart (toString16 x.timestamp.high) 8 '0'
  let b := padStart (toString16 x.timestamp.low) 8 '0'
  match x.resume_token with
  | some r => a ++ b ++ ⟨[DELIMINATOR]⟩ ++ encode r
  | none => a ++ b

/-- `deserialize(comparable)`, with `decode` for
`storage.deserializeBson(Buffer.from(s, 'base64')).resumeToken`. -/
def MongoLSN.deserialize (decode : String → ResumeToken) (comparable : String) :
    Except String MongoLSN :=
  let parts := jsSplit DELIMINATOR comparable.data
  let timestampString : String := ⟨parts.headD []⟩
  let a := parseInt16 (substring timestampString 0 8)
  let b := parseInt16 (substring timestampString 8 16)
  (Timestamp.fromBits b a).map fun timestamp ↦ ⟨timestamp,
    match parts with
    | _ :: r :: _ => if r = [] then none else some (decode ⟨r⟩)
    | _ => none⟩

/-- `MongoLSN.fromSerialized(comparable)`. -/
def MongoLSN.fromSerialized (decode : String → ResumeToken) (comparable : String) :
    Except String MongoLSN :=
  MongoLSN.deserialize decode comparable

/-- `parseResumeTokenTimestamp(resumeToken)`: the cluster time in bytes 1 to 8 of `_data`,
after the tag byte 130. -/
def parseResumeTokenTimestamp (resumeToken : ResumeToken) : Except String Timestamp :=
  let hex := resumeToken._data
  match hexBytes hex.data with
  | [] => .error "Offset is outside the bounds of the DataView"
  | b₀ :: rest =>
    if b₀ ≠ 130 then .error s!"Invalid resume token: {hex}"
    else
      match rest with
      | b₁ :: b₂ :: b₃ :: b₄ :: b₅ :: b₆ :: b₇ :: b₈ :: _ =>
        let t := ((b₁ * 256 + b₂) * 256 + b₃) * 256 + b₄
        let i := ((b₅ * 256 + b₆) * 256 + b₇) * 256 + b₈
        Timestamp.fromBits (some i) (some t)
      | _ => .error "Offset is outside the bounds of the DataView"

/-- `MongoLSN.fromResumeToken(resumeToken)`. -/
def MongoLSN.fromResumeToken (resumeToken : ResumeToken) : Except String MongoLSN :=
  (parseResumeTokenTimestamp resumeToken).map fun timestamp ↦ ⟨timestamp, some resumeToken⟩

/-! ## Hex digits -/

/-- Characters `Nat.toDigits 16` writes. -/
def HexDigits (l : List Char) : Prop := ∀ c ∈ l, ∃ d < 16, c = Nat.digitChar d

/-- The value of hex digits, most significant first. -/
def hexVal : List Char → Nat
  | [] => 0
  | c :: cs => (hexDigitValue c).getD 0 * 16 ^ cs.length + hexVal cs

section Digits

theorem toNat_digitChar {d : Nat} (h : d < 16) :
    (Nat.digitChar d).toNat = if d < 10 then 48 + d else 87 + d := by
  interval_cases d <;> rfl

theorem hexDigitValue_digitChar {d : Nat} (h : d < 16) :
    hexDigitValue (Nat.digitChar d) = some d := by
  interval_cases d <;> decide

/-- A hex digit is none of the characters below `'0'` or between `'9'` and `'a'`. -/
theorem digitChar_ne {d : Nat} (h : d < 16) {c : Char}
    (hc : c.toNat < 48 ∨ 57 < c.toNat ∧ c.toNat < 97 ∨ 102 < c.toNat) :
    Nat.digitChar d ≠ c :=
  fun he ↦ by
    have := toNat_digitChar h
    rw [he] at this
    split at this <;> omega

/-- Hex digits are ordered as their values. -/
theorem digitChar_lt_digitChar {a b : Nat} (ha : a < 16) (hb : b < 16) (h : a < b) :
    Nat.digitChar a < Nat.digitChar b := by
  show (Nat.digitChar a).toNat < (Nat.digitChar b).toNat
  rw [toNat_digitChar ha, toNat_digitChar hb]
  split <;> split <;> omega

theorem HexDigits.cons {c : Char} {l : List Char} (h : HexDigits (c :: l)) :
    (∃ d < 16, c = Nat.digitChar d) ∧ HexDigits l :=
  ⟨h c (List.mem_cons_self _ _), fun x hx ↦ h x (List.mem_cons_of_mem _ hx)⟩

theorem HexDigits.append {l₁ l₂ : List Char} (h₁ : HexDigits l₁) (h₂ : HexDigits l₂) :
    HexDigits (l₁ ++ l₂) := fun c hc ↦ (List.mem_append.1 hc).elim (h₁ c) (h₂ c)

theorem HexDigits.hexVal_lt {l : List Char} (h : HexDigits l) : hexVal l < 16 ^ l.length := by
  induction l with
  | nil => simp [hexVal]
  | cons c l ih =>
    obtain ⟨⟨d, hd, rfl⟩, hl⟩ := h.cons
    have hv := ih hl
    rw [hexVal, hexDigitValue_digitChar hd, Option.getD_some, List.length_cons, Nat.pow_succ]
    calc d * 16 ^ l.length + hexVal l < (d + 1) * 16 ^ l.length := by rw [Nat.succ_mul]; omega
      _ ≤ 16 ^ l.length * 16 := by rw [Nat.mul_comm]; exact Nat.mul_le_mul_left _ hd

/-- `toDigitsCore` with enough fuel writes the digits of `n` before `ds`. -/
theorem hex_toDigitsCore (f n : Nat) (ds : List Char) (hn : n < f) (hds : HexDigits ds) :
    HexDigits (Nat.toDigitsCore 16 f n ds) ∧
      hexVal (Nat.toDigitsCore 16 f n ds) = n * 16 ^ ds.length + hexVal ds := by
  induction f generalizing n ds with
  | zero => omega
  | succ f ih =>
    have hd : HexDigits (Nat.digitChar (n % 16) :: ds) := by
      intro c hc
      rcases List.mem_cons.1 hc with rfl | hc
      exacts [⟨n % 16, Nat.mod_lt _ (by norm_num), rfl⟩, hds c hc]
    have hval : hexVal (Nat.digitChar (n % 16) :: ds) = n % 16 * 16 ^ ds.length + hexVal ds := by
      rw [hexVal, hexDigitValue_digitChar (Nat.mod_lt _ (by norm_num)), Option.getD_some]
    simp only [Nat.toDigitsCore]
    split
    · refine ⟨hd, ?_⟩
      rw [hval, Nat.mod_eq_of_lt (by omega)]
    · obtain ⟨h1, h2⟩ := ih (n / 16) _ (by omega) hd
      refine ⟨h1, ?_⟩
      rw [h2, hval, List.length_cons, Nat.pow_succ]
      conv_rhs => rw [← Nat.div_add_mod n 16]
      ring

theorem hex_toDigits (n : Nat) :
    HexDigits (Nat.toDigits 16 n) ∧ hexVal (Nat.toDigits 16 n) = n := by
  simpa [hexVal] using hex_toDigitsCore (n + 1) n [] (by omega) (by simp [HexDigits])

/-- Leading zeros do not change the value. -/
theorem hexVal_replicate_zero (k : Nat) (l : List Char) :
    hexVal (List.replicate k '0' ++ l) = hexVal l := by
  induction k with
  | zero => rfl
  | succ k ih =>
    rw [List.replicate_succ, List.cons_append, hexVal, ih]
    simp [hexDigitValue]

/-- `n`, for `n < 16^8`, padded to eight hex digits. -/
theorem padStart_toDigits {n : Nat} (h : n < 16 ^ 8) :
    (padStart ⟨Nat.toDigits 16 n⟩ 8 '0').data.length = 8 ∧
      HexDigits (padStart ⟨Nat.toDigits 16 n⟩ 8 '0').data ∧
      hexVal (padStart ⟨Nat.toDigits 16 n⟩ 8 '0').data = n := by
  have hlen : (Nat.toDigits 16 n).length ≤ 8 :=
    Nat.toDigitsCore_length 16 (by norm_num) (n + 1) n 8 h (by norm_num)
  obtain ⟨hd, hv⟩ := hex_toDigits n
  refine ⟨?_, HexDigits.append
    (fun c hc ↦ ⟨0, by norm_num, List.eq_of_mem_replicate hc⟩) hd, ?_⟩
  · simp only [padStart, String.length, List.length_append, List.length_replicate]
    omega
  · rw [padStart, hexVal_replicate_zero, hv]

end Digits

/-! ## Reading a word back -/

theorem parseHexDigits_hex {l : List Char} (hl : HexDigits l) (acc k : Nat) :
    parseHexDigits acc k l = (acc * 16 ^ l.length + hexVal l, k + l.length) := by
  induction l generalizing acc k with
  | nil => simp [parseHexDigits, hexVal]
  | cons c l ih =>
    obtain ⟨⟨d, hd, rfl⟩, htl⟩ := hl.cons
    simp only [parseHexDigits, hexDigitValue_digitChar hd]
    rw [ih htl, hexVal, hexDigitValue_digitChar hd, Option.getD_some, List.length_cons,
      Nat.pow_succ, Prod.mk.injEq]
    constructor
    · ring
    · omega

theorem parseSign_digitChar {d : Nat} (hd : d < 16) (cs : List Char) :
    parseSign (Nat.digitChar d :: cs) = (false, Nat.digitChar d :: cs) := by
  have h₁ : Nat.digitChar d ≠ '-' := digitChar_ne hd (by decide)
  have h₂ : Nat.digitChar d ≠ '+' := digitChar_ne hd (by decide)
  unfold parseSign
  split <;> simp_all

theorem dropHexPrefix_hex {l : List Char} (hl : HexDigits l) : dropHexPrefix l = l := by
  unfold dropHexPrefix
  split <;> try rfl
  -- `0x` and `0X`: an `x` is not a hex digit
  all_goals
    obtain ⟨d, hd, hx⟩ := (hl.cons.2.cons).1
    exact absurd hx.symm (digitChar_ne hd (by decide))

/-- `parseInt` reads hex digits back. -/
theorem parseInt16_hex {l : List Char} (hl : HexDigits l) (hne : l ≠ []) :
    parseInt16 ⟨l⟩ = some (hexVal l : Int) := by
  obtain _ | ⟨c, cs⟩ := l
  · exact absurd rfl hne
  obtain ⟨d, hd, rfl⟩ := hl.cons.1
  have hws : (Nat.digitChar d).isWhitespace = false := by
    interval_cases d <;> decide
  simp only [parseInt16, List.dropWhile_cons, hws, Bool.false_eq_true, if_false,
    parseSign_digitChar hd, dropHexPrefix_hex hl, parseHexDigits_hex hl, List.length_cons]
  simp

/-! ## The comparable string -/

theorem jsSplit_ne_nil (sep : Char) (l : List Char) : jsSplit sep l ≠ [] := by
  cases l with
  | nil => simp [jsSplit]
  | cons c l =>
    unfold jsSplit
    split
    · simp
    · split <;> simp

/-- Up to the first separator, `split` keeps the text. -/
theorem headD_jsSplit_append {sep : Char} {p : List Char} (hp : sep ∉ p) (q : List Char) :
    (jsSplit sep (p ++ q)).headD [] = p ++ (jsSplit sep q).headD [] := by
  induction p with
  | nil => rfl
  | cons c p ih =>
    have hc : c ≠ sep := fun h ↦ hp (h ▸ List.mem_cons_self _ _)
    have hrest := ih fun h ↦ hp (List.mem_cons_of_mem _ h)
    obtain ⟨x, xs, hx⟩ := List.exists_cons_of_ne_nil (jsSplit_ne_nil sep (p ++ q))
    rw [hx, List.headD_cons] at hrest
    rw [List.cons_append, jsSplit, if_neg hc, hx, hrest]
    rfl

/-- A word below `2^31` is read as a non-negative number. -/
theorem toInt_of_lt {x : BitVec 32} (h : x.toNat < 2 ^ 31) : x.toInt = x.toNat := by
  rw [BitVec.toInt_eq_toNat_cond, if_pos (by omega)]

/-- A word below `2^31` is written as eight hex digits. -/
theorem padStart_toString16 {x : BitVec 32} (h : x.toNat < 2 ^ 31) :
    (padStart (toString16 x.toInt) 8 '0').data.length = 8 ∧
      HexDigits (padStart (toString16 x.toInt) 8 '0').data ∧
      hexVal (padStart (toString16 x.toInt) 8 '0').data = x.toNat := by
  have hs : toString16 x.toInt = ⟨Nat.toDigits 16 x.toNat⟩ := by
    rw [toString16, if_neg (by rw [toInt_of_lt h]; omega), toInt_of_lt h, Int.toNat_ofNat]
  rw [hs]
  exact padStart_toDigits (by omega)

/-- `comparable` is the two words, then nothing or a `|` and the encoded resume token. -/
theorem comparable_data (encode : ResumeToken → String) (x : MongoLSN) :
    ∃ sfx, (x.comparable encode).data =
      (padStart (toString16 x.timestamp.highBits.toInt) 8 '0').data ++
        (padStart (toString16 x.timestamp.lowBits.toInt) 8 '0').data ++ sfx ∧
      (jsSplit DELIMINATOR sfx).headD [] = [] := by
  unfold MongoLSN.comparable
  split
  · rename_i r _
    exact ⟨DELIMINATOR :: (encode r).data, by simp [Timestamp.high, Timestamp.low],
      by simp [jsSplit]⟩
  · exact ⟨[], by simp [Timestamp.high, Timestamp.low], rfl⟩

/-- For cluster times whose words are below `2^31`, `comparable` reads back to the same
timestamp, whatever the resume token and its encoding. -/
theorem fromSerialized_comparable (encode : ResumeToken → String)
    (decode : String → ResumeToken) (x : MongoLSN) (ht : x.timestamp.t < 2 ^ 31)
    (hi : x.timestamp.i < 2 ^ 31) :
    (MongoLSN.fromSerialized decode (x.comparable encode)).map (·.timestamp) = .ok x.timestamp := by
  obtain ⟨hA8, hAd, hAv⟩ := padStart_toString16 ht
  obtain ⟨hB8, hBd, hBv⟩ := padStart_toString16 hi
  obtain ⟨sfx, hdata, hsfx⟩ := comparable_data encode x
  have hsep : DELIMINATOR ∉ (padStart (toString16 x.timestamp.highBits.toInt) 8 '0').data ++
      (padStart (toString16 x.timestamp.lowBits.toInt) 8 '0').data := fun h ↦ by
    obtain ⟨d, hd, he⟩ := hAd.append hBd _ h
    exact digitChar_ne hd (by decide) he.symm
  have hne : ∀ l : List Char, l.length = 8 → l ≠ [] := fun l hl h ↦ by simp [h] at hl
  have hsplit : (jsSplit DELIMINATOR (x.comparable encode).data).headD [] =
      (padStart (toString16 x.timestamp.highBits.toInt) 8 '0').data ++
        (padStart (toString16 x.timestamp.lowBits.toInt) 8 '0').data := by
    rw [hdata, headD_jsSplit_append hsep, hsfx, List.append_nil]
  have h16 : ((padStart (toString16 x.timestamp.highBits.toInt) 8 '0').data ++
      (padStart (toString16 x.timestamp.lowBits.toInt) 8 '0').data).length ≤ 16 := by
    simp [hA8, hB8]
  simp only [MongoLSN.fromSerialized, MongoLSN.deserialize, hsplit, substring,
    List.take_left' hA8, List.drop_zero, List.take_of_length_le h16, List.drop_left' hA8,
    parseInt16_hex hAd (hne _ hA8), parseInt16_hex hBd (hne _ hB8), hAv, hBv,
    Timestamp.fromBits_toNat]
  rfl

/-- Lexicographic `<` between lists of one length survives appending anything. -/
theorem lt_append_of_lt {l₁ l₂ : List Char} (hlen : l₁.length = l₂.length) (h : l₁ < l₂)
    (s₁ s₂ : List Char) : l₁ ++ s₁ < l₂ ++ s₂ := by
  induction h with
  | nil => simp at hlen
  | cons _ ih => exact .cons (ih (by simpa using hlen))
  | rel hab => exact .rel hab

/-- A common prefix keeps `<`. -/
theorem append_lt_append_left (p : List Char) {l₁ l₂ : List Char} (h : l₁ < l₂) :
    p ++ l₁ < p ++ l₂ := by
  induction p with
  | nil => exact h
  | cons c p ih => exact .cons ih

/-- Hex digits of one length are ordered as their values. -/
theorem lt_of_hexVal_lt {l₁ l₂ : List Char} (h₁ : HexDigits l₁) (h₂ : HexDigits l₂)
    (hlen : l₁.length = l₂.length) (h : hexVal l₁ < hexVal l₂) : l₁ < l₂ := by
  induction l₁ generalizing l₂ with
  | nil =>
    obtain _ | ⟨c, l₂⟩ := l₂
    · simp [hexVal] at h
    · simp at hlen
  | cons c l₁ ih =>
    obtain _ | ⟨c', l₂⟩ := l₂
    · simp at hlen
    obtain ⟨⟨a, ha, rfl⟩, t₁⟩ := h₁.cons
    obtain ⟨⟨b, hb, rfl⟩, t₂⟩ := h₂.cons
    simp only [List.length_cons, Nat.add_right_cancel_iff] at hlen
    rw [hexVal, hexVal, hexDigitValue_digitChar ha, hexDigitValue_digitChar hb,
      Option.getD_some, Option.getD_some, hlen] at h
    have v₁ := t₁.hexVal_lt
    rw [hlen] at v₁
    rcases lt_trichotomy a b with hab | rfl | hab
    · exact .rel (digitChar_lt_digitChar ha hb hab)
    · exact .cons (ih t₁ t₂ hlen (by omega))
    · have : (b + 1) * 16 ^ l₂.length ≤ a * 16 ^ l₂.length := Nat.mul_le_mul_right _ hab
      rw [Nat.succ_mul] at this
      have v₂ := t₂.hexVal_lt
      omega

/-- For cluster times whose words are below `2^31`, `comparable` orders LSNs as their
cluster times, whatever the resume tokens. -/
theorem comparable_lt_comparable (encode : ResumeToken → String) {x y : MongoLSN}
    (hx : x.timestamp.t < 2 ^ 31 ∧ x.timestamp.i < 2 ^ 31)
    (hy : y.timestamp.t < 2 ^ 31 ∧ y.timestamp.i < 2 ^ 31)
    (h : x.timestamp.t < y.timestamp.t ∨
      x.timestamp.t = y.timestamp.t ∧ x.timestamp.i < y.timestamp.i) :
    lsnLt (x.comparable encode) (y.comparable encode) := by
  obtain ⟨sx, hdx, -⟩ := comparable_data encode x
  obtain ⟨sy, hdy, -⟩ := comparable_data encode y
  obtain ⟨xa8, xad, xav⟩ := padStart_toString16 hx.1
  obtain ⟨xb8, xbd, xbv⟩ := padStart_toString16 hx.2
  obtain ⟨ya8, yad, yav⟩ := padStart_toString16 hy.1
  obtain ⟨yb8, ybd, ybv⟩ := padStart_toString16 hy.2
  unfold lsnLt
  rw [hdx, hdy, List.append_assoc, List.append_assoc]
  rcases h with h | ⟨heq, h⟩
  · exact lt_append_of_lt (by rw [xa8, ya8])
      (lt_of_hexVal_lt xad yad (by rw [xa8, ya8]) (by rw [xav, yav]; exact h)) _ _
  · rw [BitVec.eq_of_toNat_eq heq]
    exact append_lt_append_left _ (lt_append_of_lt (by rw [xb8, yb8])
      (lt_of_hexVal_lt xbd ybd (by rw [xb8, yb8]) (by rw [xbv, ybv]; exact h)) _ _)

/-- Padding zeros, then a minus sign, sort before hex digits. -/
theorem zeros_minus_lt (p : Nat) (r : List Char) {l : List Char} (hl : HexDigits l)
    (hp : p < l.length) (s : List Char) : List.replicate p '0' ++ '-' :: r < l ++ s := by
  induction p generalizing l with
  | zero =>
    obtain _ | ⟨c, l⟩ := l
    · simp at hp
    obtain ⟨d, hd, rfl⟩ := hl.cons.1
    refine .rel (show ('-').toNat < (Nat.digitChar d).toNat from ?_)
    rw [toNat_digitChar hd, show ('-').toNat = 45 from rfl]
    split <;> omega
  | succ p ih =>
    obtain _ | ⟨c, l⟩ := l
    · simp at hp
    obtain ⟨⟨d, hd, rfl⟩, hl'⟩ := hl.cons
    rw [List.replicate_succ, List.cons_append, List.cons_append]
    rcases Nat.eq_zero_or_pos d with rfl | hpos
    · exact .cons (ih hl' (by simp at hp; omega))
    · have h0 : Nat.digitChar 0 = '0' := rfl
      exact .rel (h0 ▸ digitChar_lt_digitChar (by norm_num) hd hpos)

/-- From `2^31` on, the seconds word is negative, and `comparable` sorts the LSN before the
LSN of every earlier cluster time. -/
theorem comparable_lt_of_high_neg (encode : ResumeToken → String) {x y : MongoLSN}
    (hx : 2 ^ 31 ≤ x.timestamp.t) (hy : y.timestamp.t < 2 ^ 31) :
    lsnLt (x.comparable encode) (y.comparable encode) := by
  obtain ⟨sx, hdx, -⟩ := comparable_data encode x
  obtain ⟨sy, hdy, -⟩ := comparable_data encode y
  obtain ⟨ya8, yad, -⟩ := padStart_toString16 hy
  have hlt : x.timestamp.highBits.toNat < 2 ^ 32 := x.timestamp.highBits.isLt
  have hneg : x.timestamp.highBits.toInt = x.timestamp.highBits.toNat - 2 ^ 32 := by
    rw [BitVec.toInt_eq_toNat_cond, if_neg (by unfold Timestamp.t at hx; omega)]
    rfl
  have hD : (Nat.toDigits 16 x.timestamp.highBits.toInt.natAbs).length ≤ 8 :=
    Nat.toDigitsCore_length 16 (by norm_num) _ _ 8 (by unfold Timestamp.t at hx; omega)
      (by norm_num)
  have hA : (padStart (toString16 x.timestamp.highBits.toInt) 8 '0').data =
      List.replicate (8 - (1 + (Nat.toDigits 16 x.timestamp.highBits.toInt.natAbs).length)) '0' ++
        '-' :: Nat.toDigits 16 x.timestamp.highBits.toInt.natAbs := by
    rw [toString16, if_pos (by unfold Timestamp.t at hx; omega)]
    simp [padStart, Nat.add_comm]
  unfold lsnLt
  rw [hdx, hdy, hA, List.append_assoc, List.append_assoc, List.append_assoc, List.cons_append]
  exact zeros_minus_lt _ _ yad (by omega) _

/-! ## From 2038 on -/

/-- Cluster time `(2^31, 0)`, on 19 January 2038. -/
def lsn2038 : MongoLSN := ⟨⟨0, 0x80000000⟩, none⟩

/-- Cluster time `(1, 0)`. -/
def lsnEarly : MongoLSN := ⟨⟨0, 1⟩, none⟩

/-- A resume token of cluster time `(2^31, 0)`. -/
def token2038 : ResumeToken := ⟨"82800000000000000000"⟩

theorem lsn_2038_breaks_comparable (encode : ResumeToken → String)
    (decode : String → ResumeToken) :
    MongoLSN.fromSerialized decode (lsn2038.comparable encode) =
      .error (timestampError "a positive t") ∧
    lsnEarly.timestamp.t < lsn2038.timestamp.t ∧
    lsnLt (lsn2038.comparable encode) (lsnEarly.comparable encode) ∧
    (MongoLSN.fromResumeToken token2038).map (·.timestamp) = .ok lsn2038.timestamp := by
  have hc : ∀ x : MongoLSN, x.resume_token = none →
      x.comparable encode = x.comparable fun _ ↦ "" := fun x hx ↦ by
    simp only [MongoLSN.comparable, hx]
  rw [hc lsn2038 rfl, hc lsnEarly rfl]
  exact ⟨rfl, by decide, by decide, rfl⟩

end PowerSync
