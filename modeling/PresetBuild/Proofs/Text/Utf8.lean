import PresetBuild.Text.Utf8

/-!
# UTF-8 read back

`decode` reads a text from the bytes that `encode` writes it in, and from no others
(`decode_eq_ok_iff`). Bytes that the reader takes are therefore one text's, and they are that text's
only bytes: no character has a second, longer form, and no surrogate has any.

The reader stands between characters or inside one. What may follow it there is said in the bytes of
the character that has begun (`Pending.Ends`), and one byte takes the reader from what may follow it
to what may follow it then.
-/

namespace PresetBuild.Text

/-- A code point is that of its character, if it has one. -/
theorem toNat_ofNat {n : Nat} (h : n.isValidChar) : (Char.ofNat n).toNat = n := by
  unfold Char.ofNat
  rw [dif_pos h]
  rfl

namespace Utf8

/-! ## The bytes of one character -/

/-- **The bytes of a character**, as numbers, by its code point. -/
def byteNumbers (n : Nat) : List Nat :=
  if n < 0x80 then [n]
  else if n < 0x800 then [0xC0 + n / 64, 0x80 + n % 64]
  else if n < 0x10000 then [0xE0 + n / 4096, 0x80 + n / 64 % 64, 0x80 + n % 64]
  else [0xF0 + n / 262144, 0x80 + n / 4096 % 64, 0x80 + n / 64 % 64, 0x80 + n % 64]

theorem toNat_valid (c : Char) : c.toNat < 0xD800 ∨ 0xDFFF < c.toNat ∧ c.toNat < 0x110000 :=
  c.valid

theorem map_toNat_utf8EncodeChar (c : Char) :
    (String.utf8EncodeChar c).map UInt8.toNat = byteNumbers c.toNat := by
  have hvalid := toNat_valid c
  have hval : c.val.toNat = c.toNat := rfl
  unfold String.utf8EncodeChar byteNumbers
  simp only [hval]
  by_cases h₁ : c.toNat < 0x80
  · rw [if_pos (by omega), if_pos h₁]
    simp only [List.map_cons, List.map_nil, UInt8.toNat_ofNat', List.cons.injEq, and_true]
    omega
  rw [if_neg (by omega), if_neg h₁]
  by_cases h₂ : c.toNat < 0x800
  · rw [if_pos (by omega), if_pos h₂]
    simp only [List.map_cons, List.map_nil, UInt8.toNat_ofNat', List.cons.injEq, and_true]
    omega
  rw [if_neg (by omega), if_neg h₂]
  by_cases h₃ : c.toNat < 0x10000
  · rw [if_pos (by omega), if_pos h₃]
    simp only [List.map_cons, List.map_nil, UInt8.toNat_ofNat', List.cons.injEq, and_true]
    omega
  rw [if_neg (by omega), if_neg h₃]
  simp only [List.map_cons, List.map_nil, UInt8.toNat_ofNat', List.cons.injEq, and_true]
  omega

theorem map_toNat_inj {xs ys : List UInt8} (h : xs.map UInt8.toNat = ys.map UInt8.toNat) :
    xs = ys :=
  (List.map_inj_right fun _ _ => UInt8.toNat_inj.mp).mp h

theorem byteNumbers_two {k x : Nat} (hk : 2 ≤ k ∧ k < 32) (hx : 0x80 ≤ x ∧ x ≤ 0xBF) :
    byteNumbers (k * 64 + (x - 0x80)) = [0xC0 + k, x] := by
  unfold byteNumbers
  rw [if_neg (by omega), if_pos (by omega)]
  simp only [List.cons.injEq, and_true]
  omega

theorem byteNumbers_three {k x y : Nat} (hk : k < 16) (hx : 0x80 ≤ x ∧ x ≤ 0xBF)
    (hy : 0x80 ≤ y ∧ y ≤ 0xBF) (hlong : 0x800 ≤ k * 4096 + (x - 0x80) * 64) :
    byteNumbers ((k * 64 + (x - 0x80)) * 64 + (y - 0x80)) = [0xE0 + k, x, y] := by
  unfold byteNumbers
  rw [if_neg (by omega), if_neg (by omega), if_pos (by omega)]
  simp only [List.cons.injEq, and_true]
  omega

theorem byteNumbers_four {k x y z : Nat} (hx : 0x80 ≤ x ∧ x ≤ 0xBF)
    (hy : 0x80 ≤ y ∧ y ≤ 0xBF) (hz : 0x80 ≤ z ∧ z ≤ 0xBF)
    (hlong : 0x10000 ≤ k * 262144 + (x - 0x80) * 4096) :
    byteNumbers (((k * 64 + (x - 0x80)) * 64 + (y - 0x80)) * 64 + (z - 0x80)) =
      [0xF0 + k, x, y, z] := by
  unfold byteNumbers
  rw [if_neg (by omega), if_neg (by omega), if_neg (by omega)]
  simp only [List.cons.injEq, and_true]
  omega

/-- An ASCII character is one byte of its own; any other has a first byte and more, none of which is
ASCII. -/
theorem byteNumbers_cases (n : Nat) : n < 0x80 ∧ byteNumbers n = [n] ∨
    ∃ b bs, byteNumbers n = b :: bs ∧ 0xC0 ≤ b ∧ ∀ x ∈ bs, 0x80 ≤ x := by
  unfold byteNumbers
  by_cases h₁ : n < 0x80
  · exact .inl ⟨h₁, if_pos h₁⟩
  refine .inr ?_
  rw [if_neg h₁]
  split
  · refine ⟨_, _, rfl, by omega, ?_⟩
    simp
  split
  · refine ⟨_, _, rfl, by omega, ?_⟩
    simp
  · refine ⟨_, _, rfl, by omega, ?_⟩
    simp

/-! ## Inside a character -/

/-- **How a character that has begun ends**: the bytes of it that are still to come, and the code
point they make it. -/
inductive Pending.Ends : Pending → List Nat → Nat → Prop
  | last {p : Pending} {b : Nat} (bounds : p.low ≤ b ∧ b ≤ p.high) (owed : p.owed ≤ 1) :
      Ends p [b] (p.gather b)
  | more {p : Pending} {b n : Nat} {bs : List Nat} (bounds : p.low ≤ b ∧ b ≤ p.high)
      (owed : ¬p.owed ≤ 1) (next : Ends (p.advance b) bs n) : Ends p (b :: bs) n

variable {taken low high bits n b : Nat} {bs : List Nat}

theorem Pending.ends_one_iff :
    Ends ⟨taken, 1, low, high, bits⟩ bs n ↔
      ∃ x, bs = [x] ∧ (low ≤ x ∧ x ≤ high) ∧ n = bits * 64 + (x - 0x80) := by
  constructor
  · intro h
    cases h with
    | last bounds => exact ⟨_, rfl, bounds, rfl⟩
    | more _ owed => exact absurd (Nat.le_refl 1) owed
  · intro h
    obtain ⟨x, rfl, bounds, hn⟩ := h
    rw [hn]
    show Ends ⟨taken, 1, low, high, bits⟩ [x] (gather ⟨taken, 1, low, high, bits⟩ x)
    exact .last bounds (Nat.le_refl 1)

theorem Pending.ends_more_iff {owed : Nat} :
    Ends ⟨taken, owed + 2, low, high, bits⟩ bs n ↔
      ∃ x xs, bs = x :: xs ∧ (low ≤ x ∧ x ≤ high) ∧
        Ends ⟨taken + 1, owed + 1, 0x80, 0xBF, bits * 64 + (x - 0x80)⟩ xs n := by
  have hmany : ¬owed + 2 ≤ 1 := by omega
  constructor
  · intro h
    cases h with
    | last _ few => exact absurd few hmany
    | more bounds _ next => exact ⟨_, _, rfl, bounds, next⟩
  · intro h
    obtain ⟨x, xs, rfl, bounds, next⟩ := h
    exact .more bounds hmany next

theorem Pending.ends_two_iff :
    Ends ⟨taken, 2, low, high, bits⟩ bs n ↔
      ∃ x y, bs = [x, y] ∧ (low ≤ x ∧ x ≤ high) ∧ (0x80 ≤ y ∧ y ≤ 0xBF) ∧
        n = (bits * 64 + (x - 0x80)) * 64 + (y - 0x80) := by
  rw [ends_more_iff]
  simp only [Nat.zero_add, ends_one_iff]
  constructor
  · intro h
    obtain ⟨x, _, rfl, hx, y, rfl, hy, hn⟩ := h
    exact ⟨x, y, rfl, hx, hy, hn⟩
  · intro h
    obtain ⟨x, y, rfl, hx, hy, hn⟩ := h
    exact ⟨x, _, rfl, hx, y, rfl, hy, hn⟩

theorem Pending.ends_three_iff :
    Ends ⟨taken, 3, low, high, bits⟩ bs n ↔
      ∃ x y z, bs = [x, y, z] ∧ (low ≤ x ∧ x ≤ high) ∧ (0x80 ≤ y ∧ y ≤ 0xBF) ∧
        (0x80 ≤ z ∧ z ≤ 0xBF) ∧
        n = ((bits * 64 + (x - 0x80)) * 64 + (y - 0x80)) * 64 + (z - 0x80) := by
  rw [ends_more_iff]
  simp only [Nat.reduceAdd, ends_two_iff]
  constructor
  · intro h
    obtain ⟨x, _, rfl, hx, y, z, rfl, hy, hz, hn⟩ := h
    exact ⟨x, y, z, rfl, hx, hy, hz, hn⟩
  · intro h
    obtain ⟨x, y, z, rfl, hx, hy, hz, hn⟩ := h
    exact ⟨x, _, rfl, hx, y, z, rfl, hy, hz, hn⟩

/-! ## The first byte -/

theorem lead_two {k : Nat} (hk : 2 ≤ k ∧ k < 32) :
    lead (0xC0 + k) = some ⟨1, 1, 0x80, 0xBF, k⟩ := by
  unfold lead
  rw [if_neg (by omega), if_pos (by omega), Nat.add_sub_cancel_left]

theorem lead_three {k : Nat} (hk : k < 16) :
    lead (0xE0 + k) =
      some ⟨1, 2, if k = 0 then 0xA0 else 0x80, if k = 0xD then 0x9F else 0xBF, k⟩ := by
  unfold lead
  rw [if_neg (by omega), if_neg (by omega)]
  by_cases h₀ : k = 0
  · rw [h₀]
    rfl
  by_cases hd : k = 0xD
  · rw [hd]
    rfl
  rw [if_neg (by omega), if_neg (by omega), if_pos (by omega), Nat.add_sub_cancel_left, if_neg h₀,
    if_neg hd]

theorem lead_four {k : Nat} (hk : k < 5) :
    lead (0xF0 + k) =
      some ⟨1, 3, if k = 0 then 0x90 else 0x80, if k = 4 then 0x8F else 0xBF, k⟩ := by
  unfold lead
  rw [if_neg (by omega), if_neg (by omega), if_neg (by omega), if_neg (by omega),
    if_neg (by omega)]
  by_cases h₀ : k = 0
  · rw [h₀]
    rfl
  by_cases h₄ : k = 4
  · rw [h₄]
    rfl
  rw [if_neg (by omega), if_pos (by omega), Nat.add_sub_cancel_left, if_neg h₀, if_neg h₄]

/-- A first byte announces one, two or three more. -/
theorem lead_cases {p : Pending} (h : lead b = some p) :
    (∃ k, (2 ≤ k ∧ k < 32) ∧ b = 0xC0 + k) ∨ (∃ k, k < 16 ∧ b = 0xE0 + k) ∨
      ∃ k, k < 5 ∧ b = 0xF0 + k := by
  by_cases hlow : b < 0xC2
  · rw [lead, if_pos hlow] at h
    cases h
  by_cases htwo : b < 0xE0
  · exact .inl ⟨b - 0xC0, by omega, by omega⟩
  by_cases hthree : b < 0xF0
  · exact .inr (.inl ⟨b - 0xE0, by omega, by omega⟩)
  by_cases hfour : b < 0xF5
  · exact .inr (.inr ⟨b - 0xF0, by omega, by omega⟩)
  rw [lead, if_neg hlow, if_neg htwo, if_neg (by omega), if_neg (by omega), if_neg hthree,
    if_neg (by omega), if_neg (by omega), if_neg (by omega)] at h
  cases h

/-- What ends a character behind a first byte makes it a character, whose bytes these are. -/
theorem byteNumbers_of_lead {p : Pending} (hlead : lead b = some p) (hends : p.Ends bs n) :
    n.isValidChar ∧ byteNumbers n = b :: bs := by
  unfold Nat.isValidChar
  rcases lead_cases hlead with ⟨k, hk, rfl⟩ | ⟨k, hk, rfl⟩ | ⟨k, hk, rfl⟩
  · rw [lead_two hk] at hlead
    cases hlead
    obtain ⟨x, rfl, hx, hn⟩ := Pending.ends_one_iff.mp hends
    refine ⟨by omega, ?_⟩
    rw [hn, byteNumbers_two hk hx]
  · rw [lead_three hk] at hlead
    cases hlead
    obtain ⟨x, y, rfl, hx, hy, hn⟩ := Pending.ends_two_iff.mp hends
    have hwide : 0x80 ≤ x ∧ x ≤ 0xBF ∧ (k = 0 → 0xA0 ≤ x) ∧ (k = 0xD → x ≤ 0x9F) := by
      split at hx <;> split at hx <;> omega
    refine ⟨by omega, ?_⟩
    rw [hn, byteNumbers_three hk (by omega) hy (by omega)]
  · rw [lead_four hk] at hlead
    cases hlead
    obtain ⟨x, y, z, rfl, hx, hy, hz, hn⟩ := Pending.ends_three_iff.mp hends
    have hwide : 0x80 ≤ x ∧ x ≤ 0xBF ∧ (k = 0 → 0x90 ≤ x) ∧ (k = 4 → x ≤ 0x8F) := by
      split at hx <;> split at hx <;> omega
    refine ⟨by omega, ?_⟩
    rw [hn, byteNumbers_four (by omega) hy hz (by omega)]

/-- The bytes of a character beyond ASCII are a first byte and what ends the character behind it. -/
theorem exists_lead (hn : n.isValidChar) (hbeyond : 0x80 ≤ n) (h : byteNumbers n = b :: bs) :
    ∃ p, lead b = some p ∧ p.Ends bs n := by
  unfold Nat.isValidChar at hn
  unfold byteNumbers at h
  rw [if_neg (by omega)] at h
  by_cases htwo : n < 0x800
  · rw [if_pos htwo] at h
    cases h
    refine ⟨_, lead_two (by omega), Pending.ends_one_iff.mpr ⟨_, rfl, ?_, ?_⟩⟩ <;> omega
  rw [if_neg htwo] at h
  by_cases hthree : n < 0x10000
  · rw [if_pos hthree] at h
    cases h
    refine ⟨_, lead_three (by omega), Pending.ends_two_iff.mpr ⟨_, _, rfl, ?_, ?_, ?_⟩⟩
    · split <;> split <;> omega
    · omega
    · omega
  rw [if_neg hthree] at h
  cases h
  refine ⟨_, lead_four (by omega), Pending.ends_three_iff.mpr ⟨_, _, _, rfl, ?_, ?_, ?_, ?_⟩⟩
  · split <;> split <;> omega
  · omega
  · omega
  · omega

/-! ## Texts -/

theorem map_eq_ok_iff {ε α β : Type} {f : α → β} {r : Except ε α} {y : β} :
    r.map f = .ok y ↔ ∃ x, r = .ok x ∧ f x = y := by
  cases r with
  | error e => exact ⟨nofun, nofun⟩
  | ok x =>
    constructor
    · intro h
      exact ⟨x, rfl, Except.ok.inj h⟩
    · intro h
      obtain ⟨_, h, rfl⟩ := h
      cases h
      rfl

/-- **What may follow** where a text is still to be read, between characters or inside one. -/
def Follows : Option Pending → List UInt8 → List Char → Prop
  | none, bytes, text => bytes = encode text
  | some p, bytes, text =>
    ∃ n more rest, p.Ends (more.map UInt8.toNat) n ∧ bytes = more ++ encode rest ∧
      text = Char.ofNat n :: rest

variable {byte : UInt8} {bytes : List UInt8} {text : List Char}

theorem encode_cons (c : Char) (rest : List Char) :
    encode (c :: rest) = String.utf8EncodeChar c ++ encode rest :=
  List.flatMap_cons

theorem byteNumbers_ne_nil (n : Nat) : byteNumbers n ≠ [] := by
  unfold byteNumbers
  split
  · exact List.cons_ne_nil _ _
  split
  · exact List.cons_ne_nil _ _
  split <;> exact List.cons_ne_nil _ _

theorem cons_eq_encode_iff :
    byte :: bytes = encode text ↔
      ∃ c more rest, byteNumbers c.toNat = byte.toNat :: more.map UInt8.toNat ∧
        bytes = more ++ encode rest ∧ text = c :: rest := by
  constructor
  · intro h
    cases text with
    | nil => cases h
    | cons c rest =>
      rw [encode_cons] at h
      cases hc : String.utf8EncodeChar c with
      | nil =>
        exact absurd (map_toNat_utf8EncodeChar c ▸ congrArg (List.map UInt8.toNat) hc)
          (byteNumbers_ne_nil c.toNat)
      | cons first more =>
        rw [hc, List.cons_append] at h
        obtain ⟨rfl, rfl⟩ := List.cons.inj h
        refine ⟨c, more, rest, ?_, rfl, rfl⟩
        rw [← map_toNat_utf8EncodeChar, hc, List.map_cons]
  · intro h
    obtain ⟨c, more, rest, hc, rfl, rfl⟩ := h
    have hbytes : String.utf8EncodeChar c = byte :: more := by
      apply map_toNat_inj
      rw [map_toNat_utf8EncodeChar, hc, List.map_cons]
    rw [encode_cons, hbytes, List.cons_append]

/-- Between characters, an ASCII byte is a character of its own. -/
theorem cons_eq_encode_iff_of_lt (h : byte.toNat < 0x80) :
    byte :: bytes = encode text ↔
      ∃ rest, bytes = encode rest ∧ Char.ofNat byte.toNat :: rest = text := by
  rw [cons_eq_encode_iff]
  constructor
  · intro h
    obtain ⟨c, more, rest, hc, rfl, rfl⟩ := h
    by_cases hascii : c.toNat < 0x80
    · rw [byteNumbers, if_pos hascii] at hc
      obtain ⟨hbyte, hmore⟩ := List.cons.inj hc
      rw [List.map_eq_nil_iff.mp hmore.symm, ← hbyte, Char.ofNat_toNat]
      exact ⟨rest, rfl, rfl⟩
    · obtain ⟨p, hlead, -⟩ := exists_lead c.valid (Nat.le_of_not_lt hascii) hc
      rw [lead, if_pos (by omega)] at hlead
      cases hlead
  · intro h
    obtain ⟨rest, rfl, rfl⟩ := h
    have hn : (Char.ofNat byte.toNat).toNat = byte.toNat :=
      toNat_ofNat (.inl (by omega))
    refine ⟨Char.ofNat byte.toNat, [], rest, ?_, rfl, rfl⟩
    rw [hn, byteNumbers, if_pos h, List.map_nil]

/-- Between characters, another byte has to be the first of a character. -/
theorem cons_eq_encode_iff_of_le (h : ¬byte.toNat < 0x80) :
    byte :: bytes = encode text ↔ ∃ p, lead byte.toNat = some p ∧ Follows (some p) bytes text := by
  rw [cons_eq_encode_iff]
  constructor
  · intro h
    obtain ⟨c, more, rest, hc, rfl, rfl⟩ := h
    have hbeyond : 0x80 ≤ c.toNat := by
      refine Nat.le_of_not_lt fun hascii => h ?_
      rw [byteNumbers, if_pos hascii] at hc
      rw [← (List.cons.inj hc).1]
      exact hascii
    obtain ⟨p, hlead, hends⟩ := exists_lead c.valid hbeyond hc
    refine ⟨p, hlead, c.toNat, more, rest, hends, rfl, ?_⟩
    rw [Char.ofNat_toNat]
  · intro h
    obtain ⟨p, hlead, n, more, rest, hends, rfl, rfl⟩ := h
    obtain ⟨hvalid, hn⟩ := byteNumbers_of_lead hlead hends
    refine ⟨Char.ofNat n, more, rest, ?_, rfl, rfl⟩
    rw [toNat_ofNat hvalid, hn]

/-- Inside a character, the next byte has to be in its bounds. -/
theorem follows_some_cons_iff {p : Pending} :
    Follows (some p) (byte :: bytes) text ↔
      (p.low ≤ byte.toNat ∧ byte.toNat ≤ p.high) ∧
        if p.owed ≤ 1 then
          ∃ rest, bytes = encode rest ∧ Char.ofNat (p.gather byte.toNat) :: rest = text
        else Follows (some (p.advance byte.toNat)) bytes text := by
  constructor
  · intro h
    obtain ⟨n, more, rest, hends, hbytes, rfl⟩ := h
    cases more with
    | nil => cases hends
    | cons first more =>
      obtain ⟨rfl, rfl⟩ := List.cons.inj hbytes
      rw [List.map_cons] at hends
      generalize hmore : more.map UInt8.toNat = numbers at hends
      cases hends with
      | last bounds few =>
        rw [if_pos few, List.map_eq_nil_iff.mp hmore]
        exact ⟨bounds, rest, rfl, rfl⟩
      | more bounds many next =>
        rw [if_neg many]
        exact ⟨bounds, n, more, rest, hmore ▸ next, rfl, rfl⟩
  · intro h
    obtain ⟨bounds, h⟩ := h
    split at h
    · next few =>
      obtain ⟨rest, rfl, rfl⟩ := h
      exact ⟨_, [byte], rest, .last bounds few, rfl, rfl⟩
    · next many =>
      obtain ⟨n, more, rest, hends, rfl, rfl⟩ := h
      exact ⟨n, byte :: more, rest, .more bounds many hends, rfl, rfl⟩

/-- **The reader takes exactly what may follow** where it stands, however many bytes are behind it.
-/
theorem decodeFrom_eq_ok_iff (valid : Nat) (p : Option Pending) (bytes : List UInt8)
    (text : List Char) : decodeFrom valid p bytes = .ok text ↔ Follows p bytes text := by
  induction bytes generalizing valid p text with
  | nil =>
    cases p with
    | none =>
      show Except.ok [] = .ok text ↔ [] = encode text
      cases text with
      | nil => exact ⟨fun _ => rfl, fun _ => rfl⟩
      | cons c rest =>
        refine ⟨nofun, fun h => ?_⟩
        rw [encode_cons] at h
        have hc := congrArg (List.map UInt8.toNat) (List.append_eq_nil_iff.mp h.symm).1
        rw [map_toNat_utf8EncodeChar] at hc
        exact absurd hc (byteNumbers_ne_nil _)
    | some p =>
      refine ⟨nofun, ?_⟩
      intro h
      obtain ⟨n, more, rest, hends, hbytes, -⟩ := h
      rw [(List.append_eq_nil_iff.mp hbytes.symm).1] at hends
      cases hends
  | cons byte bytes ih =>
    cases p with
    | none =>
      show _ ↔ byte :: bytes = encode text
      by_cases h : byte.toNat < 0x80
      · rw [decodeFrom, if_pos h, map_eq_ok_iff, cons_eq_encode_iff_of_lt h]
        simp only [ih, Follows]
      · rw [decodeFrom, if_neg h, cons_eq_encode_iff_of_le h]
        cases hlead : lead byte.toNat with
        | none => exact ⟨nofun, nofun⟩
        | some p =>
          simp only [ih, Option.some.injEq, exists_eq_left']
    | some p =>
      rw [decodeFrom, follows_some_cons_iff]
      by_cases hbounds : p.low ≤ byte.toNat ∧ byte.toNat ≤ p.high
      · rw [if_pos hbounds, and_iff_right hbounds]
        by_cases few : p.owed ≤ 1
        · rw [if_pos few, if_pos few, map_eq_ok_iff]
          simp only [ih, Follows]
        · rw [if_neg few, if_neg few, ih]
      · rw [if_neg hbounds]
        exact ⟨nofun, fun h => absurd h.1 hbounds⟩

/-- **A text is read back from its bytes, and from no others.** -/
theorem decode_eq_ok_iff {bytes : List UInt8} {text : List Char} :
    decode bytes = .ok text ↔ bytes = encode text :=
  decodeFrom_eq_ok_iff 0 none bytes text

/-! ## Texts one behind another -/

theorem encode_append (front back : List Char) :
    encode (front ++ back) = encode front ++ encode back :=
  List.flatMap_append

/-- The bytes of a character begin those of no other. -/
theorem utf8EncodeChar_append_inj {c d : Char} {xs ys : List UInt8}
    (h : String.utf8EncodeChar c ++ xs = String.utf8EncodeChar d ++ ys) : c = d ∧ xs = ys := by
  have hchar : some c = some d := by
    rw [← ByteArray.utf8DecodeChar?_utf8EncodeChar_append (b := xs.toByteArray),
      ← ByteArray.utf8DecodeChar?_utf8EncodeChar_append (b := ys.toByteArray),
      ← List.toByteArray_append, ← List.toByteArray_append, h]
  cases hchar
  exact ⟨rfl, List.append_cancel_left h⟩

/-- **What stands behind the bytes of a text, in the bytes of a longer one**, are the bytes of a
text themselves. -/
theorem encode_eq_append_iff {front : List Char} {more : List UInt8} :
    encode text = encode front ++ more ↔ ∃ back, text = front ++ back ∧ more = encode back := by
  constructor
  · intro h
    induction front generalizing text with
    | nil => exact ⟨text, rfl, h.symm⟩
    | cons c front ih =>
      rw [encode_cons, List.append_assoc] at h
      cases text with
      | nil =>
        exact absurd (List.append_eq_nil_iff.mp h.symm).1 String.utf8EncodeChar_ne_nil
      | cons d text =>
        rw [encode_cons] at h
        obtain ⟨rfl, hrest⟩ := utf8EncodeChar_append_inj h
        obtain ⟨back, rfl, hmore⟩ := ih hrest
        exact ⟨back, rfl, hmore⟩
  · rintro ⟨back, rfl, rfl⟩
    exact encode_append front back

end Utf8

end PresetBuild.Text
