import PresetBuild.Proofs.Json.Scanner.Numbers

/-!
# Tokens that are found are spelled

The scanner finds no tokens in a text but those that the text spells (`spelled_of_tokens`).

Each state of the scanner stands for what has been read of the token it is in (`Scanner.Begun`).
One character carries that on, or completes the token: what is spelled behind the character is then
spelled, with that token before it, from where the token began (`Scanner.step?_spelled`). The run
over a text is an induction on the text.
-/

namespace PresetBuild.Json

variable {c : Char} {x text : List Char} {s s' : Scanner} {out ts : List Token}

namespace Scanner

/-- The tokens that the scanner still finds from where it stands. -/
def scan? (s : Scanner) (text : List Char) : Option (List Token) :=
  run? s [] text

theorem run?_eq (s : Scanner) (found : List Token) (text : List Char) :
    run? s found text = (s.scan? text).map (found.reverse ++ ·) := by
  unfold scan?
  induction text generalizing s found with
  | nil =>
    unfold run?
    cases finish? s <;> rfl
  | cons c rest ih =>
    unfold run?
    cases step? s c with
    | none => rfl
    | some r =>
      simp only [ih r.2 (r.1.reverse ++ found), ih r.2 (r.1.reverse ++ []), Option.map_map]
      congr 1
      funext more
      simp only [Function.comp_apply, List.append_nil, List.reverse_append, List.reverse_reverse,
        List.append_assoc]

theorem scan?_nil (s : Scanner) : s.scan? [] = s.finish? := by
  unfold scan? run?
  cases finish? s <;> rfl

theorem scan?_cons {out : List Token} (h : s.step? c = some (out, s')) (text : List Char) :
    s.scan? (c :: text) = (s'.scan? text).map (out ++ ·) := by
  show run? s [] (c :: text) = _
  rw [run?, h]
  simp only [List.append_nil]
  rw [run?_eq, List.reverse_reverse]

theorem scan?_cons_none (h : s.step? c = none) (text : List Char) : s.scan? (c :: text) = none := by
  show run? s [] (c :: text) = none
  rw [run?, h]

/-- **What has been read of a token** where the scanner stands inside it. -/
def Begun : Scanner → List Char → Prop
  | .gap, x => x = []
  | .word next rest token, x => TokenText token (x ++ next :: rest)
  | .number d, x => d.Come x
  | .string read, x => ∃ y, WrittenText read.reverse y ∧ x = '"' :: y
  | .escape read, x => ∃ y, WrittenText read.reverse y ∧ x = '"' :: (y ++ ['\\'])
  | .hex read more value, x =>
    ∃ y values digits, WrittenText read.reverse y ∧ List.Forall₂ HexDigit values digits ∧
      hexValue 0 values = value ∧ digits.length + more = 3 ∧
      x = '"' :: (y ++ '\\' :: 'u' :: digits)

end Scanner

theorem isSpace_iff : isSpace c = true ↔ c = ' ' ∨ c = '\t' ∨ c = '\n' ∨ c = '\r' := by
  unfold isSpace
  simp only [Bool.or_eq_true, beq_iff_eq, or_assoc]

/-- One character between tokens. -/
theorem Scanner.begin?_spelled (h : begin? c = some (out, s'))
    (next : ∀ x, s'.Begun x → Spelled ts (x ++ text)) : Spelled (out ++ ts) (c :: text) := by
  unfold begin? at h
  split at h
  · next hc =>
    cases h
    exact (next [] rfl).space (isSpace_iff.mp hc)
  split at h
  · cases h
    exact (next [] rfl).token .openArray
  · cases h
    exact (next [] rfl).token .closeArray
  · cases h
    exact (next [] rfl).token .openObject
  · cases h
    exact (next [] rfl).token .closeObject
  · cases h
    exact (next [] rfl).token .colon
  · cases h
    exact (next [] rfl).token .comma
  · cases h
    exact next ['"'] ⟨[], .nil, rfl⟩
  · cases h
    exact next ['n'] .null
  · cases h
    exact next ['t'] .true
  · cases h
    exact next ['f'] .false
  · rw [Option.map_eq_some_iff] at h
    obtain ⟨d, hd, h⟩ := h
    cases h
    exact next [c] (Digits.come_start hd)

theorem le_iff_toNat_le {a b : Char} : a ≤ b ↔ a.toNat ≤ b.toNat := Iff.rfl

theorem hexDigit_of_hexDigit? {n : Nat} (h : hexDigit? c = some n) : HexDigit n c := by
  have digits : ∀ i < 10, "0123456789abcdef".toList[i]? = some (Char.ofNat (48 + i)) := by decide
  have lower : ∀ i < 6, "0123456789abcdef".toList[10 + i]? = some (Char.ofNat (97 + i)) := by decide
  have upper : ∀ i < 6, "0123456789ABCDEF".toList[10 + i]? = some (Char.ofNat (65 + i)) := by decide
  have named (k : Nat) (hk : c.toNat = k) : Char.ofNat k = c := by rw [← hk, Char.ofNat_toNat]
  unfold hexDigit? at h
  simp only [le_iff_toNat_le, Char.reduceToNat] at h
  split at h
  · next hc =>
    cases h
    refine .inl ((digits _ (by omega)).trans ?_)
    rw [named _ (by omega)]
  split at h
  · next hc =>
    cases h
    rw [Nat.add_comm]
    refine .inl ((lower _ (by omega)).trans ?_)
    rw [named _ (by omega)]
  split at h
  · next hc =>
    cases h
    rw [Nat.add_comm]
    refine .inr ((upper _ (by omega)).trans ?_)
    rw [named _ (by omega)]
  · cases h

theorem shortEscape_mem {e : Char} (h : shortEscape? c = some e) : (c, e) ∈ shortEscapes := by
  unfold shortEscape? at h
  split at h <;> cases h <;> decide

theorem hexValue_concat (values : List Nat) (n : Nat) :
    hexValue 0 (values ++ [n]) = hexValue 0 values * 16 + n := by
  unfold hexValue
  rw [List.foldl_append]
  rfl

theorem hexDigits_concat {values : List Nat} {digits : List Char} {n : Nat}
    (h : List.Forall₂ HexDigit values digits) (hc : HexDigit n c) :
    List.Forall₂ HexDigit (values ++ [n]) (digits ++ [c]) := by
  induction h with
  | nil => exact .cons hc .nil
  | cons first _ ih => exact .cons first ih

/-! ## One character -/

namespace Scanner

/-- One character inside a word. -/
theorem word_spelled {char : Char} {rest : List Char} {token : Token}
    (h : step? (.word char rest token) c = some (out, s'))
    (hx : TokenText token (x ++ char :: rest))
    (next : ∀ x, s'.Begun x → Spelled ts (x ++ text)) : Spelled (out ++ ts) (x ++ c :: text) := by
  cases rest with
  | nil =>
    rw [step?] at h
    split at h
    · next hc =>
      cases h
      rw [hc, List.append_cons]
      exact (next [] rfl).token hx
    · cases h
  | cons after rest =>
    rw [step?] at h
    split at h
    · next hc =>
      cases h
      rw [hc, List.append_cons]
      rw [List.append_cons] at hx
      exact next _ hx
    · cases h

/-- One character inside a number or behind it. -/
theorem number_spelled {d : Digits} (h : step? (.number d) c = some (out, s')) (hx : d.Come x)
    (next : ∀ x, s'.Begun x → Spelled ts (x ++ text)) : Spelled (out ++ ts) (x ++ c :: text) := by
  rw [step?] at h
  split at h
  · next d' hd =>
    cases h
    rw [List.append_cons]
    exact next _ (hx.next hd)
  split at h
  · next hcomplete =>
    rw [Option.map_eq_some_iff] at h
    obtain ⟨⟨more, _⟩, hbegin, h⟩ := h
    cases h
    exact (begin?_spelled hbegin next).token (.number (hx.numberText hcomplete))
  · cases h

variable {read : Written} {y : List Char} (hy : WrittenText read.reverse y)
include hy

/-- One character inside a string. -/
theorem string_spelled (h : step? (.string read) c = some (out, s'))
    (next : ∀ x, s'.Begun x → Spelled ts (x ++ text)) :
    Spelled (out ++ ts) ('"' :: y ++ c :: text) := by
  rw [step?] at h
  split at h
  · next hc =>
    cases h
    have hspelled := (next [] rfl).token (.string hy)
    rw [List.append_assoc] at hspelled
    rw [hc]
    exact hspelled
  split at h
  · next hc =>
    cases h
    rw [hc, List.append_cons]
    exact next _ ⟨y, hy, rfl⟩
  split at h
  · cases h
  · next hquote hbackslash hcontrol =>
    cases h
    rw [List.append_cons]
    refine next _ ⟨y ++ [c], ?_, rfl⟩
    rw [List.reverse_cons]
    exact hy.concat (.raw hquote hbackslash (Nat.le_of_not_lt hcontrol))

/-- The letter of an escape. -/
theorem escape_spelled (h : step? (.escape read) c = some (out, s'))
    (next : ∀ x, s'.Begun x → Spelled ts (x ++ text)) :
    Spelled (out ++ ts) ('"' :: (y ++ ['\\']) ++ c :: text) := by
  rw [step?] at h
  split at h
  · next hc =>
    cases h
    rw [hc, List.append_cons]
    refine next _ ⟨y, [], [], hy, .nil, rfl, rfl, ?_⟩
    simp only [List.cons_append, List.append_assoc, List.nil_append]
  · rw [Option.map_eq_some_iff] at h
    obtain ⟨e, he, h⟩ := h
    cases h
    rw [List.append_cons]
    refine next _ ⟨y ++ ['\\', c], ?_, ?_⟩
    · rw [List.reverse_cons]
      exact hy.concat (.short (shortEscape_mem he))
    · simp only [List.cons_append, List.append_assoc, List.nil_append]

/-- One digit of a four-digit escape. -/
theorem hex_spelled {more : Nat} {values : List Nat} {digits : List Char}
    (h : step? (.hex read more (hexValue 0 values)) c = some (out, s'))
    (hdigits : List.Forall₂ HexDigit values digits) (hlength : digits.length + more = 3)
    (next : ∀ x, s'.Begun x → Spelled ts (x ++ text)) :
    Spelled (out ++ ts) ('"' :: (y ++ '\\' :: 'u' :: digits) ++ c :: text) := by
  rw [step?] at h
  split at h
  · cases h
  · next n hn =>
    have hmore := hexDigits_concat hdigits (hexDigit_of_hexDigit? hn)
    rw [List.append_cons]
    cases more with
    | zero =>
      cases h
      refine next _ ⟨y ++ '\\' :: 'u' :: (digits ++ [c]), ?_, ?_⟩
      · rw [List.reverse_cons, ← hexValue_concat]
        refine hy.concat (.unit ?_ hmore)
        rw [List.length_append, List.length_singleton]
        omega
      · simp only [List.cons_append, List.append_assoc]
    | succ more =>
      cases h
      refine next _ ⟨y, values ++ [n], digits ++ [c], hy, hmore, hexValue_concat values n, ?_, ?_⟩
      · rw [List.length_append, List.length_singleton]
        omega
      · simp only [List.cons_append, List.append_assoc]

end Scanner

/-- **One character**: what is spelled behind it, whatever was begun, is spelled behind the tokens
that it completes. -/
theorem Scanner.step?_spelled (h : s.step? c = some (out, s')) (hx : s.Begun x)
    (next : ∀ x, s'.Begun x → Spelled ts (x ++ text)) : Spelled (out ++ ts) (x ++ c :: text) := by
  cases s with
  | gap =>
    rw [show x = [] from hx]
    exact begin?_spelled h next
  | word char rest token => exact word_spelled h hx next
  | number d => exact number_spelled h hx next
  | string read =>
    obtain ⟨y, hy, rfl⟩ := hx
    exact string_spelled hy h next
  | escape read =>
    obtain ⟨y, hy, rfl⟩ := hx
    exact escape_spelled hy h next
  | hex read more value =>
    obtain ⟨y, values, digits, hy, hdigits, rfl, hlength, rfl⟩ := hx
    exact hex_spelled hy h hdigits hlength next

/-! ## Whole texts -/

/-- What the end of the text completes was spelled. -/
theorem Scanner.finish?_spelled (h : s.finish? = some ts) (hx : s.Begun x) : Spelled ts x := by
  cases s with
  | gap =>
    cases h
    rw [show x = [] from hx]
    exact .nil spaces_nil
  | number d =>
    rw [finish?] at h
    split at h
    · next hcomplete =>
      cases h
      have hnumber := Digits.Come.numberText hx hcomplete
      have hspelled := (Spelled.nil spaces_nil).token (.number hnumber)
      rw [List.append_nil] at hspelled
      exact hspelled
    · cases h
  | word | string | escape | hex => cases h

/-- What the scanner finds from where it stands is spelled from where the token began. -/
theorem Scanner.scan?_spelled (h : s.scan? text = some ts) (hx : s.Begun x) :
    Spelled ts (x ++ text) := by
  induction text generalizing s ts x with
  | nil =>
    rw [scan?_nil] at h
    rw [List.append_nil]
    exact finish?_spelled h hx
  | cons c text ih =>
    cases hstep : s.step? c with
    | none =>
      rw [scan?_cons_none hstep] at h
      cases h
    | some r =>
      rw [scan?_cons hstep, Option.map_eq_some_iff] at h
      obtain ⟨more, hmore, rfl⟩ := h
      exact step?_spelled hstep hx fun _ hx' => ih hmore hx'

/-- **The tokens found in a text are spelled in it.** -/
theorem spelled_of_tokens (h : tokens? text = some ts) : Spelled ts text :=
  Scanner.scan?_spelled h rfl

end PresetBuild.Json
