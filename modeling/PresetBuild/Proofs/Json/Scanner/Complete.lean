import PresetBuild.Proofs.Json.Scanner.Sound

/-!
# Tokens that are spelled are found

The scanner finds the tokens that a text spells (`tokens_of_spelled`): it goes through the spelling
of one token and comes out behind it, between tokens again.

A number alone has no end of its own. The scanner is then still inside it, where it may end, and
what follows has to be no part of it (`Severs`). That holds of every token but a number, so the
theorem asks that no number stands directly behind a number (`Apart`). Among the tokens of a value
none does.
-/

namespace PresetBuild.Json

variable {c : Char} {d d' : Digits} {x text : List Char} {s s' : Scanner} {ts : List Token}

namespace Scanner

/-- One character that completes no token. -/
theorem scan?_through (h : s.step? c = some ([], s')) (text : List Char) :
    s.scan? (c :: text) = s'.scan? text := by
  rw [scan?_cons h]
  exact Option.map_id'

theorem scan?_spaces {gap : List Char} (h : Spaces gap) (text : List Char) :
    scan? .gap (gap ++ text) = scan? .gap text := by
  induction gap with
  | nil => rfl
  | cons c gap ih =>
    obtain ⟨hc, hgap⟩ := List.forall_mem_cons.mp h
    have hstep : step? .gap c = some ([], .gap) := by
      rcases hc with rfl | rfl | rfl | rfl <;> rfl
    exact (scan?_through hstep _).trans (ih hgap)

end Scanner

theorem hexDigit?_of_hexDigit {n : Nat} (h : HexDigit n c) : hexDigit? c = some n := by
  have lower : ∀ i < 16, ("0123456789abcdef".toList[i]?).bind hexDigit? = some i := by decide
  have upper : ∀ i < 16, ("0123456789ABCDEF".toList[i]?).bind hexDigit? = some i := by decide
  rcases h with h | h
  · have hn : n < 16 := (List.getElem?_eq_some_iff.mp h).1
    exact (congrArg (Option.bind · hexDigit?) h).symm.trans (lower n hn)
  · have hn : n < 16 := (List.getElem?_eq_some_iff.mp h).1
    exact (congrArg (Option.bind · hexDigit?) h).symm.trans (upper n hn)

theorem shortEscape_eq {letter e : Char} (h : (letter, e) ∈ shortEscapes) :
    letter ≠ 'u' ∧ shortEscape? letter = some e := by
  have all : ∀ p ∈ shortEscapes, p.1 ≠ 'u' ∧ shortEscape? p.1 = some p.2 := by decide
  exact all _ h

namespace Scanner

/-- The digits of a four-digit escape, or those that are left of them. -/
theorem scan?_hex {read : Written} {more value : Nat} {values : List Nat} {digits : List Char}
    (h : List.Forall₂ HexDigit values digits) (length : digits.length = more + 1)
    (text : List Char) :
    scan? (.hex read more value) (digits ++ text) =
      scan? (.string (.unit (UInt16.ofNat (hexValue value values)) :: read)) text := by
  induction h generalizing more value with
  | nil => cases length
  | @cons n c values digits hc hdigits ih =>
    have hn := hexDigit?_of_hexDigit hc
    cases more with
    | zero =>
      have hnil : digits = [] := List.length_eq_zero_iff.mp (Nat.succ.inj length)
      subst hnil
      cases hdigits
      have hstep : step? (.hex read 0 value) c =
          some ([], .string (.unit (UInt16.ofNat (value * 16 + n)) :: read)) := by
        rw [step?, hn]
      exact scan?_through hstep _
    | succ more =>
      have hstep : step? (.hex read (more + 1) value) c =
          some ([], .hex read more (value * 16 + n)) := by
        rw [step?, hn]
      exact (scan?_through hstep _).trans (ih (Nat.succ.inj length))

/-- A word, behind its first character. -/
theorem scan?_word {first next : Char} {rest : List Char} {t : Token}
    (hfirst : step? .gap first = some ([], .word next rest t)) (text : List Char) :
    scan? .gap (first :: next :: rest ++ text) = (scan? .gap text).map (t :: ·) := by
  refine (scan?_through hfirst _).trans ?_
  clear hfirst
  induction rest generalizing next with
  | nil =>
    have hstep : step? (.word next [] t) next = some ([t], .gap) := if_pos rfl
    exact scan?_cons hstep text
  | cons after rest ih =>
    have hstep : step? (.word next (after :: rest) t) next = some ([], .word after rest t) :=
      if_pos rfl
    exact (scan?_through hstep _).trans ih

theorem scan?_piece {p : Piece} (h : PieceText p x) (read : Written) (text : List Char) :
    scan? (.string read) (x ++ text) = scan? (.string (p :: read)) text := by
  cases h with
  | @raw c quote backslash control =>
    have hstep : step? (.string read) c = some ([], .string (.char c :: read)) := by
      rw [step?, if_neg quote, if_neg backslash, if_neg (Nat.not_lt_of_le control)]
    exact scan?_through hstep text
  | @short letter e escape =>
    obtain ⟨hu, he⟩ := shortEscape_eq escape
    have hstep : step? (.escape read) letter = some ([], .string (.char e :: read)) := by
      rw [step?, if_neg hu, he]
      rfl
    have hback : step? (.string read) '\\' = some ([], .escape read) := rfl
    exact (scan?_through hback _).trans (scan?_through hstep text)
  | unit four spelled =>
    have hback : step? (.string read) '\\' = some ([], .escape read) := rfl
    have hu : step? (.escape read) 'u' = some ([], .hex read 3 0) := rfl
    exact (scan?_through hback _).trans ((scan?_through hu _).trans (scan?_hex spelled four text))

theorem scan?_written {w : Written} (h : WrittenText w x) (read : Written) (text : List Char) :
    scan? (.string read) (x ++ '"' :: text) =
      (scan? .gap text).map (.string (read.reverse ++ w) :: ·) := by
  induction h generalizing read with
  | nil =>
    have hstep : step? (.string read) '"' = some ([.string read.reverse], .gap) := rfl
    rw [List.append_nil]
    exact scan?_cons hstep text
  | cons piece _ ih =>
    rw [List.append_assoc, scan?_piece piece, ih, List.reverse_cons, List.append_assoc]
    rfl

theorem scan?_digit (h : d.next? c = some d') (text : List Char) :
    scan? (.number d) (c :: text) = scan? (.number d') text := by
  apply scan?_through
  rw [step?, h]

/-- Digits carry a number on where one digit does. -/
theorem scan?_digits (hd : ∀ c : Char, c.isDigit = true → d.next? c = some d) {digits : List Char}
    (h : ∀ c ∈ digits, c.isDigit = true) (text : List Char) :
    scan? (.number d) (digits ++ text) = scan? (.number d) text := by
  induction digits with
  | nil => rfl
  | cons c digits ih =>
    obtain ⟨hc, hdigits⟩ := List.forall_mem_cons.mp h
    exact (scan?_digit (hd c hc) _).trans (ih hdigits)

/-- Digits take a number to where digits carry it on. -/
theorem scan?_digitsText (hd : ∀ c : Char, c.isDigit = true → d.next? c = some d')
    (hd' : ∀ c : Char, c.isDigit = true → d'.next? c = some d') (h : DigitsText x)
    (text : List Char) : scan? (.number d) (x ++ text) = scan? (.number d') text := by
  obtain ⟨hne, hdigits⟩ := h
  cases x with
  | nil => exact absurd rfl hne
  | cons c digits =>
    obtain ⟨hc, hdigits⟩ := List.forall_mem_cons.mp hdigits
    exact (scan?_digit (hd c hc) _).trans (scan?_digits hd' hdigits text)

theorem step?_first (hs : s = .gap ∨ s = .number .minus) (hc : c.isDigit = true) :
    s.step? c = some ([], .number (if c = '0' then .zero else .whole)) := by
  have all : ∀ i < 10, ∀ s ∈ [gap, .number .minus], s.step? (Char.ofNat (48 + i)) =
      some ([], .number (if Char.ofNat (48 + i) = '0' then .zero else .whole)) := by decide
  unfold Char.isDigit at hc
  simp only [Bool.and_eq_true, decide_eq_true_eq, UInt32.le_iff_toNat_le, Char.toNat_val] at hc
  have hlow : 48 ≤ c.toNat := hc.1
  have hhigh : c.toNat ≤ 57 := hc.2
  have hname : Char.ofNat (48 + (c.toNat - 48)) = c := by
    rw [Nat.add_sub_cancel' hlow, Char.ofNat_toNat]
  have hmem : s ∈ [gap, .number .minus] := by
    rcases hs with rfl | rfl
    · exact List.mem_cons_self
    · exact List.mem_cons_of_mem _ List.mem_cons_self
  have hstep := all (c.toNat - 48) (by omega) s hmem
  rw [hname] at hstep
  exact hstep

theorem scan?_whole (hs : s = .gap ∨ s = .number .minus) (h : WholeText x) :
    ∃ d : Digits, (d = .zero ∨ d = .whole) ∧
      ∀ text, s.scan? (x ++ text) = scan? (.number d) text := by
  rcases h with rfl | ⟨⟨hne, hdigits⟩, hzero⟩
  · exact ⟨.zero, .inl rfl, fun text => scan?_through (step?_first hs (by decide)) text⟩
  · refine ⟨.whole, .inr rfl, fun text => ?_⟩
    cases x with
    | nil => exact absurd rfl hne
    | cons c digits =>
      obtain ⟨hc, hdigits⟩ := List.forall_mem_cons.mp hdigits
      have hstep := step?_first hs hc
      rw [if_neg fun hc => hzero (congrArg some hc)] at hstep
      have hdigit (c : Char) (hc : c.isDigit = true) : Digits.next? .whole c = some .whole := by
        rw [Digits.next?, if_pos hc]
      exact (scan?_through hstep _).trans (scan?_digits hdigit hdigits text)

theorem scan?_fraction (hd : d = .zero ∨ d = .whole) (h : FractionText x) :
    ∃ d' : Digits, (d' = .zero ∨ d' = .whole ∨ d' = .decimals) ∧
      ∀ text, scan? (.number d) (x ++ text) = scan? (.number d') text := by
  rcases h with rfl | ⟨digits, hdigits, rfl⟩
  · exact ⟨d, hd.imp_right .inl, fun text => rfl⟩
  · refine ⟨.decimals, .inr (.inr rfl), fun text => ?_⟩
    have hpoint : d.next? '.' = some .point := by
      rcases hd with rfl | rfl <;> rfl
    have hfirst (c : Char) (hc : c.isDigit = true) : Digits.next? .point c = some .decimals := by
      rw [Digits.next?, if_pos hc]
    have hdigit (c : Char) (hc : c.isDigit = true) :
        Digits.next? .decimals c = some .decimals := by
      rw [Digits.next?, if_pos hc]
    exact (scan?_digit hpoint _).trans (scan?_digitsText hfirst hdigit hdigits text)

theorem scan?_exponent (hd : d = .zero ∨ d = .whole ∨ d = .decimals) (h : ExponentText x) :
    ∃ d' : Digits, d'.complete = true ∧
      ∀ text, scan? (.number d) (x ++ text) = scan? (.number d') text := by
  rcases h with rfl | ⟨mark, sign, digits, hmark, hsign, hdigits, rfl⟩
  · refine ⟨d, ?_, fun text => rfl⟩
    rcases hd with rfl | rfl | rfl <;> rfl
  · refine ⟨.exponent, rfl, fun text => ?_⟩
    have hmark : d.next? mark = some .mark := by
      rcases hmark with rfl | rfl <;> rcases hd with rfl | rfl | rfl <;> rfl
    have hfirst (c : Char) (hc : c.isDigit = true) : Digits.next? .mark c = some .exponent := by
      rw [Digits.next?, if_pos hc]
    have hsecond (c : Char) (hc : c.isDigit = true) : Digits.next? .sign c = some .exponent := by
      rw [Digits.next?, if_pos hc]
    have hdigit (c : Char) (hc : c.isDigit = true) :
        Digits.next? .exponent c = some .exponent := by
      rw [Digits.next?, if_pos hc]
    refine (scan?_digit hmark _).trans ?_
    rcases hsign with rfl | rfl | rfl
    · exact scan?_digitsText hfirst hdigit hdigits text
    · have hplus : Digits.next? .mark '+' = some .sign := rfl
      exact (scan?_digit hplus _).trans (scan?_digitsText hsecond hdigit hdigits text)
    · have hminus : Digits.next? .mark '-' = some .sign := rfl
      exact (scan?_digit hminus _).trans (scan?_digitsText hsecond hdigit hdigits text)

/-- The scanner goes through a number to where it may end. -/
theorem scan?_number (h : NumberText x) :
    ∃ d : Digits, d.complete = true ∧ ∀ text, scan? .gap (x ++ text) = scan? (.number d) text := by
  obtain ⟨sign, whole, fraction, exponent, hsign, hwhole, hfraction, hexponent, rfl⟩ := h
  have hbegin : ∃ s : Scanner, (s = .gap ∨ s = .number .minus) ∧
      ∀ text, scan? .gap (sign ++ text) = scan? s text := by
    rcases hsign with rfl | rfl
    · exact ⟨.gap, .inl rfl, fun text => rfl⟩
    · have hminus : step? .gap '-' = some ([], .number .minus) := rfl
      exact ⟨.number .minus, .inr rfl, scan?_through hminus⟩
  obtain ⟨s, hs, hsign⟩ := hbegin
  obtain ⟨d₁, hd₁, hwhole⟩ := scan?_whole hs hwhole
  obtain ⟨d₂, hd₂, hfraction⟩ := scan?_fraction hd₁ hfraction
  obtain ⟨d₃, hd₃, hexponent⟩ := scan?_exponent hd₂ hexponent
  refine ⟨d₃, hd₃, fun text => ?_⟩
  rw [List.append_assoc, List.append_assoc, List.append_assoc, hsign, hwhole, hfraction, hexponent]

end Scanner

/-- A text that carries no number on. -/
def Severs (text : List Char) : Prop :=
  ∀ c, text.head? = some c → c.isDigit = false ∧ c ≠ '.' ∧ isMark c = false

/-- **No number stands directly behind a number.** -/
def Apart : List Token → Prop
  | [] => True
  | t :: ts => (t = .number → ts.head? ≠ some .number) ∧ Apart ts

theorem severs_of_head {c : Char} {text : List Char}
    (h : c.isDigit = false ∧ c ≠ '.' ∧ isMark c = false) : Severs (c :: text) := by
  intro e he
  rw [← Option.some.inj he]
  exact h

/-- What is spelled behind a number carries it no further, unless it is a number. -/
theorem Spelled.severs (h : Spelled ts text) (hts : ts.head? ≠ some .number) : Severs text := by
  have spaced {gap more : List Char} (hgap : Spaces gap) (hmore : Severs more) :
      Severs (gap ++ more) := by
    cases gap with
    | nil => exact hmore
    | cons c gap =>
      apply severs_of_head
      rcases (List.forall_mem_cons.mp hgap).1 with rfl | rfl | rfl | rfl <;> decide
  cases h with
  | nil spaces =>
    rw [← List.append_nil text]
    exact spaced spaces nofun
  | cons spaces token _ =>
    rw [List.append_assoc]
    apply spaced spaces
    cases token with
    | number => exact absurd rfl hts
    | openArray | closeArray | openObject | closeObject | colon | comma | null | true | false
    | string =>
      apply severs_of_head
      decide

namespace Scanner

/-- A number ends where it may and what follows carries it no further. -/
theorem scan?_severed (hd : d.complete = true) (h : Severs text) :
    scan? (.number d) text = (scan? .gap text).map (.number :: ·) := by
  cases text with
  | nil =>
    have hend : finish? (.number d) = some [.number] := if_pos hd
    rw [scan?_nil, scan?_nil, hend]
    rfl
  | cons c text =>
    obtain ⟨hdigit, hpoint, hmark⟩ := h c rfl
    have hnext : d.next? c = none := by
      cases d with
      | zero => rw [Digits.next?, if_neg hpoint, hmark]; rfl
      | whole => rw [Digits.next?, hdigit, if_neg hpoint, hmark]; rfl
      | decimals => rw [Digits.next?, hdigit, hmark]; rfl
      | exponent => rw [Digits.next?, hdigit]; rfl
      | minus | point | mark | sign => cases hd
    have hstep : step? (.number d) c = (begin? c).map fun r => (.number :: r.1, r.2) := by
      rw [step?, hnext]
      exact if_pos hd
    cases hbegin : begin? c with
    | none =>
      rw [hbegin] at hstep
      have hgap : step? .gap c = none := hbegin
      rw [scan?_cons_none hstep, scan?_cons_none hgap]
      rfl
    | some r =>
      rw [hbegin] at hstep
      have hgap : step? .gap c = some r := hbegin
      rw [scan?_cons hstep, scan?_cons hgap, Option.map_map]
      rfl

/-- The scanner comes out behind a token with an end of its own. -/
theorem scan?_token {t : Token} (h : TokenText t x) (ht : t ≠ .number) (text : List Char) :
    scan? .gap (x ++ text) = (scan? .gap text).map (t :: ·) := by
  cases h with
  | openArray =>
    have hstep : step? .gap '[' = some ([.openArray], .gap) := rfl
    exact scan?_cons hstep text
  | closeArray =>
    have hstep : step? .gap ']' = some ([.closeArray], .gap) := rfl
    exact scan?_cons hstep text
  | openObject =>
    have hstep : step? .gap '\x7b' = some ([.openObject], .gap) := rfl
    exact scan?_cons hstep text
  | closeObject =>
    have hstep : step? .gap '\x7d' = some ([.closeObject], .gap) := rfl
    exact scan?_cons hstep text
  | colon =>
    have hstep : step? .gap ':' = some ([.colon], .gap) := rfl
    exact scan?_cons hstep text
  | comma =>
    have hstep : step? .gap ',' = some ([.comma], .gap) := rfl
    exact scan?_cons hstep text
  | null => exact scan?_word rfl text
  | true => exact scan?_word rfl text
  | false => exact scan?_word rfl text
  | number => exact absurd rfl ht
  | @string w y spelled =>
    have hquote : step? .gap '"' = some ([], .string []) := rfl
    have htext : '"' :: y ++ ['"'] ++ text = '"' :: (y ++ '"' :: text) := by
      simp only [List.cons_append, List.append_assoc, List.nil_append]
    rw [htext]
    exact (scan?_through hquote _).trans (scan?_written spelled [] text)

end Scanner

/-- **The tokens that a text spells are found in it**, unless a number stands directly behind a
number. -/
theorem tokens_of_spelled (h : Spelled ts text) (hapart : Apart ts) : tokens? text = some ts := by
  show Scanner.scan? .gap text = some ts
  induction h with
  | @nil gap spaces =>
    have hend := Scanner.scan?_spaces spaces []
    rw [List.append_nil] at hend
    exact hend
  | @cons t ts gap x y spaces token rest ih =>
    obtain ⟨hnumber, hrest⟩ := hapart
    have found : Scanner.scan? .gap (x ++ y) = (Scanner.scan? .gap y).map (t :: ·) := by
      by_cases ht : t = .number
      · subst ht
        cases token with
        | number spelled =>
          obtain ⟨d, hd, hthrough⟩ := Scanner.scan?_number spelled
          exact (hthrough y).trans (Scanner.scan?_severed hd (rest.severs (hnumber rfl)))
      · exact Scanner.scan?_token token ht y
    rw [List.append_assoc, Scanner.scan?_spaces spaces, found, ih hrest]
    rfl

end PresetBuild.Json
