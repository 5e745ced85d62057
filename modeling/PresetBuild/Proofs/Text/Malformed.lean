import Mathlib.Order.Bounds.Defs
import PresetBuild.Proofs.Text.Utf8

/-!
# Bytes that are no text

Bytes that are no text's are refused, and the refusal says two things of them. How many bytes before
the fault are whole characters: those bytes are the longest beginning that is a text's
(`isGreatest_valid`). And whether the bytes are only incomplete: whether there are any that, put
behind them, make them a text's (`length_eq_none_iff`).

The reader is a machine that stands between characters or inside one. One byte takes it on or is
refused (`step`); that is said here once, of the reader (`decodeFrom_eq_error_cons_iff`) and of the
bytes that may follow where it stands (`completes_cons_iff`), and the two facts are inductions along
the bytes. That a character which has begun can be ended at all needs a byte within the bounds of
each one owed, and there is one wherever a byte has taken the reader (`open_of_step`).
-/

namespace PresetBuild.Text.Utf8

variable {p q : Option Pending} {b : UInt8} {bytes front : List UInt8} {valid : Nat} {m : Malformed}

/-! ## One byte -/

/-- **Where one byte takes the reader**, if it is not refused. -/
def step : Option Pending → UInt8 → Option (Option Pending)
  | none, b => if b.toNat < 0x80 then some none else (lead b.toNat).map some
  | some p, b =>
    if p.low ≤ b.toNat ∧ b.toNat ≤ p.high then
      if p.owed ≤ 1 then some none else some (some (p.advance b.toNat))
    else none

/-- How many bytes were taken of the character that the reader stands in. -/
def takenOf : Option Pending → Nat
  | none => 0
  | some p => p.taken

/-- How long a faulty sequence is that ends where the reader stands. -/
def faultLength : Option Pending → Nat
  | none => 1
  | some p => p.taken

/-- How many bytes have become whole characters where one byte took the reader to `q`. -/
def completed (p q : Option Pending) : Nat :=
  if q.isNone then takenOf p + 1 else 0

theorem map_eq_error_iff {ε α β : Type} {f : α → β} {r : Except ε α} {e : ε} :
    r.map f = .error e ↔ r = .error e := by
  cases r with
  | error e' =>
    show Except.error e' = .error e ↔ _
    rw [Except.error.injEq, Except.error.injEq]
  | ok x => exact ⟨nofun, nofun⟩

/-- **Whether there is a byte within the bounds** of a begun character. -/
def Pending.Open (p : Pending) : Prop :=
  ∃ b : UInt8, p.low ≤ b.toNat ∧ b.toNat ≤ p.high

theorem Pending.open_advance (p : Pending) (n : Nat) : (p.advance n).Open := by
  refine ⟨0x80, ?_⟩
  show 0x80 ≤ 0x80 ∧ 0x80 ≤ 0xBF
  decide

/-- A first byte is taken, and leaves bounds that some byte is in. -/
theorem Pending.begun_of_lead {n : Nat} {p : Pending} (h : lead n = some p) :
    p.taken = 1 ∧ p.Open := by
  rcases lead_cases h with ⟨k, hk, rfl⟩ | ⟨k, hk, rfl⟩ | ⟨k, hk, rfl⟩
  · rw [lead_two hk] at h
    cases h
    refine ⟨rfl, 0x80, ?_⟩
    show 0x80 ≤ 0x80 ∧ 0x80 ≤ 0xBF
    decide
  · rw [lead_three hk] at h
    cases h
    refine ⟨rfl, if k = 0 then 0xA0 else 0x80, ?_⟩
    by_cases h₀ : k = 0
    · simp only [h₀]
      decide
    · simp only [if_neg h₀]
      split <;> decide
  · rw [lead_four hk] at h
    cases h
    refine ⟨rfl, if k = 0 then 0x90 else 0x80, ?_⟩
    by_cases h₀ : k = 0
    · simp only [h₀]
      decide
    · simp only [if_neg h₀]
      split <;> decide

/-- A byte is counted once, with the character it completes or as taken. -/
theorem completed_add_takenOf (h : step p b = some q) :
    completed p q + takenOf q = takenOf p + 1 := by
  cases p with
  | none =>
    rw [step] at h
    split at h
    · cases h
      rfl
    · obtain ⟨p, hlead, rfl⟩ := Option.map_eq_some_iff.mp h
      show 0 + p.taken = 0 + 1
      rw [(Pending.begun_of_lead hlead).1]
  | some p =>
    rw [step] at h
    split at h
    · split at h
      · cases h
        rfl
      · cases h
        exact Nat.zero_add _
    · cases h

/-- **What the reader refuses behind one byte**, it refuses where that byte has taken it; or the
byte is the fault. -/
theorem decodeFrom_eq_error_cons_iff : decodeFrom valid p (b :: bytes) = .error m ↔
    match step p b with
    | some q => decodeFrom (valid + completed p q) q bytes = .error m
    | none => m = ⟨valid, some (faultLength p)⟩ := by
  cases p with
  | none =>
    rw [decodeFrom, step]
    split
    · exact map_eq_error_iff
    · cases lead b.toNat with
      | none => exact ⟨fun h => (Except.error.inj h).symm, fun h => congrArg _ h.symm⟩
      | some p => exact Iff.rfl
  | some p =>
    rw [decodeFrom, step]
    split
    · split
      · exact map_eq_error_iff
      · exact Iff.rfl
    · exact ⟨fun h => (Except.error.inj h).symm, fun h => congrArg _ h.symm⟩

/-! ## What may follow -/

/-- **Bytes that end what has begun** and go on with whole characters, if they go on. -/
def Completes (p : Option Pending) (bytes : List UInt8) : Prop :=
  ∃ text, Follows p bytes text

theorem completes_nil_iff : Completes p [] ↔ p = none := by
  constructor
  · rintro ⟨text, h⟩
    cases p with
    | none => rfl
    | some p =>
      obtain ⟨n, more, rest, hends, hbytes, -⟩ := h
      rw [(List.append_eq_nil_iff.mp hbytes.symm).1] at hends
      cases hends
  · rintro rfl
    exact ⟨[], rfl⟩

/-- **One byte and others follow** if the byte is not refused and the others follow then. -/
theorem completes_cons_iff :
    Completes p (b :: bytes) ↔ ∃ q, step p b = some q ∧ Completes q bytes := by
  cases p with
  | none =>
    rw [step]
    by_cases ascii : b.toNat < 0x80
    · rw [if_pos ascii]
      constructor
      · rintro ⟨text, h⟩
        obtain ⟨rest, hrest, -⟩ := (cons_eq_encode_iff_of_lt ascii).mp h
        exact ⟨none, rfl, rest, hrest⟩
      · rintro ⟨q, hq, rest, hrest⟩
        cases hq
        exact ⟨_, (cons_eq_encode_iff_of_lt ascii).mpr ⟨rest, hrest, rfl⟩⟩
    · rw [if_neg ascii]
      constructor
      · rintro ⟨text, h⟩
        obtain ⟨p, hlead, hfollows⟩ := (cons_eq_encode_iff_of_le ascii).mp h
        exact ⟨some p, Option.map_eq_some_iff.mpr ⟨p, hlead, rfl⟩, text, hfollows⟩
      · rintro ⟨q, hq, text, hfollows⟩
        obtain ⟨p, hlead, rfl⟩ := Option.map_eq_some_iff.mp hq
        exact ⟨text, (cons_eq_encode_iff_of_le ascii).mpr ⟨p, hlead, hfollows⟩⟩
  | some p =>
    rw [Completes, step]
    simp only [follows_some_cons_iff]
    by_cases bounds : p.low ≤ b.toNat ∧ b.toNat ≤ p.high
    · rw [if_pos bounds]
      simp only [and_iff_right bounds]
      by_cases few : p.owed ≤ 1
      · simp only [if_pos few]
        constructor
        · rintro ⟨text, rest, hrest, -⟩
          exact ⟨none, rfl, rest, hrest⟩
        · rintro ⟨q, hq, rest, hrest⟩
          cases hq
          exact ⟨_, rest, hrest, rfl⟩
      · simp only [if_neg few, Option.some.injEq, exists_eq_left']
        exact Iff.rfl
    · rw [if_neg bounds]
      exact ⟨fun ⟨_, h⟩ => absurd h.1 bounds, fun ⟨_, h, _⟩ => nomatch h⟩

/-! ## The length of what is whole -/

/-- Where the reader refuses, nothing was whole, or what was is counted. -/
theorem valid_eq (h : decodeFrom valid p bytes = .error m) :
    m.valid = valid ∨ ∃ front, front <+: bytes ∧ Completes p front ∧
      m.valid = valid + takenOf p + front.length := by
  induction bytes generalizing valid p with
  | nil =>
    cases p with
    | none => cases h
    | some p =>
      cases h
      exact .inl rfl
  | cons b bytes ih =>
    rw [decodeFrom_eq_error_cons_iff] at h
    cases hstep : step p b with
    | none =>
      rw [hstep] at h
      exact .inl (congrArg Malformed.valid h)
    | some q =>
      rw [hstep] at h
      have hcount := completed_add_takenOf hstep
      rcases ih h with hvalid | ⟨front, hbegins, hcompletes, hvalid⟩
      · cases q with
        | none =>
          refine .inr ⟨[b], List.prefix_append [b] bytes, ?_, hvalid⟩
          exact completes_cons_iff.mpr ⟨none, hstep, completes_nil_iff.mpr rfl⟩
        | some q => exact .inl hvalid
      · refine .inr ⟨b :: front, (List.prefix_cons_inj b).mpr hbegins,
          completes_cons_iff.mpr ⟨q, hstep, hcompletes⟩, ?_⟩
        rw [hvalid, List.length_cons]
        omega

/-- **Nothing longer is whole** than what is counted, by induction on the bytes. -/
theorem le_valid (h : decodeFrom valid p bytes = .error m) (begins : front <+: bytes)
    (completes : Completes p front) : valid + takenOf p + front.length ≤ m.valid := by
  induction bytes generalizing valid p front with
  | nil =>
    rw [List.prefix_nil.mp begins, completes_nil_iff] at completes
    rw [completes] at h
    cases h
  | cons b bytes ih =>
    cases front with
    | nil =>
      have hcounted : valid ≤ m.valid := by
        rcases valid_eq h with hvalid | ⟨_, -, -, hvalid⟩ <;> omega
      rw [completes_nil_iff.mp completes]
      exact hcounted
    | cons c front =>
      obtain ⟨rfl, hbegins⟩ := List.cons_prefix_cons.mp begins
      obtain ⟨q, hstep, hcompletes⟩ := completes_cons_iff.mp completes
      rw [decodeFrom_eq_error_cons_iff, hstep] at h
      have hle := ih h hbegins hcompletes
      have hcount := completed_add_takenOf hstep
      rw [List.length_cons]
      omega

/-- **The bytes counted are the longest beginning that is a text's.** -/
theorem isGreatest_valid (h : decode bytes = .error m) :
    IsGreatest {n | ∃ text, encode text <+: bytes ∧ (encode text).length = n} m.valid := by
  constructor
  · rcases valid_eq h with hvalid | ⟨front, hbegins, ⟨text, rfl⟩, hvalid⟩
    · exact ⟨[], List.nil_prefix, hvalid.symm⟩
    · rw [takenOf, Nat.add_zero, Nat.zero_add] at hvalid
      exact ⟨text, hbegins, hvalid.symm⟩
  · rintro n ⟨text, hbegins, rfl⟩
    have hle := le_valid h hbegins ⟨text, rfl⟩
    rwa [takenOf, Nat.add_zero, Nat.zero_add] at hle

/-! ## Incomplete bytes -/

theorem Pending.open_of_step {p : Pending} (h : step q b = some (some p)) : p.Open := by
  cases q with
  | none =>
    rw [step] at h
    split at h
    · cases h
    · obtain ⟨p, hlead, hp⟩ := Option.map_eq_some_iff.mp h
      cases hp
      exact (begun_of_lead hlead).2
  | some q =>
    rw [step] at h
    split at h
    · split at h
      · cases h
      · cases h
        exact q.open_advance b.toNat
    · cases h

/-- The last byte owed ends a character. -/
theorem Pending.completes_last {p : Pending} (bounds : p.low ≤ b.toNat ∧ b.toNat ≤ p.high)
    (few : p.owed ≤ 1) : Completes (some p) [b] := by
  refine completes_cons_iff.mpr ⟨none, ?_, completes_nil_iff.mpr rfl⟩
  rw [step, if_pos bounds, if_pos few]

/-- **A character that has begun can be ended**, by induction on the bytes owed. -/
theorem Pending.Open.exists_completes {p : Pending} (h : p.Open) :
    ∃ more, Completes (some p) more := by
  generalize howed : p.owed = owed
  induction owed generalizing p with
  | zero =>
    obtain ⟨b, bounds⟩ := h
    exact ⟨[b], p.completes_last bounds (by omega)⟩
  | succ owed ih =>
    obtain ⟨b, bounds⟩ := h
    by_cases few : p.owed ≤ 1
    · exact ⟨[b], p.completes_last bounds few⟩
    · have hfewer : (p.advance b.toNat).owed = owed := by
        show p.owed - 1 = owed
        omega
      obtain ⟨more, hmore⟩ := ih (p.open_advance b.toNat) hfewer
      refine ⟨b :: more, completes_cons_iff.mpr ⟨_, ?_, hmore⟩⟩
      rw [step, if_pos bounds, if_neg few]

/-- Where the reader stands, the fault is that the bytes end exactly if others can be put behind
them. -/
theorem length_eq_none_iff_completes (h : decodeFrom valid p bytes = .error m)
    (fit : ∀ r, p = some r → r.Open) : m.length = none ↔ ∃ more, Completes p (bytes ++ more) := by
  induction bytes generalizing valid p with
  | nil =>
    cases p with
    | none => cases h
    | some p =>
      cases h
      exact iff_of_true rfl (fit p rfl).exists_completes
  | cons b bytes ih =>
    rw [decodeFrom_eq_error_cons_iff] at h
    simp only [List.cons_append, completes_cons_iff]
    cases hstep : step p b with
    | none =>
      rw [hstep] at h
      rw [h]
      exact iff_of_false nofun nofun
    | some q =>
      rw [hstep] at h
      have hopen : ∀ r, q = some r → r.Open := by
        rintro r rfl
        exact Pending.open_of_step hstep
      rw [ih h hopen]
      simp only [Option.some.injEq, exists_eq_left']

/-- **Refused bytes are incomplete** in the reader's words exactly if there are bytes that, put
behind them, make them a text's. -/
theorem length_eq_none_iff (h : decode bytes = .error m) :
    m.length = none ↔ ∃ more text, bytes ++ more = encode text :=
  length_eq_none_iff_completes h nofun

/-- **Bytes are refused exactly if they are no text's.** -/
theorem exists_malformed_iff :
    (∃ m, decode bytes = .error m) ↔ ∀ text, bytes ≠ encode text := by
  cases h : decode bytes with
  | ok text => exact iff_of_false nofun fun hall => hall text (decode_eq_ok_iff.mp h)
  | error m =>
    refine iff_of_true ⟨m, rfl⟩ fun text htext => ?_
    rw [decode_eq_ok_iff.mpr htext] at h
    cases h

/-! ## The wording -/

/-- The wording of a refusal tells incomplete bytes apart from others. -/
theorem Malformed.message_eq_iff (m : Malformed) :
    m.message = "incomplete utf-8 byte sequence from index " ++ toString m.valid ↔
      m.length = none := by
  unfold message
  cases m.length with
  | none => exact iff_of_true rfl rfl
  | some n =>
    refine iff_of_false (fun h => ?_) nofun
    have hthird := congrArg (fun text : String => text.toList[2]?) h
    simp [String.toList_append] at hthird

end PresetBuild.Text.Utf8
