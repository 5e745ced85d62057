import PresetBuild.Proofs.Json.Reading

/-!
# Where a JSON text ends

A value that is an array or an object ends with its closing bracket, and only spaces may stand
behind it (`JsonText.closing`). No such text is therefore the beginning of another: where a longer
text holds a value too, it is longer by spaces alone (`JsonText.spaces_of_append`).

The scanner decides this. It stands between tokens behind every token but a number, which alone has
no end of its own (`Scanner.scan?_append`). What follows has tokens for itself, and the reader takes
none behind a whole value.
-/

namespace PresetBuild.Json

variable {s : Scanner} {t : Token} {ts : List Token} {v w : Value} {text more : List Char}

/-! ## Texts with more behind them -/

/-- **Behind a text whose last token is no number the scanner stands between tokens**, by induction
on the text. -/
theorem Scanner.scan?_append (h : s.scan? text = some ts) (last : ts.getLast? ≠ some .number)
    (more : List Char) : s.scan? (text ++ more) = (scan? .gap more).map (ts ++ ·) := by
  induction text generalizing s ts with
  | nil =>
    rw [scan?_nil] at h
    cases s with
    | gap =>
      cases h
      exact Option.map_id'.symm
    | number d =>
      by_cases hd : d.complete = true
      · rw [finish?, if_pos hd] at h
        cases h
        exact absurd rfl last
      · rw [finish?, if_neg hd] at h
        cases h
    | word | string | escape | hex => cases h
  | cons c text ih =>
    cases hstep : s.step? c with
    | none =>
      rw [scan?_cons_none hstep] at h
      cases h
    | some r =>
      rw [scan?_cons hstep] at h
      obtain ⟨found, hfound, rfl⟩ := Option.map_eq_some_iff.mp h
      have hlast : found.getLast? ≠ some .number := by
        intro hnumber
        apply last
        rw [List.getLast?_append, hnumber]
        rfl
      rw [List.cons_append, scan?_cons hstep, ih hfound hlast, Option.map_map]
      congr 1
      funext others
      exact (List.append_assoc r.1 found others).symm

/-- What spells no token is spaces. -/
theorem tokens?_eq_nil_iff : tokens? text = some [] ↔ Spaces text := by
  constructor
  · intro h
    cases spelled_of_tokens h with
    | nil spaces => exact spaces
  · intro h
    exact tokens_of_spelled (.nil h) trivial

/-- The reader takes no token behind a whole value. -/
theorem Value.ofTokens?_append_eq_some_iff :
    ofTokens? (v.tokens ++ ts) = some w ↔ ts = [] ∧ w = v := by
  rw [ofTokens?, Reader.run?_tokens]
  cases ts with
  | nil => exact ⟨fun h => ⟨rfl, (Option.some.inj h).symm⟩, fun h => congrArg some h.2.symm⟩
  | cons t ts =>
    exact iff_of_false (Option.some_ne_none w).symm fun h => List.cons_ne_nil t ts h.1

theorem JsonText.tokens?_eq (h : JsonText v text) : tokens? text = some v.tokens := by
  have hapart := v.apart_tokens [] trivial nofun
  rw [List.append_nil] at hapart
  exact tokens_of_spelled h hapart

/-! ## Arrays and objects -/

/-- **A value with brackets around it**: an array or an object. -/
inductive Value.Bracketed : Value → Prop
  | array (es : List Value) : Bracketed (.array es)
  | object (ms : List (Written × Value)) : Bracketed (.object ms)

/-- The last token of an array or object is its closing bracket. -/
theorem Value.Bracketed.tokens_eq (h : v.Bracketed) :
    ∃ ts t, v.tokens = ts ++ [t] ∧ (t = .closeArray ∨ t = .closeObject) := by
  cases h with
  | array es =>
    rcases List.eq_nil_or_concat es with rfl | ⟨es, e, rfl⟩
    · exact ⟨[.openArray], .closeArray, rfl, .inl rfl⟩
    · rw [List.concat_eq_append, Value.tokens, elementTokens_concat, ← List.cons_append]
      exact ⟨_, .closeArray, rfl, .inl rfl⟩
  | object ms =>
    rcases List.eq_nil_or_concat ms with rfl | ⟨ms, m, rfl⟩
    · exact ⟨[.openObject], .closeObject, rfl, .inr rfl⟩
    · rw [List.concat_eq_append, Value.tokens, memberTokens_concat, ← List.cons_append]
      exact ⟨_, .closeObject, rfl, .inr rfl⟩

/-- **A text of an array or object has nothing but spaces behind it** in any text of a value. -/
theorem JsonText.spaces_of_append (h : JsonText v text) (hv : v.Bracketed)
    (hw : JsonText w (text ++ more)) : Spaces more := by
  have hlast : v.tokens.getLast? ≠ some .number := by
    obtain ⟨ts, t, hts, rfl | rfl⟩ := hv.tokens_eq
    · rw [hts, List.getLast?_concat]
      exact nofun
    · rw [hts, List.getLast?_concat]
      exact nofun
  have hscan : tokens? (text ++ more) = (tokens? more).map (v.tokens ++ ·) :=
    Scanner.scan?_append h.tokens?_eq hlast more
  rw [hw.tokens?_eq] at hscan
  obtain ⟨others, hothers, htokens⟩ := Option.map_eq_some_iff.mp hscan.symm
  have hread : Value.ofTokens? (v.tokens ++ others) = some w :=
    Value.ofTokens?_eq_some_iff.mpr htokens.symm
  rw [(Value.ofTokens?_append_eq_some_iff.mp hread).1] at hothers
  exact tokens?_eq_nil_iff.mp hothers

/-! ## The closing bracket -/

/-- The spelling of a last token stands at the end, with spaces behind it. -/
theorem spelled_concat_iff :
    Spelled (ts ++ [t]) text ↔ ∃ before x gap, Spelled ts before ∧ TokenText t x ∧ Spaces gap ∧
      text = before ++ x ++ gap := by
  constructor
  · intro h
    induction ts generalizing text with
    | nil =>
      cases h with
      | @cons _ _ gap x y spaces token rest =>
        cases rest with
        | nil behind => exact ⟨gap, x, y, .nil spaces, token, behind, rfl⟩
    | cons first ts ih =>
      cases h with
      | @cons _ _ gap x y spaces token rest =>
        obtain ⟨before, z, behind, hbefore, hz, hbehind, rfl⟩ := ih rest
        refine ⟨gap ++ x ++ before, z, behind, .cons spaces token hbefore, hz, hbehind, ?_⟩
        simp only [List.append_assoc]
  · rintro ⟨before, x, gap, hbefore, hx, hgap, rfl⟩
    induction hbefore with
    | nil spaces => exact .cons spaces hx (.nil hgap)
    | cons spaces token _ ih =>
      rw [List.append_assoc, List.append_assoc, ← List.append_assoc _ x]
      exact .cons spaces token ih

/-- **A text of an array or object ends with a closing bracket and spaces**, and the spaces may be
any others. -/
theorem JsonText.closing (h : JsonText v text) (hv : v.Bracketed) :
    ∃ before close gap, (close = ']' ∨ close = '\x7d') ∧ Spaces gap ∧
      text = before ++ close :: gap ∧
      ∀ other, Spaces other → JsonText v (before ++ close :: other) := by
  obtain ⟨ts, t, hts, ht⟩ := hv.tokens_eq
  unfold JsonText at h ⊢
  rw [hts] at h ⊢
  obtain ⟨before, x, gap, hbefore, hx, hgap, rfl⟩ := spelled_concat_iff.mp h
  have hclose : ∃ close, (close = ']' ∨ close = '\x7d') ∧ x = [close] := by
    rcases ht with rfl | rfl
    · cases hx
      exact ⟨']', .inl rfl, rfl⟩
    · cases hx
      exact ⟨'\x7d', .inr rfl, rfl⟩
  obtain ⟨close, hclose, rfl⟩ := hclose
  refine ⟨before, close, gap, hclose, hgap, ?_, fun other hother => ?_⟩
  · rw [List.append_assoc, List.singleton_append]
  · exact spelled_concat_iff.mpr ⟨before, [close], other, hbefore, hx, hother, by
      rw [List.append_assoc, List.singleton_append]⟩

end PresetBuild.Json
