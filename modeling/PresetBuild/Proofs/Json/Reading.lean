import PresetBuild.Proofs.Json.Scanner.Complete

/-!
# Values are read from their own tokens

The reader takes the tokens of a value, and no others (`Value.ofTokens?_eq_some_iff`). With the
scanner on the one side of it, a text holds a value exactly where it is a text of the value
(`Value.ofText?_eq_some_iff`).

Where the reader stands determines the tokens behind it (`Reader.consumed`), and each token adds
itself to them. Behind a whole value, with nothing left open, they are the value's. Conversely the
tokens of a value take the reader from before a value to behind it, whatever its stack, by an
induction on the value that has a case for each of the five ways in which tokens are written.
-/

namespace PresetBuild.Json

variable {r r' : Reader} {t : Token} {ts : List Token} {v : Value} {stack : List Frame}

/-! ## The tokens behind the reader -/

/-- The tokens of elements that more will follow. -/
def elementsBefore (vs : List Value) : List Token :=
  vs.flatMap fun v => v.tokens ++ [.comma]

/-- The tokens of a member. -/
def tokensOfMember (m : Written × Value) : List Token :=
  .string m.1 :: .colon :: m.2.tokens

/-- The tokens of members that more will follow. -/
def membersBefore (ms : List (Written × Value)) : List Token :=
  ms.flatMap fun m => tokensOfMember m ++ [.comma]

/-- The tokens of an array or object up to the value that is being read. -/
def Frame.consumed : Frame → List Token
  | .array before => .openArray :: elementsBefore before.reverse
  | .object before key => .openObject :: membersBefore before.reverse ++ [.string key, .colon]

/-- The tokens of all that the reader stands inside. -/
def stackConsumed (stack : List Frame) : List Token :=
  stack.reverse.flatMap Frame.consumed

/-- **The tokens behind the reader.** -/
def Reader.consumed : Reader → List Token
  | .value stack => stackConsumed stack
  | .element stack => stackConsumed stack ++ [.openArray]
  | .member stack => stackConsumed stack ++ [.openObject]
  | .key stack before => stackConsumed stack ++ .openObject :: membersBefore before.reverse
  | .colon stack before k =>
    stackConsumed stack ++ .openObject :: membersBefore before.reverse ++ [.string k]
  | .after stack v => stackConsumed stack ++ v.tokens

theorem stackConsumed_cons (f : Frame) (stack : List Frame) :
    stackConsumed (f :: stack) = stackConsumed stack ++ f.consumed := by
  unfold stackConsumed
  rw [List.reverse_cons, List.flatMap_append, List.flatMap_singleton]

theorem elementsBefore_cons (v : Value) (before : List Value) :
    elementsBefore (v :: before).reverse =
      elementsBefore before.reverse ++ v.tokens ++ [.comma] := by
  unfold elementsBefore
  rw [List.reverse_cons, List.flatMap_append, List.flatMap_singleton, List.append_assoc]

theorem membersBefore_cons (m : Written × Value) (before : List (Written × Value)) :
    membersBefore (m :: before).reverse =
      membersBefore before.reverse ++ tokensOfMember m ++ [.comma] := by
  unfold membersBefore
  rw [List.reverse_cons, List.flatMap_append, List.flatMap_singleton, List.append_assoc]

theorem furtherElementTokens_concat (vs : List Value) (v : Value) :
    .comma :: elementsBefore vs ++ v.tokens ++ [.closeArray] =
      furtherElementTokens (vs ++ [v]) := by
  induction vs with
  | nil => rfl
  | cons first vs ih =>
    show _ = .comma :: first.tokens ++ furtherElementTokens (vs ++ [v])
    unfold elementsBefore at ih ⊢
    rw [← ih, List.flatMap_cons]
    simp only [List.cons_append, List.append_assoc, List.nil_append]

theorem elementTokens_concat (vs : List Value) (v : Value) :
    elementTokens (vs ++ [v]) = elementsBefore vs ++ v.tokens ++ [.closeArray] := by
  cases vs with
  | nil => rfl
  | cons first vs =>
    show first.tokens ++ furtherElementTokens (vs ++ [v]) = _
    rw [← furtherElementTokens_concat]
    unfold elementsBefore
    rw [List.flatMap_cons]
    simp only [List.cons_append, List.append_assoc, List.nil_append]

theorem furtherMemberTokens_concat (ms : List (Written × Value)) (m : Written × Value) :
    .comma :: membersBefore ms ++ tokensOfMember m ++ [.closeObject] =
      furtherMemberTokens (ms ++ [m]) := by
  induction ms with
  | nil => rfl
  | cons first ms ih =>
    show _ = .comma :: tokensOfMember first ++ furtherMemberTokens (ms ++ [m])
    unfold membersBefore at ih ⊢
    rw [← ih, List.flatMap_cons]
    simp only [tokensOfMember, List.cons_append, List.append_assoc, List.nil_append]

theorem memberTokens_concat (ms : List (Written × Value)) (m : Written × Value) :
    memberTokens (ms ++ [m]) = membersBefore ms ++ tokensOfMember m ++ [.closeObject] := by
  cases ms with
  | nil => rfl
  | cons first ms =>
    show tokensOfMember first ++ furtherMemberTokens (ms ++ [m]) = _
    rw [← furtherMemberTokens_concat]
    unfold membersBefore
    rw [List.flatMap_cons]
    simp only [tokensOfMember, List.cons_append, List.append_assoc, List.nil_append]

namespace Reader

/-- A token that begins a value. -/
theorem begin?_consumed (h : begin? stack t = some r) :
    r.consumed = stackConsumed stack ++ [t] := by
  unfold begin? at h
  split at h
  · cases h
    rfl
  · cases h
    rfl
  · cases h
    rfl
  · cases h
    rfl
  · cases h
    rfl
  · cases h
    rfl
  · cases h

/-- A token behind a value inside an array or object. -/
theorem resume?_consumed {f : Frame} (h : resume? stack v f t = some r) :
    r.consumed = stackConsumed stack ++ f.consumed ++ v.tokens ++ [t] := by
  unfold resume? at h
  split at h
  · cases h
    show stackConsumed _ = _
    rw [stackConsumed_cons, Frame.consumed, Frame.consumed, elementsBefore_cons]
    simp only [List.cons_append, List.append_assoc]
  · next before =>
    cases h
    show _ ++ Value.tokens _ = _
    rw [Value.tokens, List.reverse_cons, elementTokens_concat, Frame.consumed]
    simp only [List.cons_append, List.append_assoc]
  · next before k =>
    cases h
    show _ ++ .openObject :: membersBefore _ = _
    rw [membersBefore_cons, Frame.consumed, tokensOfMember]
    simp only [List.cons_append, List.append_assoc, List.nil_append]
  · next before k =>
    cases h
    show _ ++ Value.tokens _ = _
    rw [Value.tokens, List.reverse_cons, memberTokens_concat, Frame.consumed, tokensOfMember]
    simp only [List.cons_append, List.append_assoc, List.nil_append]
  · cases h

/-- **One token** is added to those behind the reader. -/
theorem step?_consumed (h : r.step? t = some r') : r'.consumed = r.consumed ++ [t] := by
  unfold step? at h
  split at h
  · exact begin?_consumed h
  · cases h
    show _ ++ Value.tokens _ = _
    simp only [consumed, Value.tokens, elementTokens, List.append_assoc, List.cons_append,
      List.nil_append]
  · rw [begin?_consumed h, stackConsumed_cons]
    rfl
  · cases h
    show _ ++ Value.tokens _ = _
    simp only [consumed, Value.tokens, memberTokens, List.append_assoc, List.cons_append,
      List.nil_append]
  · cases h
    simp only [consumed, membersBefore, List.reverse_nil, List.flatMap_nil, List.append_assoc,
      List.cons_append, List.nil_append]
  · cases h
    rfl
  · cases h
    simp only [consumed, stackConsumed_cons, Frame.consumed, List.append_assoc, List.cons_append,
      List.nil_append]
  · rw [resume?_consumed h, consumed, stackConsumed_cons]
  · cases h

theorem run?_consumed (h : run? r ts = some r') : r'.consumed = r.consumed ++ ts := by
  induction ts generalizing r with
  | nil =>
    cases h
    exact (List.append_nil _).symm
  | cons t ts ih =>
    unfold run? at h
    split at h
    · cases h
    · next between hstep =>
      rw [ih h, step?_consumed hstep, List.append_assoc]
      rfl

end Reader

/-- **A value that is read from tokens has those tokens.** -/
theorem tokens_of_ofTokens (h : Value.ofTokens? ts = some v) : v.tokens = ts := by
  unfold Value.ofTokens? at h
  split at h
  · next r hrun =>
    unfold Reader.finish? at h
    split at h
    · cases h
      exact Reader.run?_consumed hrun
    · cases h
  · cases h

/-! ## The tokens before the reader -/

namespace Reader

/-- The tokens of a value do not close an array, so they begin its first element. -/
theorem run?_element (v : Value) (rest : List Token) :
    run? (.element stack) (v.tokens ++ rest) =
      run? (.value (.array [] :: stack)) (v.tokens ++ rest) := by
  cases v <;> rfl

mutual

/-- **The tokens of a value take the reader behind it.** -/
theorem run?_tokens (v : Value) (stack : List Frame) (rest : List Token) :
    run? (.value stack) (v.tokens ++ rest) = run? (.after stack v) rest := by
  match v with
  | .null => rfl
  | .bool _ => rfl
  | .number => rfl
  | .string _ => rfl
  | .array es => exact run?_elementTokens es stack rest
  | .object ms => exact run?_memberTokens ms stack rest

theorem run?_elementTokens (vs : List Value) (stack : List Frame) (rest : List Token) :
    run? (.element stack) (elementTokens vs ++ rest) = run? (.after stack (.array vs)) rest := by
  match vs with
  | [] => rfl
  | v :: vs =>
    rw [elementTokens, List.append_assoc, run?_element, run?_tokens v, run?_furtherElementTokens vs]
    rfl

theorem run?_furtherElementTokens (vs : List Value) (stack : List Frame) (before : List Value)
    (v : Value) (rest : List Token) :
    run? (.after (.array before :: stack) v) (furtherElementTokens vs ++ rest) =
      run? (.after stack (.array ((v :: before).reverse ++ vs))) rest := by
  match vs with
  | [] =>
    rw [List.append_nil]
    rfl
  | w :: vs =>
    show run? (.value (.array (v :: before) :: stack))
      (w.tokens ++ furtherElementTokens vs ++ rest) = _
    rw [List.append_assoc, run?_tokens w, run?_furtherElementTokens vs, List.reverse_cons,
      List.append_assoc]
    rfl

theorem run?_memberTokens (ms : List (Written × Value)) (stack : List Frame)
    (rest : List Token) :
    run? (.member stack) (memberTokens ms ++ rest) = run? (.after stack (.object ms)) rest := by
  match ms with
  | [] => rfl
  | (k, v) :: ms =>
    show run? (.value (.object [] k :: stack)) (v.tokens ++ furtherMemberTokens ms ++ rest) = _
    rw [List.append_assoc, run?_tokens v, run?_furtherMemberTokens ms]
    rfl

theorem run?_furtherMemberTokens (ms : List (Written × Value)) (stack : List Frame)
    (before : List (Written × Value)) (k : Written) (v : Value) (rest : List Token) :
    run? (.after (.object before k :: stack) v) (furtherMemberTokens ms ++ rest) =
      run? (.after stack (.object (((k, v) :: before).reverse ++ ms))) rest := by
  match ms with
  | [] =>
    rw [List.append_nil]
    rfl
  | (k', w) :: ms =>
    show run? (.value (.object ((k, v) :: before) k' :: stack))
      (w.tokens ++ furtherMemberTokens ms ++ rest) = _
    rw [List.append_assoc, run?_tokens w, run?_furtherMemberTokens ms, List.reverse_cons,
      List.append_assoc]
    rfl

end

end Reader

/-- **The reader takes the tokens of a value, and no others.** -/
theorem Value.ofTokens?_eq_some_iff : Value.ofTokens? ts = some v ↔ v.tokens = ts := by
  refine ⟨tokens_of_ofTokens, ?_⟩
  rintro rfl
  have hrun := Reader.run?_tokens v [] []
  rw [List.append_nil] at hrun
  rw [Value.ofTokens?, hrun]
  rfl

/-! ## Numbers among the tokens of a value -/

theorem head?_furtherElementTokens (vs : List Value) (rest : List Token) :
    (furtherElementTokens vs ++ rest).head? ≠ some .number := by
  cases vs <;> exact nofun

theorem head?_furtherMemberTokens (ms : List (Written × Value)) (rest : List Token) :
    (furtherMemberTokens ms ++ rest).head? ≠ some .number := by
  cases ms <;> exact nofun

theorem Apart.cons (ht : t ≠ .number) (h : Apart ts) : Apart (t :: ts) :=
  ⟨fun hn => absurd hn ht, h⟩

mutual

/-- No number stands directly behind a number in the tokens of a value, whatever comes behind them.
-/
theorem Value.apart_tokens (v : Value) (rest : List Token) (hrest : Apart rest)
    (hhead : rest.head? ≠ some .number) : Apart (v.tokens ++ rest) := by
  match v with
  | .null => exact hrest.cons nofun
  | .bool _ => exact hrest.cons nofun
  | .number => exact ⟨fun _ => hhead, hrest⟩
  | .string _ => exact hrest.cons nofun
  | .array es => exact (apart_elementTokens es rest hrest).cons nofun
  | .object ms => exact (apart_memberTokens ms rest hrest).cons nofun

theorem apart_elementTokens (vs : List Value) (rest : List Token) (hrest : Apart rest) :
    Apart (elementTokens vs ++ rest) := by
  match vs with
  | [] => exact hrest.cons nofun
  | v :: vs =>
    rw [elementTokens, List.append_assoc]
    exact v.apart_tokens _ (apart_furtherElementTokens vs rest hrest)
      (head?_furtherElementTokens vs rest)

theorem apart_furtherElementTokens (vs : List Value) (rest : List Token) (hrest : Apart rest) :
    Apart (furtherElementTokens vs ++ rest) := by
  match vs with
  | [] => exact hrest.cons nofun
  | v :: vs =>
    show Apart (.comma :: (v.tokens ++ furtherElementTokens vs ++ rest))
    rw [List.append_assoc]
    refine Apart.cons nofun ?_
    exact v.apart_tokens _ (apart_furtherElementTokens vs rest hrest)
      (head?_furtherElementTokens vs rest)

theorem apart_memberTokens (ms : List (Written × Value)) (rest : List Token)
    (hrest : Apart rest) : Apart (memberTokens ms ++ rest) := by
  match ms with
  | [] => exact hrest.cons nofun
  | (k, v) :: ms =>
    show Apart (.string k :: .colon :: (v.tokens ++ furtherMemberTokens ms ++ rest))
    rw [List.append_assoc]
    refine Apart.cons nofun (Apart.cons nofun ?_)
    exact v.apart_tokens _ (apart_furtherMemberTokens ms rest hrest)
      (head?_furtherMemberTokens ms rest)

theorem apart_furtherMemberTokens (ms : List (Written × Value)) (rest : List Token)
    (hrest : Apart rest) : Apart (furtherMemberTokens ms ++ rest) := by
  match ms with
  | [] => exact hrest.cons nofun
  | (k, v) :: ms =>
    show Apart (.comma :: .string k :: .colon :: (v.tokens ++ furtherMemberTokens ms ++ rest))
    rw [List.append_assoc]
    refine Apart.cons nofun (Apart.cons nofun (Apart.cons nofun ?_))
    exact v.apart_tokens _ (apart_furtherMemberTokens ms rest hrest)
      (head?_furtherMemberTokens ms rest)

end

/-- **A text holds a value exactly where it is a text of the value.** -/
theorem Value.ofText?_eq_some_iff {text : List Char} :
    Value.ofText? text = some v ↔ JsonText v text := by
  constructor
  · intro h
    unfold Value.ofText? at h
    split at h
    · next ts htokens =>
      unfold JsonText
      rw [tokens_of_ofTokens h]
      exact spelled_of_tokens htokens
    · cases h
  · intro h
    have hapart := v.apart_tokens [] trivial nofun
    rw [List.append_nil] at hapart
    rw [Value.ofText?, tokens_of_spelled h hapart]
    exact Value.ofTokens?_eq_some_iff.mpr rfl

end PresetBuild.Json
