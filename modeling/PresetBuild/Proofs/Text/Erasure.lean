import PresetBuild.Proofs.Text.Utf8
import PresetBuild.Text.Ink

/-!
# Codes erased

The sequences that switch colours on and off are codes in a text. Erasing them goes through the text
once, from left to right: where a code stands, all of it goes, and where none does, one character
stays (`Erased`). What the characters left over spell is not looked at again, so erasing `ESC[3`, a
reset and `6m` leaves a sequence that was not there before. `erase` is the computation, and has one
outcome for each text (`erase_eq_iff`).

Two texts one behind the other can be erased apart if no code begins in the first and ends in the
second (`Parts`). Every code begins with one mark that it holds nowhere else, and none begins
another (`Marked`), so codes never overlap, and what begins with the mark parts from whatever is
before it. With that, painting a text changes nothing once the codes are erased (`erase_paint`),
whatever codes and pieces of codes are in it: a colour is opened again only behind a whole reset.

The same is done to bytes, where what programs write stands among the text (`erase_encode`).
-/

namespace PresetBuild.Text

variable {α : Type}

/-! ## Erasing -/

/-- **Erasing codes** in one pass from left to right: a text and what is left of it. -/
inductive Erased (codes : List (List α)) : List α → List α → Prop
  | nil : Erased codes [] []
  | code {code rest left : List α} (known : code ∈ codes) (next : Erased codes rest left) :
      Erased codes (code ++ rest) left
  | keep {c : α} {rest left : List α} (bare : ∀ code ∈ codes, ¬code <+: c :: rest)
      (next : Erased codes rest left) : Erased codes (c :: rest) (c :: left)

/-- **Codes that no text confuses**: they begin with a mark, hold it nowhere else, and none is the
beginning of another. -/
structure Marked (mark : α) (codes : List (List α)) : Prop where
  begins : ∀ code ∈ codes, code.head? = some mark
  once : ∀ code ∈ codes, mark ∉ code.tail
  apart : ∀ x ∈ codes, ∀ y ∈ codes, x <+: y → x = y

/-- **Texts that part**: a code that begins in the first ends there, whatever stands behind it. -/
def Parts (codes : List (List α)) (front back : List α) : Prop :=
  ∀ code ∈ codes, ∀ rest, rest ≠ [] → rest <:+ front → code <+: rest ++ back → code <+: rest

section Computed

variable [DecidableEq α]

/-- What is left of a text, the first `passed` characters of which belong to a code. -/
def eraseFrom (codes : List (List α)) : Nat → List α → List α
  | _, [] => []
  | passed + 1, _ :: rest => eraseFrom codes passed rest
  | 0, c :: rest =>
    match codes.find? (·.isPrefixOf (c :: rest)) with
    | some code => eraseFrom codes (code.length - 1) rest
    | none => c :: eraseFrom codes 0 rest

/-- **What is left of a text** when its codes are erased. -/
def erase (codes : List (List α)) (text : List α) : List α :=
  eraseFrom codes 0 text

end Computed

variable {mark : α} {codes : List (List α)} {front back rest left : List α}

theorem Marked.exists_tail (h : Marked mark codes) {code : List α} (known : code ∈ codes) :
    ∃ tail, code = mark :: tail ∧ mark ∉ tail := by
  have hhead := h.begins code known
  have honce := h.once code known
  cases code with
  | nil => cases hhead
  | cons c tail =>
    cases hhead
    exact ⟨tail, rfl, honce⟩

section Computed

variable [DecidableEq α]

/-- What is computed is what erasing leaves. -/
theorem Marked.erased_eraseFrom (h : Marked mark codes) (passed : Nat) (text : List α) :
    Erased codes (text.drop passed) (eraseFrom codes passed text) := by
  fun_induction eraseFrom codes passed text with
  | case1 => simpa using Erased.nil
  | case2 passed c rest ih => simpa using ih
  | case3 c rest code found ih =>
    have hknown := List.mem_of_find?_eq_some found
    have hprefix : code <+: c :: rest := by
      simpa using List.find?_some found
    obtain ⟨tail, rfl, -⟩ := h.exists_tail hknown
    obtain ⟨more, hmore⟩ := hprefix
    obtain ⟨rfl, rfl⟩ := List.cons.inj hmore
    simpa using Erased.code hknown (by simpa using ih)
  | case4 c rest found ih =>
    refine .keep (fun code known hprefix => ?_) (by simpa using ih)
    have hnone := List.find?_eq_none.mp found code known
    exact hnone (by simpa using hprefix)

theorem eraseFrom_append (tail rest : List α) :
    eraseFrom codes tail.length (tail ++ rest) = erase codes rest := by
  induction tail with
  | nil => rfl
  | cons c tail ih => exact ih

/-- **Erasing has the outcome that is computed**, and no other. -/
theorem Marked.erase_eq_iff (h : Marked mark codes) {text : List α} :
    erase codes text = left ↔ Erased codes text left := by
  refine ⟨fun heq => heq ▸ h.erased_eraseFrom 0 text, fun herased => ?_⟩
  induction herased with
  | nil => rfl
  | @code code rest left known next ih =>
    obtain ⟨tail, rfl, -⟩ := h.exists_tail known
    -- the code found at its own place is the code itself
    have hfound : codes.find? (·.isPrefixOf (mark :: tail ++ rest)) = some (mark :: tail) := by
      cases hfind : codes.find? (·.isPrefixOf (mark :: tail ++ rest)) with
      | none =>
        have hnone := List.find?_eq_none.mp hfind _ known
        simp at hnone
      | some other =>
        have hknown := List.mem_of_find?_eq_some hfind
        have hprefix : other <+: mark :: tail ++ rest := by
          simpa using List.find?_some hfind
        rcases List.prefix_or_prefix_of_prefix hprefix (List.prefix_append _ _) with hle | hle
        · rw [h.apart _ hknown _ known hle]
        · rw [h.apart _ known _ hknown hle]
    rw [← ih, erase, List.cons_append, eraseFrom, ← List.cons_append, hfound]
    exact eraseFrom_append tail rest
  | @keep c rest left bare next ih =>
    have hfound : codes.find? (·.isPrefixOf (c :: rest)) = none := by
      rw [List.find?_eq_none]
      intro code known
      simpa using bare code known
    rw [← ih, erase, eraseFrom, hfound]
    rfl

end Computed

/-! ## Texts one behind the other -/

theorem Parts.of_append (more : List α) (h : Parts codes (more ++ front) back) :
    Parts codes front back :=
  fun code known rest hne hsuffix =>
    h code known rest hne (hsuffix.trans (List.suffix_append more front))

/-- **Texts that part are erased apart**, by induction on the first. -/
theorem Erased.append {left' : List α} (hfront : Erased codes front left)
    (hback : Erased codes back left') (parts : Parts codes front back) :
    Erased codes (front ++ back) (left ++ left') := by
  induction hfront with
  | nil => exact hback
  | code known next ih =>
    rw [List.append_assoc]
    exact .code known (ih (parts.of_append _))
  | @keep c rest left bare next ih =>
    refine .keep (fun code known hprefix => bare code known ?_) (ih (parts.of_append [c]))
    exact parts code known (c :: rest) (List.cons_ne_nil _ _) (List.suffix_refl _) hprefix

/-- A code that reaches into what is behind holds its first character, and not as its own first. -/
theorem parts_of_head (h : ∀ c ∈ back.head?, ∀ code ∈ codes, c ∉ code.tail) :
    Parts codes front back := by
  rintro code known rest hne - ⟨more, hmore⟩
  rcases List.append_eq_append_iff.mp hmore with ⟨beyond, rfl, -⟩ | ⟨beyond, rfl, hback⟩
  · exact List.prefix_append _ _
  · cases beyond with
    | nil => simp
    | cons c beyond =>
      refine absurd ?_ (h c (by simp [hback]) _ known)
      obtain ⟨d, rest, rfl⟩ := List.exists_cons_of_ne_nil hne
      simp

/-- A code that reaches beyond what is in front holds its last character. -/
theorem parts_of_last (h : ∀ c ∈ front.getLast?, ∀ code ∈ codes, c ∉ code) :
    Parts codes front back := by
  rintro code known rest hne ⟨before, rfl⟩ ⟨more, hmore⟩
  rcases List.append_eq_append_iff.mp hmore with ⟨beyond, rfl, -⟩ | ⟨beyond, rfl, -⟩
  · exact List.prefix_append _ _
  · refine absurd ?_ (h (rest.getLast hne) ?_ _ known)
    · exact List.mem_append_left _ (List.getLast_mem hne)
    · simp [List.getLast?_append, List.getLast?_eq_some_getLast hne]

/-- **What begins with the mark parts from whatever is before it.** -/
theorem Marked.parts (h : Marked mark codes) : Parts codes front (mark :: back) := by
  apply parts_of_head
  intro c hc code known
  cases hc
  exact h.once code known

/-- Characters that are not the mark stay in front of what is left. -/
theorem Marked.erased_append (h : Marked mark codes) {plain : List α} (unmarked : mark ∉ plain)
    (next : Erased codes rest left) : Erased codes (plain ++ rest) (plain ++ left) := by
  induction plain with
  | nil => exact next
  | cons c plain ih =>
    obtain ⟨hc, hplain⟩ := not_or.mp fun hmem => unmarked (List.mem_cons.mpr hmem)
    refine .keep (fun code known hprefix => ?_) (ih hplain)
    obtain ⟨tail, rfl, -⟩ := h.exists_tail known
    exact hc (List.cons_prefix_cons.mp hprefix).1

theorem Marked.erase_append [DecidableEq α] (h : Marked mark codes)
    (parts : Parts codes front back) :
    erase codes (front ++ back) = erase codes front ++ erase codes back :=
  h.erase_eq_iff.mpr ((h.erase_eq_iff.mp rfl).append (h.erase_eq_iff.mp rfl) parts)

/-! ## The codes of colours -/

/-- **The sequences in use**: those that switch a colour on, and the one that switches all off. -/
def inkCodes : List (List Char) :=
  ["\x1b[31m".toList, "\x1b[32m".toList, "\x1b[33m".toList, "\x1b[36m".toList,
    "\x1b[1;33m".toList, "\x1b[0m".toList]

theorem inkCodes_marked : Marked '\x1b' inkCodes where
  begins := by decide
  once := by decide
  apart := by decide

theorem opening_mem (ink : Ink) : ink.opening ∈ inkCodes := by
  cases ink <;> decide

theorem reset_mem : reset ∈ inkCodes := by
  decide

/-! ## Painted text -/

variable {ink : Ink} {text tail : List Char} {c : Char}

/-- Where no reset begins, a character is left as it is. -/
theorem reopen_cons (h : ¬reset <+: c :: text) : ink.reopen (c :: text) = c :: ink.reopen text := by
  rw [Ink.reopen.eq_def]
  split
  · next heq => exact absurd ⟨_, heq.symm⟩ h
  · next heq =>
    cases heq
    rfl
  · next heq => cases heq

/-- A code that is not the reset is left as it is. -/
theorem reopen_code {code : List Char} (known : code ∈ inkCodes) (other : code ≠ reset)
    (rest : List Char) : ink.reopen (code ++ rest) = code ++ ink.reopen rest := by
  simp only [inkCodes, List.mem_cons, List.not_mem_nil, or_false] at known
  rcases known with rfl | rfl | rfl | rfl | rfl | rfl
  · rfl
  · rfl
  · rfl
  · rfl
  · rfl
  · exact absurd rfl other

/-- Up to the first mark, a text is left as it is. -/
theorem prefix_reopen_iff (unmarked : '\x1b' ∉ tail) :
    tail <+: ink.reopen text ↔ tail <+: text := by
  induction tail generalizing text with
  | nil => simp
  | cons t tail ih =>
    obtain ⟨ht, htail⟩ := not_or.mp fun hmem => unmarked (List.mem_cons.mpr hmem)
    cases text with
    | nil => simp [Ink.reopen]
    | cons c text =>
      by_cases hreset : reset <+: c :: text
      · -- both texts begin with the mark
        obtain ⟨rest, hrest⟩ := hreset
        have hmark : ∀ {rest}, ¬t :: tail <+: '\x1b' :: rest := fun h =>
          ht (List.cons_prefix_cons.mp h).1.symm
        rw [← hrest]
        exact iff_of_false hmark hmark
      · rw [reopen_cons hreset, List.cons_prefix_cons, List.cons_prefix_cons, ih htail]

/-- **Opening the colour again behind each reset changes nothing of what is left**, by induction on
what is erased: each code stays where it was, a reset with an opening behind it, and no new code
comes about. -/
theorem Erased.reopen {left : List Char} (h : Erased inkCodes text left) (ink : Ink) :
    Erased inkCodes (ink.reopen text) left := by
  induction h with
  | nil => exact .nil
  | @code code rest left known next ih =>
    by_cases hreset : code = reset
    · subst hreset
      show Erased inkCodes (reset ++ ink.opening ++ ink.reopen rest) left
      rw [List.append_assoc]
      exact .code reset_mem (.code (opening_mem ink) ih)
    · rw [reopen_code known hreset]
      exact .code known ih
  | @keep c rest left bare next ih =>
    rw [reopen_cons (bare reset reset_mem)]
    refine .keep (fun code known hprefix => bare code known ?_) ih
    obtain ⟨tail, rfl, honce⟩ := inkCodes_marked.exists_tail known
    obtain ⟨hc, htail⟩ := List.cons_prefix_cons.mp hprefix
    exact List.cons_prefix_cons.mpr ⟨hc, (prefix_reopen_iff honce).mp htail⟩

/-- **Paint leaves nothing behind when the codes are erased**, whatever codes and pieces of codes
the text has in it. -/
theorem erase_paint (ink : Ink) (color : Bool) (text : List Char) :
    erase inkCodes (ink.paint color text) = erase inkCodes text := by
  cases color with
  | false => rfl
  | true =>
    have htext : Erased inkCodes text (erase inkCodes text) := inkCodes_marked.erase_eq_iff.mp rfl
    have hreset : Erased inkCodes reset [] := .code reset_mem .nil
    have hpainted := (htext.reopen ink).append hreset inkCodes_marked.parts
    rw [inkCodes_marked.erase_eq_iff]
    show Erased inkCodes (ink.opening ++ ink.reopen text ++ reset) _
    rw [List.append_assoc, ← List.append_nil (erase inkCodes text)]
    exact .code (opening_mem ink) hpainted

/-- A reset between the halves of a sequence: the halves stay, and join. -/
example : erase inkCodes (Ink.cyan.paint true "\x1b[3\x1b[0m6m".toList) = "\x1b[36m".toList := by
  decide

/-! ## Bytes -/

/-- The sequences in use, as bytes. -/
def inkBytes : List (List UInt8) :=
  inkCodes.map Utf8.encode

theorem inkBytes_marked : Marked 0x1b inkBytes where
  begins := by decide +kernel
  once := by decide +kernel
  apart := by decide +kernel

/-- The bytes of a character behind its first are no ASCII. -/
theorem le_of_mem_tail_byteNumbers {n b : Nat} (h : b ∈ (Utf8.byteNumbers n).tail) : 0x80 ≤ b := by
  rcases Utf8.byteNumbers_cases n with ⟨-, hone⟩ | ⟨first, others, hmany, -, hothers⟩
  · rw [hone] at h
    cases h
  · rw [hmany] at h
    exact hothers b h

/-- Behind the first byte of a character there is no mark. -/
theorem mark_not_mem_tail (c : Char) : (0x1b : UInt8) ∉ (String.utf8EncodeChar c).tail := by
  intro hmem
  have hnumber : (0x1b : UInt8).toNat ∈ (Utf8.byteNumbers c.toNat).tail := by
    rw [← Utf8.map_toNat_utf8EncodeChar, ← List.map_tail]
    exact List.mem_map_of_mem hmem
  exact absurd (le_of_mem_tail_byteNumbers hnumber) (by decide)

/-- **Erasing codes from a text is erasing them from its bytes.** -/
theorem Erased.encode {left : List Char} (h : Erased inkCodes text left) :
    Erased inkBytes (Utf8.encode text) (Utf8.encode left) := by
  induction h with
  | nil => exact .nil
  | code known next ih =>
    rw [Utf8.encode_append]
    exact .code (List.mem_map_of_mem known) ih
  | @keep c rest left bare next ih =>
    have hbegins : ∀ code ∈ inkBytes, ¬code <+: Utf8.encode (c :: rest) := by
      rintro code known ⟨more, hmore⟩
      obtain ⟨chars, hchars, rfl⟩ := List.mem_map.mp known
      obtain ⟨back, hback, -⟩ := Utf8.encode_eq_append_iff.mp hmore.symm
      exact bare chars hchars ⟨back, hback.symm⟩
    rw [Utf8.encode_cons] at hbegins
    rw [Utf8.encode_cons, Utf8.encode_cons]
    have htail := mark_not_mem_tail c
    cases hbytes : String.utf8EncodeChar c with
    | nil => exact absurd hbytes String.utf8EncodeChar_ne_nil
    | cons b bytes =>
      rw [hbytes] at hbegins htail
      exact .keep hbegins (inkBytes_marked.erased_append htail ih)

theorem erase_encode (text : List Char) :
    erase inkBytes (Utf8.encode text) = Utf8.encode (erase inkCodes text) :=
  inkBytes_marked.erase_eq_iff.mpr (inkCodes_marked.erase_eq_iff.mp rfl).encode

end PresetBuild.Text
