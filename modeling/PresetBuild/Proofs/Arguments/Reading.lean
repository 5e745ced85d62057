import PresetBuild.Proofs.Arguments.Interleaving

/-!
# Readings side by side

Two readings of a command line are followed side by side, one of which has read a word more. The
word is among those that wait or among those that were taken in, and in all else the two are alike
(`Reading.Gains`). One argument more for both keeps them so, or ends both for the same reason
(`Reading.Gains.read`), and by induction so does all that follows (`Reading.Gains.readFrom`). What
can still set them apart is the wording of a mistake: it names the flag that the mistake was made
with, and tells whether anything was given before.

From this follows what a word more among some arguments comes to (`Reading.readFrom_insert`): it is
given among the other words, unless it stands right behind a `--completions` that lacks its value.
Behind two dashes alone that is a word itself, and lacks nothing. Where a name that is no shell's is
waiting, neither reading gets past it.
-/

namespace PresetBuild

open Arguments (Given Look Reading Stop UsageError Waiting)

namespace Arguments

variable {α β γ δ : Type}

/-- **Two readings that come to the same**: both go on, to what is related as said, or both end, for
the same reason. One mistake is as good a reason as another. -/
inductive Alike (R : α → β → Prop) : Except Stop α → Except Stop β → Prop
  | ok {a : α} {b : β} (related : R a b) : Alike R (.ok a) (.ok b)
  | stopped (stop : Stop) : Alike R (.error stop) (.error stop)
  | mistaken (e e' : UsageError) : Alike R (.error (.mistake e)) (.error (.mistake e'))

theorem Alike.map {R : α → β → Prop} {S : γ → δ → Prop} {x : Except Stop α} {y : Except Stop β}
    {f : α → γ} {g : β → δ} (h : Alike R x y) (next : ∀ a b, R a b → S (f a) (g b)) :
    Alike S (x.map f) (y.map g) := by
  cases h with
  | ok related => exact .ok (next _ _ related)
  | stopped stop => exact .stopped stop
  | mistaken e e' => exact .mistaken e e'

/-- **What is given, and what is given with one word more.** -/
structure Given.Gains (text : String) (g g' : Given) : Prop where
  words : ∃ earlier later, g.words = earlier ++ later ∧ g'.words = earlier ++ text :: later
  switches : g'.switches = g.switches
  shell : g'.shell = g.shell

/-- **Two readings, of which the second has read one word more**: it was taken in, or it waits. -/
inductive Reading.Gains (text : String) : Reading → Reading → Prop
  | taken {g g' : Given} (given : g.Gains text g') (waiting : Waiting) (wordsOnly : Bool) :
      Gains text ⟨g, waiting, wordsOnly⟩ ⟨g', waiting, wordsOnly⟩
  | waits {r r' : Reading} {g g' : Given} (settled : r.settled = .ok g)
      (settled' : r'.settled = .ok g') (given : g.Gains text g')
      (wordsOnly : r'.wordsOnly = r.wordsOnly) : Gains text r r'

variable {text : String} {g g' : Given} {r r' : Reading}

/-! ## What is given -/

/-- One word more behind all others. -/
theorem Given.gains_addWords (g : Given) (text : String) : g.Gains text (g.addWords [text]) :=
  ⟨⟨g.words, [], (List.append_nil _).symm, rfl⟩, rfl, rfl⟩

theorem Given.Gains.addWords (h : g.Gains text g') (words : List String) :
    (g.addWords words).Gains text (g'.addWords words) := by
  obtain ⟨earlier, later, hwords, hwords'⟩ := h.words
  refine ⟨⟨earlier, later ++ words, ?_, ?_⟩, h.switches, h.shell⟩
  · show g.words ++ words = _
    rw [hwords, List.append_assoc]
  · show g'.words ++ words = _
    rw [hwords', List.append_assoc]
    rfl

theorem Given.Gains.addSwitch (h : g.Gains text g') (s : Switch) :
    Alike (Given.Gains text) (g.addSwitch s) (g'.addSwitch s) := by
  unfold Given.addSwitch
  rw [h.switches]
  split
  · exact .stopped _
  · exact .ok ⟨h.words, rfl, h.shell⟩

theorem Given.Gains.nameShell (h : g.Gains text g') (name : String) :
    Alike (Given.Gains text) (g.nameShell name) (g'.nameShell name) := by
  unfold Given.nameShell
  rw [h.shell]
  split
  · exact .stopped _
  · split
    · exact .stopped _
    · cases Shell.ofName? name with
      | none => exact .stopped _
      | some s => exact .ok ⟨h.words, h.switches, rfl⟩

theorem Given.Gains.settle (h : g.Gains text g') (waiting : Waiting) :
    Alike (Given.Gains text) (g.settle waiting) (g'.settle waiting) := by
  cases waiting with
  | words words => exact .ok (h.addWords words)
  | shell name =>
    cases name with
    | none => exact .stopped _
    | some name => exact h.nameShell name

/-! ## One argument -/

/-- A word behind a reading that can be settled is given behind what that gives. -/
theorem Reading.word_of_settled (h : r.settled = .ok g) (word : String) :
    ∃ next, r.word word = .ok next ∧ next.settled = .ok (g.addWords [word]) ∧
      next.wordsOnly = r.wordsOnly := by
  obtain ⟨given, waiting, wordsOnly⟩ := r
  cases waiting with
  | words words =>
    cases h
    refine ⟨_, rfl, ?_, rfl⟩
    exact congrArg Except.ok (congrArg (Given.mk · _ _) (List.append_assoc _ _ _).symm)
  | shell name =>
    cases name with
    | none => cases h
    | some name =>
      refine ⟨⟨g, .words [word], wordsOnly⟩, ?_, rfl, rfl⟩
      show Except.map _ (Reading.settled _) = _
      rw [h]
      rfl

theorem Reading.Gains.wordsOnly_eq (h : r.Gains text r') : r'.wordsOnly = r.wordsOnly := by
  cases h with
  | taken => rfl
  | waits _ _ _ wordsOnly => exact wordsOnly

theorem Reading.Gains.settled (h : r.Gains text r') :
    Alike (Given.Gains text) r.settled r'.settled := by
  cases h with
  | taken given waiting wordsOnly => exact given.settle waiting
  | waits settled settled' given wordsOnly =>
    rw [settled, settled']
    exact .ok given

theorem Reading.Gains.word (h : r.Gains text r') (word : String) :
    Alike (Reading.Gains text) (r.word word) (r'.word word) := by
  cases h with
  | @taken g g' given waiting wordsOnly =>
    cases waiting with
    | words words => exact .ok (.taken given _ _)
    | shell name =>
      cases name with
      | none => exact .ok (.taken given _ _)
      | some name => exact (given.nameShell name).map fun _ _ given => .taken given _ _
  | waits settled settled' given wordsOnly =>
    obtain ⟨next, hnext, hsettled, honly⟩ := word_of_settled settled word
    obtain ⟨next', hnext', hsettled', honly'⟩ := word_of_settled settled' word
    rw [hnext, hnext']
    refine .ok (.waits hsettled hsettled' (given.addWords [word]) ?_)
    rw [honly, honly', wordsOnly]

/-- A reading that can be settled goes on behind two dashes alone. -/
theorem Reading.separator_of_settled (h : r.settled = .ok g) :
    r.separator = .ok { r with wordsOnly := true } := by
  obtain ⟨given, waiting, wordsOnly⟩ := r
  cases waiting with
  | words words => rfl
  | shell name =>
    cases name with
    | none => cases h
    | some name => rfl

theorem Reading.Gains.separator (h : r.Gains text r') :
    Alike (Reading.Gains text) r.separator r'.separator := by
  cases h with
  | @taken g g' given waiting wordsOnly =>
    cases waiting with
    | words words => exact .ok (.taken given _ _)
    | shell name =>
      cases name with
      | none => exact .stopped _
      | some name => exact .ok (.taken given _ _)
  | waits settled settled' given wordsOnly =>
    rw [separator_of_settled settled, separator_of_settled settled']
    exact .ok (.waits settled settled' given rfl)

theorem Reading.Gains.asked {R : α → β → Prop} (h : r.Gains text r') (stop : Stop) :
    Alike R (.error (r.asked stop)) (.error (r'.asked stop)) := by
  have hsettled := h.settled
  unfold Reading.asked
  generalize r.settled = x, r'.settled = y at hsettled ⊢
  cases hsettled with
  | ok => exact .stopped stop
  | stopped earlier => exact .stopped earlier
  | mistaken e e' => exact .mistaken e e'

theorem Reading.Gains.letter {R : α → β → Prop} (h : r.Gains text r') (c : Char) :
    Alike R (.error (r.letter c)) (.error (r'.letter c)) := by
  unfold Reading.letter
  split
  · exact h.asked .help
  · split
    · exact h.asked .version
    · exact .stopped _

theorem Reading.Gains.giving (h : r.Gains text r') {more : Given → Except Stop Given}
    (next : ∀ g g', Given.Gains text g g' → Alike (Given.Gains text) (more g) (more g')) :
    Alike (Reading.Gains text) (r.giving more) (r'.giving more) := by
  have hsettled := h.settled
  unfold Reading.giving
  generalize r.settled = x, r'.settled = y at hsettled ⊢
  cases hsettled with
  | ok given => exact (next _ _ given).map fun _ _ given => .taken given _ _
  | stopped stop => exact .stopped stop
  | mistaken e e' => exact .mistaken e e'

theorem Reading.Gains.flag (h : r.Gains text r') (f : LongFlag) (value : Option String) :
    Alike (Reading.Gains text) (r.flag f value) (r'.flag f value) := by
  cases value with
  | none =>
    cases f with
    | switch s => exact h.giving fun _ _ given => given.addSwitch s
    | completions => exact h.settled.map fun _ _ given => .taken given _ _
    | help => exact h.asked .help
    | version => exact h.asked .version
  | some value =>
    cases f with
    | completions => exact h.giving fun _ _ given => given.nameShell value
    -- the wording of these mistakes tells whether anything was given before
    | switch s => exact .mistaken _ _
    | help => exact .mistaken _ _
    | version => exact .mistaken _ _

/-- **One argument more for both.** -/
theorem Reading.Gains.read (h : r.Gains text r') (a : Argument) :
    Alike (Reading.Gains text) (r.read a) (r'.read a) := by
  unfold Reading.read
  rw [h.wordsOnly_eq]
  split
  · exact h.word a.text
  · cases a with
    | flag f value => exact h.flag f value
    | plain word =>
      dsimp only
      cases Look.of word.toList with
      | separator => exact h.separator
      | letters c => exact h.letter c
      | word => exact h.word word

/-- **All that follows**, by induction on it. -/
theorem Reading.Gains.readFrom (h : r.Gains text r') (later : List Argument) :
    Alike (Given.Gains text) (r.readFrom later) (r'.readFrom later) := by
  induction later generalizing r r' with
  | nil => exact h.settled
  | cons a later ih =>
    have hread := h.read a
    unfold Reading.readFrom
    generalize r.read a = x, r'.read a = y at hread ⊢
    cases hread with
    | ok next => exact ih next
    | stopped stop => exact .stopped stop
    | mistaken e e' => exact .mistaken e e'

/-! ## The name of a shell that is none -/

/-- Naming a shell fails by a mistake. -/
theorem Given.mistake_of_nameShell {name : String} {stop : Stop}
    (h : g.nameShell name = .error stop) : ∃ e, stop = .mistake e := by
  unfold Given.nameShell at h
  split at h
  · exact ⟨_, (Except.error.inj h).symm⟩
  · split at h
    · exact ⟨_, (Except.error.inj h).symm⟩
    · split at h
      · cases h
      · exact ⟨_, (Except.error.inj h).symm⟩

section Misnamed

variable {name : String} {e : UsageError} (misnamed : r.settled = .error (.mistake e))

include misnamed

theorem Reading.asked_misnamed (stop : Stop) : r.asked stop = .mistake e := by
  rw [Reading.asked, misnamed]

theorem Reading.giving_misnamed (more : Given → Except Stop Given) :
    r.giving more = .error (.mistake e) := by
  rw [Reading.giving, misnamed]

theorem Reading.letter_misnamed (c : Char) : ∃ e', r.letter c = .mistake e' := by
  unfold Reading.letter
  split
  · exact ⟨e, asked_misnamed misnamed .help⟩
  · split
    · exact ⟨e, asked_misnamed misnamed .version⟩
    · exact ⟨_, rfl⟩

theorem Reading.flag_misnamed (f : LongFlag) (value : Option String) :
    ∃ e', r.flag f value = .error (.mistake e') := by
  cases value with
  | none =>
    refine ⟨e, ?_⟩
    cases f with
    | switch s => exact giving_misnamed misnamed _
    | completions => exact congrArg (Except.map _) misnamed
    | help => exact congrArg Except.error (asked_misnamed misnamed .help)
    | version => exact congrArg Except.error (asked_misnamed misnamed .version)
  | some value =>
    cases f with
    | completions => exact ⟨e, giving_misnamed misnamed _⟩
    | switch s => exact ⟨_, rfl⟩
    | help => exact ⟨_, rfl⟩
    | version => exact ⟨_, rfl⟩

theorem Reading.word_misnamed (waits : r.waiting = .shell (some name)) (word : String) :
    r.word word = .error (.mistake e) := by
  rw [Reading.word, waits, misnamed]
  rfl

/-- A name that is no shell's is found wanting at the next argument, unless that is two dashes
alone. -/
theorem Reading.read_misnamed (waits : r.waiting = .shell (some name)) (a : Argument) :
    (∃ e', r.read a = .error (.mistake e')) ∨ r.read a = .ok { r with wordsOnly := true } := by
  unfold Reading.read
  split
  · exact .inl ⟨e, word_misnamed misnamed waits a.text⟩
  · cases a with
    | flag f value => exact .inl (flag_misnamed misnamed f value)
    | plain word =>
      dsimp only
      cases Look.of word.toList with
      | separator => exact .inr (by rw [Reading.separator, waits])
      | letters c =>
        obtain ⟨e', hletter⟩ := letter_misnamed misnamed c
        exact .inl ⟨e', congrArg Except.error hletter⟩
      | word => exact .inl ⟨e, word_misnamed misnamed waits word⟩

/-- **A name that is no shell's is a mistake in the end**, whatever follows. -/
theorem Reading.readFrom_misnamed (waits : r.waiting = .shell (some name))
    (later : List Argument) : ∃ e', r.readFrom later = .error (.mistake e') := by
  induction later generalizing r with
  | nil => exact ⟨e, misnamed⟩
  | cons a later ih =>
    unfold Reading.readFrom
    rcases read_misnamed misnamed waits a with ⟨e', hread⟩ | hread
    · exact ⟨e', by rw [hread]⟩
    · rw [hread]
      exact ih (r := { r with wordsOnly := true }) misnamed waits

end Misnamed

/-! ## One word more -/

/-- **A word more at once**, where no shell is awaited. -/
theorem Reading.readFrom_word (undashed : Undashed text) (ready : r.waiting ≠ .shell none)
    (later : List Argument) :
    Alike (Given.Gains text) (r.readFrom later) (r.readFrom (.plain text :: later)) := by
  rw [Reading.readFrom, read_undashed undashed]
  cases hsettled : r.settled with
  | ok g =>
    obtain ⟨next, hnext, hsettled', honly⟩ := word_of_settled hsettled text
    rw [hnext]
    exact (Reading.Gains.waits hsettled hsettled' (g.gains_addWords text) honly).readFrom later
  | error stop =>
    -- what waits is a name that is no shell's, and neither reading gets past it
    obtain ⟨given, waiting, wordsOnly⟩ := r
    cases waiting with
    | words words => cases hsettled
    | shell name =>
      cases name with
      | none => exact absurd rfl ready
      | some name =>
        obtain ⟨e, rfl⟩ := Given.mistake_of_nameShell hsettled
        obtain ⟨e', hlater⟩ := readFrom_misnamed hsettled rfl later
        rw [hlater, word_misnamed hsettled rfl text]
        exact .mistaken e' e

/-- Behind a word no shell is awaited, and whether everything is a word is as it was. -/
theorem Reading.of_word {word : String} (h : r.word word = .ok r') :
    r'.waiting ≠ .shell none ∧ r'.wordsOnly = r.wordsOnly := by
  unfold Reading.word at h
  split at h
  · cases h
    exact ⟨nofun, rfl⟩
  · cases h
    exact ⟨nofun, rfl⟩
  · generalize r.settled = x at h
    cases x with
    | error stop => cases h
    | ok g =>
      cases h
      exact ⟨nofun, rfl⟩

theorem Reading.ready_of_separator (h : r.separator = .ok r') : r'.waiting ≠ .shell none := by
  unfold Reading.separator at h
  split at h
  · cases h
  · next ready =>
    cases h
    exact ready

theorem Reading.ready_of_giving {more : Given → Except Stop Given} (h : r.giving more = .ok r') :
    r'.waiting ≠ .shell none := by
  unfold Reading.giving at h
  split at h
  · cases h
  · next g _ =>
    generalize more g = x at h
    cases x with
    | error stop => cases h
    | ok g' =>
      cases h
      exact nofun

/-- Only `--completions` without a value has the name of a shell awaited, and not even that where
everything is a word. -/
theorem Reading.ready_of_read {a : Argument} (h : r.read a = .ok r')
    (other : a = .flag .completions none → r.wordsOnly = true) : r'.waiting ≠ .shell none := by
  unfold Reading.read at h
  split at h
  · exact (of_word h).1
  · next mixed =>
    cases a with
    | flag f value =>
      cases value with
      | none =>
        cases f with
        | switch s => exact ready_of_giving h
        | completions => exact absurd (other rfl) mixed
        | help => cases h
        | version => cases h
      | some value =>
        cases f with
        | completions => exact ready_of_giving h
        | switch s => cases h
        | help => cases h
        | version => cases h
    | plain word =>
      dsimp only at h
      cases hlook : Look.of word.toList with
      | separator => rw [hlook] at h; exact ready_of_separator h
      | letters c => rw [hlook] at h; cases h
      | word => rw [hlook] at h; exact (of_word h).1

/-- Behind two dashes alone everything is a word, and stays one. -/
theorem Reading.wordsOnly_of_read {a : Argument} (h : r.read a = .ok r')
    (only : r.wordsOnly = true ∨ a = .plain "--") : r'.wordsOnly = true := by
  unfold Reading.read at h
  by_cases honly : r.wordsOnly = true
  · rw [if_pos honly] at h
    exact (of_word h).2.trans honly
  · obtain rfl := only.resolve_left honly
    have hlook : Look.of "--".toList = .separator := by decide
    rw [if_neg honly] at h
    simp only [hlook, Reading.separator] at h
    split at h
    · cases h
    · cases h
      rfl

/-- **A word more further on**, by induction on what stands before it. -/
theorem Reading.readFrom_insert (undashed : Undashed text) {earlier : List Argument}
    (ready : earlier = [] → r.waiting ≠ .shell none)
    (last : earlier.getLast? = some (.flag .completions none) →
      r.wordsOnly = true ∨ .plain "--" ∈ earlier) (later : List Argument) :
    Alike (Given.Gains text) (r.readFrom (earlier ++ later))
      (r.readFrom (earlier ++ .plain text :: later)) := by
  induction earlier generalizing r with
  | nil => exact readFrom_word undashed (ready rfl) later
  | cons a earlier ih =>
    rw [List.cons_append, List.cons_append, Reading.readFrom, Reading.readFrom]
    cases hread : r.read a with
    | error stop => exact .stopped stop
    | ok next =>
      refine ih (fun hnil => ready_of_read hread fun ha => ?_) (fun hlast => ?_)
      · subst hnil ha
        rcases last rfl with honly | hmem
        · exact honly
        · cases List.mem_singleton.mp hmem
      · have hlast' : (a :: earlier).getLast? = some (.flag .completions none) := by
          rw [List.getLast?_cons, hlast]
          rfl
        rcases last hlast' with honly | hmem
        · exact .inl (wordsOnly_of_read hread (.inl honly))
        · rcases List.mem_cons.mp hmem with ha | hmem
          · exact .inl (wordsOnly_of_read hread (.inr ha.symm))
          · exact .inr hmem

end Arguments

end PresetBuild
