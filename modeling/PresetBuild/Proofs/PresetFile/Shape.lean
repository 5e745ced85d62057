import PresetBuild.PresetFile
import PresetBuild.Proofs.Json.Denotation
import PresetBuild.Proofs.Json.Reading

/-!
# The shape of a preset file

What a preset file is, apart from how one is read: which values are presets (`EntryValue`), where
in a file's value its presets stand (`Lists`), and which texts are those of a file (`FileText`).
Members stand in any order, and known ones once at most; unknown members stand wherever they like,
as often as they like, with any value.

The reader agrees with this everywhere: it finds the entries of a text exactly where the text is a
file of these entries (`ofText?_eq_some_iff`), and nothing in a text that is no file's.
-/

namespace PresetBuild.PresetFile

open Json (Value Written Denotes JsonText characters? characters?_eq_some_iff)

/-! ## Values of the right shape -/

/-- **The members of an object by the text of their keys**, in the order in which they stand. -/
def Keyed (ms : List (Written × Value)) (members : List (List Char × Value)) : Prop :=
  List.Forall₂ (fun m k => Denotes m.1 k.1 ∧ m.2 = k.2) ms members

/-- No member has this key. -/
def Without (key : String) (members : List (List Char × Value)) : Prop :=
  ∀ m ∈ members, m.1 ≠ key.toList

/-- **One member has this key**, wherever it stands, and it has this value. -/
def Once (key : String) (v : Value) (members : List (List Char × Value)) : Prop :=
  ∃ before after, Without key before ∧ Without key after ∧
    members = before ++ (key.toList, v) :: after

/-- **A value that is an entry**: an array of its name and perhaps its hidden mark, or an object
with these and any other members. -/
inductive EntryValue (e : Entry) : Value → Prop
  | bare {w : Written} (name : Denotes w e.name) (shown : e.hidden = false) :
      EntryValue e (.array [.string w])
  | marked {w : Written} (name : Denotes w e.name) :
      EntryValue e (.array [.string w, .bool e.hidden])
  | object {ms : List (Written × Value)} {members : List (List Char × Value)} {w : Written}
      (keyed : Keyed ms members) (named : Once "name" (.string w) members)
      (name : Denotes w e.name)
      (hidden : Without "hidden" members ∧ e.hidden = false ∨
        Once "hidden" (.bool e.hidden) members) : EntryValue e (.object ms)

/-- **The values that a file's value lists as its presets**: an array of them, under their key in an
object or alone in an array. A file may list none. -/
inductive Lists : Value → List Value → Prop
  | empty : Lists (.array []) []
  | alone {vs : List Value} : Lists (.array [.array vs]) vs
  | without {ms : List (Written × Value)} {members : List (List Char × Value)}
      (keyed : Keyed ms members) (none : Without "configurePresets" members) :
      Lists (.object ms) []
  | object {ms : List (Written × Value)} {members : List (List Char × Value)} {vs : List Value}
      (keyed : Keyed ms members) (once : Once "configurePresets" (.array vs) members) :
      Lists (.object ms) vs

/-- **A text of a preset file** with these entries, in this order. -/
def FileText (es : List Entry) (text : List Char) : Prop :=
  ∃ v vs, JsonText v text ∧ Lists v vs ∧ List.Forall₂ EntryValue es vs

/-! ## Members -/

variable {key : String} {v : Value} {ms : List (Written × Value)}
  {members : List (List Char × Value)} {e : Entry} {es : List Entry} {vs : List Value}

theorem members?_eq_some_iff : members? ms = some members ↔ Keyed ms members := by
  unfold Keyed
  induction ms generalizing members with
  | nil =>
    rw [List.forall₂_nil_left_iff]
    exact ⟨fun h => (Option.some.inj h).symm, fun h => congrArg some h.symm⟩
  | cons m ms ih =>
    obtain ⟨k, v⟩ := m
    rw [List.forall₂_cons_left_iff]
    constructor
    · intro h
      unfold members? at h
      split at h
      · next name others hname hothers =>
        cases h
        exact ⟨_, others, ⟨characters?_eq_some_iff.mp hname, rfl⟩, ih.mp hothers, rfl⟩
      · cases h
    · intro h
      obtain ⟨⟨name, _⟩, others, ⟨hname, rfl⟩, hothers, rfl⟩ := h
      rw [members?, characters?_eq_some_iff.mpr hname, ih.mpr hothers]

theorem valuesOf_eq_nil_iff : valuesOf key members = [] ↔ Without key members := by
  unfold valuesOf Without
  rw [List.map_eq_nil_iff, List.filter_eq_nil_iff]
  simp only [beq_iff_eq, ne_eq]

theorem valuesOf_append (before after : List (List Char × Value)) :
    valuesOf key (before ++ after) = valuesOf key before ++ valuesOf key after := by
  unfold valuesOf
  rw [List.filter_append, List.map_append]

theorem valuesOf_cons_self (v : Value) (after : List (List Char × Value)) :
    valuesOf key ((key.toList, v) :: after) = v :: valuesOf key after := by
  unfold valuesOf
  rw [List.filter_cons, if_pos (beq_self_eq_true key.toList)]
  rfl

theorem valuesOf_cons_ne {m : List Char × Value} (hm : m.1 ≠ key.toList)
    (after : List (List Char × Value)) : valuesOf key (m :: after) = valuesOf key after := by
  unfold valuesOf
  rw [List.filter_cons, if_neg fun h => hm (beq_iff_eq.mp h)]

/-- The values under a key are one value where one member has the key. -/
theorem valuesOf_eq_singleton_iff : valuesOf key members = [v] ↔ Once key v members := by
  constructor
  · intro h
    induction members with
    | nil => cases h
    | cons m members ih =>
      by_cases hm : m.1 = key.toList
      · obtain ⟨k, w⟩ := m
        rw [show k = key.toList from hm, valuesOf_cons_self] at h
        obtain ⟨rfl, hnil⟩ := List.cons.inj h
        rw [show k = key.toList from hm]
        exact ⟨[], members, nofun, valuesOf_eq_nil_iff.mp hnil, rfl⟩
      · rw [valuesOf_cons_ne hm] at h
        obtain ⟨before, after, hb, ha, rfl⟩ := ih h
        exact ⟨m :: before, after, List.forall_mem_cons.mpr ⟨hm, hb⟩, ha, rfl⟩
  · intro h
    obtain ⟨before, after, hb, ha, rfl⟩ := h
    rw [valuesOf_append, valuesOf_cons_self, valuesOf_eq_nil_iff.mpr hb, valuesOf_eq_nil_iff.mpr ha]
    rfl

/-! ## Entries -/

theorem namedEntry?_eq_some_iff {w : Written} {hidden : Bool} :
    namedEntry? w hidden = some e ↔ Denotes w e.name ∧ e.hidden = hidden := by
  unfold namedEntry?
  rw [Option.map_eq_some_iff]
  constructor
  · intro h
    obtain ⟨name, hname, rfl⟩ := h
    exact ⟨characters?_eq_some_iff.mp hname, rfl⟩
  · intro h
    obtain ⟨hname, rfl⟩ := h
    exact ⟨e.name, characters?_eq_some_iff.mpr hname, rfl⟩

/-- An entry is given by one name and at most one hidden mark. -/
theorem entryOf?_eq_some_iff {names hiddens : List Value} :
    entryOf? names hiddens = some e ↔ ∃ w, names = [.string w] ∧ Denotes w e.name ∧
      (hiddens = [] ∧ e.hidden = false ∨ hiddens = [.bool e.hidden]) := by
  constructor
  · intro h
    unfold entryOf? at h
    split at h
    · next w =>
      obtain ⟨hname, hhidden⟩ := namedEntry?_eq_some_iff.mp h
      exact ⟨w, rfl, hname, .inl ⟨rfl, hhidden⟩⟩
    · next w hidden =>
      obtain ⟨hname, rfl⟩ := namedEntry?_eq_some_iff.mp h
      exact ⟨w, rfl, hname, .inr rfl⟩
    · cases h
  · intro h
    obtain ⟨w, rfl, hname, ⟨rfl, hhidden⟩ | rfl⟩ := h
    · exact namedEntry?_eq_some_iff.mpr ⟨hname, hhidden⟩
    · exact namedEntry?_eq_some_iff.mpr ⟨hname, rfl⟩

/-- **An entry is read from the values that are that entry.** -/
theorem entry?_eq_some_iff : entry? v = some e ↔ EntryValue e v := by
  constructor
  · intro h
    unfold entry? at h
    split at h
    · obtain ⟨w, hw, hname, ⟨-, hshown⟩ | hmark⟩ := entryOf?_eq_some_iff.mp h
      · cases hw
        exact .bare hname hshown
      · cases hmark
    · obtain ⟨w, hw, hname, ⟨hmark, -⟩ | hmark⟩ := entryOf?_eq_some_iff.mp h
      · cases hmark
      · cases hw
        cases hmark
        exact .marked hname
    · split at h
      · next members hmembers =>
        obtain ⟨w, hw, hname, hmark⟩ := entryOf?_eq_some_iff.mp h
        refine .object (members?_eq_some_iff.mp hmembers) (valuesOf_eq_singleton_iff.mp hw) hname ?_
        rwa [valuesOf_eq_nil_iff, valuesOf_eq_singleton_iff] at hmark
      · cases h
    · cases h
  · intro h
    cases h with
    | bare hname hshown => exact entryOf?_eq_some_iff.mpr ⟨_, rfl, hname, .inl ⟨rfl, hshown⟩⟩
    | marked hname => exact entryOf?_eq_some_iff.mpr ⟨_, rfl, hname, .inr rfl⟩
    | object keyed named hname hmark =>
      rw [← valuesOf_eq_nil_iff, ← valuesOf_eq_singleton_iff] at hmark
      unfold entry?
      simp only [members?_eq_some_iff.mpr keyed]
      exact entryOf?_eq_some_iff.mpr ⟨_, valuesOf_eq_singleton_iff.mpr named, hname, hmark⟩

/-- A list of values is read as entries where each of them is one. -/
theorem entryList?_eq_some_iff : entryList? vs = some es ↔ List.Forall₂ EntryValue es vs := by
  induction vs generalizing es with
  | nil =>
    rw [List.forall₂_nil_right_iff]
    exact ⟨fun h => (Option.some.inj h).symm, fun h => congrArg some h.symm⟩
  | cons v vs ih =>
    rw [List.forall₂_cons_right_iff]
    constructor
    · intro h
      unfold entryList? at h
      split at h
      · next e others he hothers =>
        cases h
        exact ⟨e, others, entry?_eq_some_iff.mp he, ih.mp hothers, rfl⟩
      · cases h
    · intro h
      obtain ⟨e, others, he, hothers, rfl⟩ := h
      rw [entryList?, entry?_eq_some_iff.mpr he, ih.mpr hothers]

/-- Where values are entries, each of them is one. -/
theorem exists_entry (h : List.Forall₂ EntryValue es vs) (hv : v ∈ vs) :
    ∃ e ∈ es, EntryValue e v := by
  induction h with
  | nil => cases hv
  | cons first _ ih =>
    rcases List.mem_cons.mp hv with rfl | hv
    · exact ⟨_, List.mem_cons_self, first⟩
    · obtain ⟨e, he, hentry⟩ := ih hv
      exact ⟨e, List.mem_cons_of_mem _ he, hentry⟩

/-! ## Files -/

theorem entriesOf?_cases {given : List Value} (h : entriesOf? given = some es) :
    given = [] ∧ es = [] ∨ ∃ vs, given = [.array vs] ∧ List.Forall₂ EntryValue es vs := by
  unfold entriesOf? at h
  split at h
  · cases h
    exact .inl ⟨rfl, rfl⟩
  · next vs => exact .inr ⟨vs, rfl, entryList?_eq_some_iff.mp h⟩
  · cases h

/-- What a file's value lists is what its entries are read from. -/
theorem Lists.entries?_eq (h : Lists v vs) : entries? v = entryList? vs := by
  cases h with
  | empty => rfl
  | alone => rfl
  | without keyed none =>
    rw [entries?, members?_eq_some_iff.mpr keyed]
    show entriesOf? (valuesOf "configurePresets" _) = _
    rw [valuesOf_eq_nil_iff.mpr none]
    rfl
  | object keyed once =>
    rw [entries?, members?_eq_some_iff.mpr keyed]
    show entriesOf? (valuesOf "configurePresets" _) = _
    rw [valuesOf_eq_singleton_iff.mpr once]
    rfl

/-- **The entries of a file's value are those that it lists.** -/
theorem entries?_eq_some_iff :
    entries? v = some es ↔ ∃ vs, Lists v vs ∧ List.Forall₂ EntryValue es vs := by
  constructor
  · intro h
    unfold entries? at h
    split at h
    · rcases entriesOf?_cases h with ⟨rfl, rfl⟩ | ⟨vs, rfl, hes⟩
      · exact ⟨[], .empty, .nil⟩
      · exact ⟨vs, .alone, hes⟩
    · split at h
      · next members hmembers =>
        have keyed := members?_eq_some_iff.mp hmembers
        rcases entriesOf?_cases h with ⟨hnone, rfl⟩ | ⟨vs, honce, hes⟩
        · exact ⟨[], .without keyed (valuesOf_eq_nil_iff.mp hnone), .nil⟩
        · exact ⟨vs, .object keyed (valuesOf_eq_singleton_iff.mp honce), hes⟩
      · cases h
    · cases h
  · intro h
    obtain ⟨vs, hlists, hes⟩ := h
    rw [hlists.entries?_eq]
    exact entryList?_eq_some_iff.mpr hes

/-- **The entries of a text are those of the file it is the text of.** -/
theorem ofText?_eq_some_iff {text : List Char} : ofText? text = some es ↔ FileText es text := by
  constructor
  · intro h
    unfold ofText? at h
    split at h
    · next v hv =>
      obtain ⟨vs, hlists, hes⟩ := entries?_eq_some_iff.mp h
      exact ⟨v, vs, Value.ofText?_eq_some_iff.mp hv, hlists, hes⟩
    · cases h
  · intro h
    obtain ⟨v, vs, htext, hlists, hes⟩ := h
    rw [ofText?, Value.ofText?_eq_some_iff.mpr htext]
    exact entries?_eq_some_iff.mpr ⟨vs, hlists, hes⟩

/-- **The entries of bytes are those of the file whose text they encode.** -/
theorem ofBytes?_eq_some_iff {bytes : List UInt8} :
    ofBytes? bytes = some es ↔ ∃ text, bytes = Text.Utf8.encode text ∧ FileText es text := by
  constructor
  · intro h
    unfold ofBytes? at h
    split at h
    · next text htext =>
      exact ⟨text, Text.Utf8.decode_eq_ok_iff.mp htext, ofText?_eq_some_iff.mp h⟩
    · cases h
  · intro h
    obtain ⟨text, hbytes, hfile⟩ := h
    rw [ofBytes?, Text.Utf8.decode_eq_ok_iff.mpr hbytes]
    exact ofText?_eq_some_iff.mpr hfile

end PresetBuild.PresetFile
