import PresetBuild.Proofs.Json.Ending
import PresetBuild.Proofs.PresetFile.Contribution

/-!
# Half-written preset files

A preset file that is cut short, or that has more behind it than it should, is never read in part.
What is left of a file contributes all that the file does as long as its last closing bracket is
there, and nothing otherwise, wherever it is cut. The same file with more behind it contributes the
same if there is only white space more, and nothing otherwise (`presets_all_or_nothing`).

Both sides come from one fact: bytes that are a file, with more bytes behind them that make another
one, are followed by white space alone (`space_of_ofBytes?_append`). A part of a file that is a file
leaves out white space only, and so no bracket.
-/

namespace PresetBuild

open Json (JsonText Spaces Value)
open Text.Utf8 (encode encode_append encode_cons encode_eq_append_iff)

/-- **A byte that closes an array or an object**: the bracket or the brace. -/
def ClosingByte (b : UInt8) : Prop :=
  b = 0x5D ∨ b = 0x7D

/-- **A byte of white space**: the space, the tab, the line feed or the carriage return. -/
def SpaceByte (b : UInt8) : Prop :=
  b = 0x20 ∨ b = 0x09 ∨ b = 0x0A ∨ b = 0x0D

instance (b : UInt8) : Decidable (ClosingByte b) :=
  inferInstanceAs (Decidable (_ ∨ _))

instance (b : UInt8) : Decidable (SpaceByte b) :=
  inferInstanceAs (Decidable (_ ∨ _))

/-- Bytes of white space are those of spaces. -/
theorem spaceBytes_iff {bytes : List UInt8} :
    (∀ b ∈ bytes, SpaceByte b) ↔ ∃ gap, Spaces gap ∧ bytes = encode gap := by
  constructor
  · intro h
    induction bytes with
    | nil => exact ⟨[], Json.spaces_nil, rfl⟩
    | cons b bytes ih =>
      obtain ⟨hb, hbytes⟩ := List.forall_mem_cons.mp h
      obtain ⟨gap, hgap, rfl⟩ := ih hbytes
      rcases hb with rfl | rfl | rfl | rfl
      · exact ⟨' ' :: gap, hgap.cons (by decide), rfl⟩
      · exact ⟨'\t' :: gap, hgap.cons (by decide), rfl⟩
      · exact ⟨'\n' :: gap, hgap.cons (by decide), rfl⟩
      · exact ⟨'\r' :: gap, hgap.cons (by decide), rfl⟩
  · rintro ⟨gap, hgap, rfl⟩
    intro b hb
    obtain ⟨c, hc, hbyte⟩ := List.mem_flatMap.mp hb
    have hspace : c = ' ' ∨ c = '\t' ∨ c = '\n' ∨ c = '\r' := by
      simpa only [List.mem_cons, List.not_mem_nil, or_false] using hgap c hc
    rcases hspace with rfl | rfl | rfl | rfl
    · exact .inl (List.mem_singleton.mp hbyte)
    · exact .inr (.inl (List.mem_singleton.mp hbyte))
    · exact .inr (.inr (.inl (List.mem_singleton.mp hbyte)))
    · exact .inr (.inr (.inr (List.mem_singleton.mp hbyte)))

theorem ClosingByte.not_space {b : UInt8} (h : ClosingByte b) : ¬SpaceByte b := by
  rcases h with rfl | rfl <;> decide

namespace PresetFile

variable {es es' : List Entry} {text : List Char} {content more : List UInt8}

/-- A file is the text of an array or an object, and every text of that is the same file. -/
theorem FileText.exists_value (h : FileText es text) :
    ∃ v : Value, v.Bracketed ∧ JsonText v text ∧ ∀ other, JsonText v other → FileText es other := by
  obtain ⟨v, vs, htext, hlists, hes⟩ := h
  refine ⟨v, ?_, htext, fun other hother => ⟨v, vs, hother, hlists, hes⟩⟩
  cases hlists with
  | empty => exact .array _
  | alone => exact .array _
  | without => exact .object _
  | object => exact .object _

/-- **A file ends with a closing bracket and white space**, which may be any other. -/
theorem ofBytes?_closing (h : ofBytes? content = some es) :
    ∃ before close gap, ClosingByte close ∧ (∀ b ∈ gap, SpaceByte b) ∧
      content = before ++ close :: gap ∧
      ∀ other, (∀ b ∈ other, SpaceByte b) → ofBytes? (before ++ close :: other) = some es := by
  obtain ⟨text, rfl, hfile⟩ := ofBytes?_eq_some_iff.mp h
  obtain ⟨v, hv, htext, hsame⟩ := hfile.exists_value
  obtain ⟨before, close, gap, hclose, hgap, rfl, hothers⟩ := htext.closing hv
  have hbyte : ∃ b, ClosingByte b ∧
      ∀ rest, encode (before ++ close :: rest) = encode before ++ b :: encode rest := by
    rcases hclose with rfl | rfl
    · exact ⟨0x5D, .inl rfl, fun rest => encode_append before (']' :: rest)⟩
    · exact ⟨0x7D, .inr rfl, fun rest => encode_append before ('\x7d' :: rest)⟩
  obtain ⟨b, hb, hbytes⟩ := hbyte
  refine ⟨encode before, b, encode gap, hb, spaceBytes_iff.mpr ⟨gap, hgap, rfl⟩, hbytes gap, ?_⟩
  intro other hother
  obtain ⟨spaces, hspaces, rfl⟩ := spaceBytes_iff.mp hother
  rw [← hbytes]
  exact ofBytes?_eq_some_iff.mpr ⟨_, rfl, hsame _ (hothers spaces hspaces)⟩

/-- **A file with more behind it that is a file still has white space behind it.** -/
theorem space_of_ofBytes?_append (h : ofBytes? content = some es)
    (hmore : ofBytes? (content ++ more) = some es') : ∀ b ∈ more, SpaceByte b := by
  obtain ⟨text, rfl, hfile⟩ := ofBytes?_eq_some_iff.mp h
  obtain ⟨whole, hwhole, hlonger⟩ := ofBytes?_eq_some_iff.mp hmore
  obtain ⟨back, rfl, rfl⟩ := encode_eq_append_iff.mp hwhole.symm
  obtain ⟨v, hv, htext, -⟩ := hfile.exists_value
  obtain ⟨w, -, hw, -⟩ := hlonger.exists_value
  exact spaceBytes_iff.mpr ⟨back, htext.spaces_of_append hv hw, rfl⟩

/-- A file stays the same file with white space behind it. -/
theorem ofBytes?_spaced (h : ofBytes? content = some es) (spaces : ∀ b ∈ more, SpaceByte b) :
    ofBytes? (content ++ more) = some es := by
  obtain ⟨before, close, gap, -, hgap, rfl, hsame⟩ := ofBytes?_closing h
  rw [List.append_assoc, List.cons_append]
  exact hsame (gap ++ more) (List.forall_mem_append.mpr ⟨hgap, spaces⟩)

/-- Without its last closing bracket a file is no file. -/
theorem ofBytes?_cut_eq_none {cut rest : List UInt8} (h : ofBytes? (cut ++ rest) = some es)
    (closing : ∃ b ∈ rest, ClosingByte b) : ofBytes? cut = none := by
  cases hcut : ofBytes? cut with
  | none => rfl
  | some left =>
    obtain ⟨b, hb, hclosing⟩ := closing
    exact absurd (space_of_ofBytes?_append hcut h b hb) hclosing.not_space

/-- With its last closing bracket a file is whole. -/
theorem ofBytes?_cut_eq_some {cut rest : List UInt8} (h : ofBytes? (cut ++ rest) = some es)
    (closed : ∀ b ∈ rest, ¬ClosingByte b) : ofBytes? cut = some es := by
  obtain ⟨before, close, gap, hclose, hgap, hcontent, hsame⟩ := ofBytes?_closing h
  rcases List.append_eq_append_iff.mp hcontent with ⟨lost, -, hrest⟩ | ⟨kept, rfl, hkept⟩
  · refine absurd hclose (closed close ?_)
    rw [hrest]
    exact List.mem_append_right lost List.mem_cons_self
  · cases kept with
    | nil =>
      refine absurd hclose (closed close ?_)
      rw [← show close :: gap = rest from hkept]
      exact List.mem_cons_self
    | cons b kept =>
      obtain ⟨rfl, rfl⟩ := List.cons.inj hkept
      exact hsame kept fun b hb => hgap b (List.mem_append_left rest hb)

end PresetFile

/-- Bytes of the same entries contribute the same presets. -/
theorem FileState.presets_eq {bytes content : List UInt8}
    (h : PresetFile.ofBytes? bytes = PresetFile.ofBytes? content) :
    (holding bytes).presets = (holding content).presets := by
  rw [presets, presets, h]

/-- Bytes that are no file contribute nothing. -/
theorem FileState.presets_of_none {bytes : List UInt8} (h : PresetFile.ofBytes? bytes = none) :
    (holding bytes).presets = [] := by
  rw [presets, h]
  rfl

/-- **A preset file is read whole or not at all**, also where it is half written or has something
behind it. What is left of it when it is cut, at any byte, contributes what the file does as long as
no closing bracket is lost, and nothing otherwise. The file with more bytes behind it contributes
what it did if they are all white space, and nothing otherwise. -/
theorem presets_all_or_nothing {content : List UInt8}
    (parsed : (PresetFile.ofBytes? content).isSome = true) :
    (∀ cut rest, content = cut ++ rest →
      ((∃ b ∈ rest, ClosingByte b) → (FileState.holding cut).presets = []) ∧
      ((∀ b ∈ rest, ¬ClosingByte b) →
        (FileState.holding cut).presets = (FileState.holding content).presets)) ∧
    ∀ more,
      ((∃ b ∈ more, ¬SpaceByte b) → (FileState.holding (content ++ more)).presets = []) ∧
      ((∀ b ∈ more, SpaceByte b) →
        (FileState.holding (content ++ more)).presets = (FileState.holding content).presets) := by
  obtain ⟨es, hes⟩ := Option.isSome_iff_exists.mp parsed
  constructor
  · rintro cut rest rfl
    constructor
    · intro closing
      exact FileState.presets_of_none (PresetFile.ofBytes?_cut_eq_none hes closing)
    · intro closed
      exact FileState.presets_eq ((PresetFile.ofBytes?_cut_eq_some hes closed).trans hes.symm)
  · intro more
    constructor
    · intro hmore
      obtain ⟨b, hb, hspace⟩ := hmore
      cases hlonger : PresetFile.ofBytes? (content ++ more) with
      | none => exact FileState.presets_of_none hlonger
      | some others =>
        exact absurd (PresetFile.space_of_ofBytes?_append hes hlonger b hb) hspace
    · intro hmore
      exact FileState.presets_eq ((PresetFile.ofBytes?_spaced hes hmore).trans hes.symm)

/-- A file with a name beyond ASCII, a bracket and an escaped quote in an ignored string, and white
space at its end. -/
def PresetFile.closedText : String :=
  "\x7b\"configurePresets\": [[\"é\"], \x7b\"x\": \"]\\\"\", \"name\": \"b\"\x7d]\x7d \n"

/-- The file cut inside the one character of its first name, cut between a backslash and the quote
behind it, without its white space, and with one more bracket behind that. -/
theorem presets_all_or_nothing_closed :
    let content := encode PresetFile.closedText.toList
    (PresetFile.ofBytes? content).isSome = true ∧
      (FileState.holding content).presets = [⟨"é"⟩, ⟨"b"⟩] ∧
      ((content.take 25).getLast? = some 0xC3 ∧
        (FileState.holding (content.take 25)).presets = []) ∧
      ((content.take 39).getLast? = some 0x5C ∧
        (FileState.holding (content.take 39)).presets = []) ∧
      (FileState.holding (content.take 57)).presets = (FileState.holding content).presets ∧
      (FileState.holding (content ++ [0x20, 0x7D])).presets = [] := by
  intro content
  have parsed : (PresetFile.ofBytes? content).isSome = true := by decide +kernel
  obtain ⟨hcut, hmore⟩ := presets_all_or_nothing parsed
  have cut (n : Nat) :=
    hcut (content.take n) (content.drop n) (List.take_append_drop n content).symm
  refine ⟨parsed, by decide +kernel, ⟨by decide +kernel, (cut 25).1 ?_⟩,
    ⟨by decide +kernel, (cut 39).1 ?_⟩, (cut 57).2 ?_, (hmore [0x20, 0x7D]).1 ?_⟩
  · exact ⟨0x7D, by decide +kernel, .inr rfl⟩
  · exact ⟨0x7D, by decide +kernel, .inr rfl⟩
  · decide +kernel
  · exact ⟨0x7D, by decide, by decide⟩

end PresetBuild
