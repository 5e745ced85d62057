import PresetBuild.Proofs.PresetFile.Shape

/-!
# What preset files contribute

A file contributes the presets of its entries that are not hidden, in their order, however it is
written (`presets_of_fileText`). Whatever stands where the two files are looked for, each of them
contributes on its own, the project's before the user's, and what is no file contributes nothing
(`presets_contributed`): neither the entries before a fault nor those behind it are taken, and the
other file is not touched.
-/

namespace PresetBuild

open Json (Value JsonText)
open PresetFile (FileText EntryValue Lists ofBytes?_eq_some_iff visible)

/-- **What is contributed by what stands where a preset file is looked for**: the presets of a file
that are not hidden where there is the text of a file, and nothing where there is not. -/
inductive Contributes : FileState → List Preset → Prop
  | file {es : List Entry} {text : List Char} (written : FileText es text) :
      Contributes (.holding (Text.Utf8.encode text))
        ((es.filter fun e => !e.hidden).map fun e => ⟨String.ofList e.name⟩)
  | nothing {s : FileState}
      (none : ∀ es text, s = .holding (Text.Utf8.encode text) → ¬FileText es text) :
      Contributes s []

namespace FileState

theorem presets_holding {es : List Entry} {text : List Char} (h : FileText es text) :
    (holding (Text.Utf8.encode text)).presets = visible es := by
  rw [presets, ofBytes?_eq_some_iff.mpr ⟨text, rfl, h⟩]
  rfl

theorem presets_eq_nil {s : FileState}
    (h : ∀ es text, s = .holding (Text.Utf8.encode text) → ¬FileText es text) :
    s.presets = [] := by
  cases s with
  | absent => rfl
  | unreadable => rfl
  | holding bytes =>
    cases hread : PresetFile.ofBytes? bytes with
    | none =>
      rw [presets, hread]
      rfl
    | some es =>
      obtain ⟨text, rfl, hfile⟩ := ofBytes?_eq_some_iff.mp hread
      exact absurd hfile (h es text rfl)

/-- **What a file state contributes is determined by it**, and it is what is read there. -/
theorem contributes_iff {s : FileState} {ps : List Preset} :
    Contributes s ps ↔ s.presets = ps := by
  constructor
  · intro h
    cases h with
    | file written => exact presets_holding written
    | nothing none => exact presets_eq_nil none
  · rintro rfl
    by_cases h : ∃ es text, s = .holding (Text.Utf8.encode text) ∧ FileText es text
    · obtain ⟨es, text, rfl, hfile⟩ := h
      rw [presets_holding hfile]
      exact .file hfile
    · have hnone : ∀ es text, s = .holding (Text.Utf8.encode text) → ¬FileText es text :=
        fun es text hs hfile => h ⟨es, text, hs, hfile⟩
      rw [presets_eq_nil hnone]
      exact .nothing hnone

/-- One value that is no entry keeps every preset of a file back, wherever it is listed. -/
theorem presets_of_bad {v bad : Value} {vs : List Value} {text : List Char}
    (htext : JsonText v text) (hlists : Lists v vs) (hbad : bad ∈ vs)
    (hentry : ∀ e, ¬EntryValue e bad) :
    (holding (Text.Utf8.encode text)).presets = [] := by
  have hread : PresetFile.ofBytes? (Text.Utf8.encode text) = PresetFile.entryList? vs := by
    rw [PresetFile.ofBytes?, Text.Utf8.decode_eq_ok_iff.mpr rfl]
    show PresetFile.ofText? text = _
    rw [PresetFile.ofText?, Value.ofText?_eq_some_iff.mpr htext]
    exact hlists.entries?_eq
  rw [presets, hread]
  cases hentries : PresetFile.entryList? vs with
  | none => rfl
  | some es =>
    have hes := PresetFile.entryList?_eq_some_iff.mp hentries
    obtain ⟨e, -, he⟩ := PresetFile.exists_entry hes hbad
    exact absurd he (hentry e)

end FileState

/-- **Every way of writing a preset file is read.** Where the project's file has these entries, in
whatever shape and spelling, and there is no user's file, the presets are the names of the entries
that are not hidden, in their order. -/
theorem presets_of_fileText {es : List Entry} {text : List Char} (h : FileText es text) :
    (PresetFiles.mk (.holding (Text.Utf8.encode text)) .absent).presets =
      (es.filter fun e => !e.hidden).map fun e => ⟨String.ofList e.name⟩ := by
  rw [PresetFiles.presets, FileState.presets_holding h]
  exact List.append_nil _

/-- A file with unknown members, nested values and a lone surrogate in one of them, a known key
behind an escape, a surrogate pair in a name, and presets of three shapes. -/
def PresetFile.mixedText : String :=
  "\x7b \"version\": [1, -2.5e+10, \x7b\"a\": \"\\ud800\"\x7d],\t\"configurePresets\":\n"
    ++ "[\x7b\"hidden\": false, \"n\\u0061me\": \"\\uD83D\\ude00\", \"x\": \x7b\x7d\x7d,"
    ++ "[\"base\", true], [\"d/\\/\"]], \"version\": null \x7d"

theorem presets_of_fileText_mixed :
    FileText [⟨"😀".toList, false⟩, ⟨"base".toList, true⟩, ⟨"d//".toList, false⟩]
      PresetFile.mixedText.toList ∧
    (PresetFiles.mk (.holding (Text.Utf8.encode PresetFile.mixedText.toList)) .absent).presets =
      [⟨"😀"⟩, ⟨"d//"⟩] := by
  have hfile : FileText [⟨"😀".toList, false⟩, ⟨"base".toList, true⟩, ⟨"d//".toList, false⟩]
      PresetFile.mixedText.toList := by
    apply PresetFile.ofText?_eq_some_iff.mp
    decide +kernel
  exact ⟨hfile, presets_of_fileText hfile⟩

/-- **Each preset file is taken whole or not at all**, and for itself. The presets are what the
project's file contributes before what the user's does, and neither has a say in the other. A value
that is no entry, wherever it stands among those listed, takes away all that its file would
contribute and nothing else. -/
theorem presets_contributed (f : PresetFiles) :
    (∃ own users, Contributes f.project own ∧ Contributes f.user users ∧
      f.presets = own ++ users) ∧
    (∀ s ps ps', Contributes s ps → Contributes s ps' → ps = ps') ∧
    ∀ v vs bad text, JsonText v text → Lists v vs → bad ∈ vs → (∀ e, ¬EntryValue e bad) →
      (PresetFiles.mk (.holding (Text.Utf8.encode text)) f.user).presets = f.user.presets ∧
      (PresetFiles.mk f.project (.holding (Text.Utf8.encode text))).presets =
        f.project.presets := by
  refine ⟨?_, ?_, ?_⟩
  · exact ⟨f.project.presets, f.user.presets, FileState.contributes_iff.mpr rfl,
      FileState.contributes_iff.mpr rfl, rfl⟩
  · intro s ps ps' h h'
    rw [← FileState.contributes_iff.mp h, FileState.contributes_iff.mp h']
  · intro v vs bad text htext hlists hbad hentry
    have hnone := FileState.presets_of_bad htext hlists hbad hentry
    constructor
    · rw [PresetFiles.presets, hnone]
      rfl
    · rw [PresetFiles.presets, hnone]
      exact List.append_nil _

/-- A number for a hidden mark, behind two entries that are as they should be. -/
theorem presets_contributed_late :
    (PresetFiles.mk (.holding (Text.Utf8.encode "[[[\"a\"], [\"b\"], [\"c\", 1]]]".toList))
      (.holding (Text.Utf8.encode "[[[\"u\"]]]".toList))).presets = [⟨"u"⟩] := by
  have htext : JsonText (.array [.array [.array [.string [.char 'a']], .array [.string [.char 'b']],
      .array [.string [.char 'c'], .number]]]) "[[[\"a\"], [\"b\"], [\"c\", 1]]]".toList :=
    Value.ofText?_eq_some_iff.mp rfl
  have hbad : ∀ e, ¬EntryValue e (.array [.string [.char 'c'], .number]) := nofun
  obtain ⟨-, -, held⟩ := presets_contributed
    ⟨.absent, .holding (Text.Utf8.encode "[[[\"u\"]]]".toList)⟩
  rw [(held _ _ _ _ htext .alone (List.mem_of_getLast? rfl) hbad).1]
  decide +kernel

end PresetBuild
