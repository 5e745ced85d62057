import PresetBuild.Machine
import PresetBuild.Proofs.Text.Malformed

/-!
# What the build tool's listing is taken for

The listing is whatever bytes the build tool writes to standard output. It is taken for a text if it
is exactly the bytes of one, and then for that text; otherwise it is a fault that says where the
bytes go wrong, and no presets are found, not even those that stand before the fault
(`listing_captured_whole`). What the build tool writes to standard error, how it ends and how long
it takes has no part in this.
-/

namespace PresetBuild

open Text.Utf8 (Malformed decode encode decode_eq_ok_iff)

/-! ## One program's output -/

variable {bytes : List UInt8} {text : String}

/-- Output is a text exactly if it is the bytes of that text. -/
theorem Machine.textOf_eq_ok_iff : textOf bytes = .ok text ↔ bytes = encode text.toList := by
  rw [← decode_eq_ok_iff, textOf]
  cases decode bytes with
  | error malformed => exact ⟨nofun, nofun⟩
  | ok chars =>
    show Except.ok (String.ofList chars) = .ok text ↔ _
    rw [Except.ok.injEq, Except.ok.injEq, ← String.toList_inj, String.toList_ofList]

/-- Output that is refused is a fault which says why. -/
theorem Machine.textOf_eq_error {malformed : Malformed} (h : decode bytes = .error malformed) :
    textOf bytes = .error (.notText malformed) := by
  rw [textOf, h]

/-! ## The listing -/

section Listing

variable {m : Machine} {s : Session} {status : Status} {bytes stderr : List UInt8} {took : Elapsed}

/-- What is captured where the build tool has run is what it wrote to standard output. -/
theorem Machine.capture_listPresets {finished : Finished}
    (ran : m.start s.calls ["cmake", "--list-presets"] = .ok finished) :
    (m.capture .listPresets s).1.text = textOf finished.stdout := by
  show (capturedOf (m.start s.calls ["cmake", "--list-presets"])).text = _
  rw [ran]
  rfl

/-- **The listing is captured strictly and wholly.** It is a text exactly if the bytes written are
the bytes of that text, and the presets are the text's then. Bytes of no text are a fault of invalid
data: its wording gives the length of their longest beginning that is a text's, and calls them
incomplete exactly if some bytes behind them would make them a text's; and there are no presets. -/
theorem listing_captured_whole (files : PresetFiles)
    (ran : m.start s.calls ["cmake", "--list-presets"] = .ok ⟨status, bytes, stderr, took⟩) :
    (∀ text : String, (m.capture .listPresets s).1.text = .ok text ↔ bytes = encode text.toList) ∧
    (∀ text : String, bytes = encode text.toList →
      (m.discover .listing files s).1.presets = Listing.presets text) ∧
    ((∀ text, bytes ≠ encode text) → ∃ fault valid,
      (m.capture .listPresets s).1.text = .error fault ∧ fault.kind = .invalidData ∧
      IsGreatest {n | ∃ text, encode text <+: bytes ∧ (encode text).length = n} valid ∧
      (fault.message = "incomplete utf-8 byte sequence from index " ++ toString valid ∨
        ∃ n, fault.message = "invalid utf-8 sequence of " ++ toString (n : Nat) ++
          " bytes from index " ++ toString valid) ∧
      (fault.message = "incomplete utf-8 byte sequence from index " ++ toString valid ↔
        ∃ more text, bytes ++ more = encode text) ∧
      (m.discover .listing files s).1.presets = []) := by
  have hcapture := Machine.capture_listPresets ran
  have hdiscover : (m.discover .listing files s).1.presets =
      Listing.ofCapture (m.capture .listPresets s).1.text := rfl
  rw [hdiscover, hcapture]
  refine ⟨fun text => Machine.textOf_eq_ok_iff, ?_, ?_⟩
  · intro text htext
    rw [Machine.textOf_eq_ok_iff.mpr htext]
    rfl
  · intro hnone
    obtain ⟨malformed, hmalformed⟩ := Text.Utf8.exists_malformed_iff.mpr hnone
    rw [Machine.textOf_eq_error hmalformed]
    refine ⟨_, malformed.valid, rfl, rfl, Text.Utf8.isGreatest_valid hmalformed, ?_, ?_, rfl⟩
    · show malformed.message = _ ∨ ∃ n, malformed.message = _
      unfold Malformed.message
      cases malformed.length with
      | none => exact .inl rfl
      | some n => exact .inr ⟨n, rfl⟩
    · exact malformed.message_eq_iff.trans (Text.Utf8.length_eq_none_iff hmalformed)

/-- A listing that breaks off inside a character, from a build tool that was killed: the preset
before the break is not found. -/
theorem listing_captured_whole_broken :
    let bytes := encode "heading\n\n\"a\"\n\"b".toList ++ [0xE2, 0x82]
    let m : Machine := ⟨fun _ _ => .ok ⟨.killed 9, bytes, [0xFF], ⟨0⟩⟩⟩
    let files : PresetFiles := ⟨.absent, .absent⟩
    m.start [] ["cmake", "--list-presets"] = .ok ⟨.killed 9, bytes, [0xFF], ⟨0⟩⟩ ∧
      (∀ text, bytes ≠ encode text) ∧
      (∃ fault valid, (m.capture .listPresets ⟨[]⟩).1.text = .error fault ∧
        IsGreatest {n | ∃ text, encode text <+: bytes ∧ (encode text).length = n} valid ∧
        fault.message = "incomplete utf-8 byte sequence from index " ++ toString valid) ∧
      (m.discover .listing files ⟨[]⟩).1.presets = [] ∧
      Listing.presets "heading\n\n\"a\"\n\"b" = [⟨"a"⟩] := by
  intro bytes m files
  have hnone : ∀ text, bytes ≠ encode text :=
    Text.Utf8.exists_malformed_iff.mp ⟨⟨15, none⟩, rfl⟩
  have hmore : bytes ++ [0xAC] = encode "heading\n\n\"a\"\n\"b€".toList := by decide +kernel
  obtain ⟨-, -, hfault⟩ := @listing_captured_whole m ⟨[]⟩ (.killed 9) bytes [0xFF] ⟨0⟩ files rfl
  obtain ⟨fault, valid, hcapture, -, hgreatest, -, hincomplete, hpresets⟩ := hfault hnone
  exact ⟨rfl, hnone, ⟨fault, valid, hcapture, hgreatest, hincomplete.mpr ⟨_, _, hmore⟩⟩, hpresets,
    by decide +kernel⟩

end Listing

end PresetBuild
