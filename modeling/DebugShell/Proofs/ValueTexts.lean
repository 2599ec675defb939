import DebugShell.Config
import DebugShell.Proofs.Blank
import DebugShell.Proofs.Numeral

/-!
# Values are read back from their texts

Versions, addresses, modes and Booleans have texts that show them, and readers that take more than
those texts: blanks around a version, addresses in either base, capitals. What matters here is that
each reader takes the text that shows a value as that value. For the numbers in them this is
`Numeral.unsigned?_toDigits`; the rest is that digits are neither blanks nor points.
-/

namespace DebugShell

/-- Values are told apart by texts from which they are read back. -/
theorem injective_of_read {α ε : Type} {write : α → String} {read : String → Except ε α}
    (h : ∀ a, read (write a) = .ok a) : Function.Injective write := by
  intro a b heq
  have hread : (.ok a : Except ε α) = .ok b := by
    rw [← h a, ← h b, heq]
  exact Except.ok.inj hread

/-- The characters of a written version. -/
theorem Version.toList_toString (v : Version) :
    (toString v).toList =
      Nat.toDigits 10 v.major.toNat ++ '.' :: Nat.toDigits 10 v.minor.toNat := by
  change (toString v.major.toNat ++ "." ++ toString v.minor.toNat).toList = _
  rw [String.toList_append, String.toList_append, Numeral.toList_toString,
    Numeral.toList_toString, List.append_assoc]
  rfl

/-- A number of 32 bits is read back from its digits. -/
theorem Version.part?_toDigits (n : UInt32) : part? (Nat.toDigits 10 n.toNat) = some n := by
  have hread : Numeral.unsigned? 10 UInt32.size (Nat.toDigits 10 n.toNat) = some n.toNat :=
    Numeral.unsigned?_toDigits (by decide) (by decide) n.toNat_lt
  rw [part?, hread, Option.map_some, UInt32.ofNat_toNat]

/-- A version is read back from the text that writes it. -/
theorem Version.ofString_toString (v : Version) : ofString (toString v) = .ok v := by
  have hdigit {n : Nat} {c : Char} (hc : c ∈ Nat.toDigits 10 n) :
      Text.isBlank c = false ∧ (c != '.') = true := by
    have hdigit := Numeral.isDigit_of_valueFrom
      (Numeral.valueFrom_toDigits (by decide) (by decide) n) c hc
    refine ⟨Numeral.isBlank_of_isDigit hdigit, ?_⟩
    rw [bne_iff_ne]
    rintro rfl
    cases hdigit
  have htrim : Text.trim (toString v).toList = (toString v).toList := by
    refine Text.trim_of_not_blank fun c hc => ?_
    rw [toList_toString, List.mem_append, List.mem_cons] at hc
    rcases hc with hc | rfl | hc
    · exact (hdigit hc).1
    · rfl
    · exact (hdigit hc).1
  -- The digits before the point are all that stands before the first point.
  have hbefore : ∀ c ∈ Nat.toDigits 10 v.major.toNat, (c != '.') = true :=
    fun c hc => (hdigit hc).2
  unfold ofString
  dsimp only
  rw [htrim, toList_toString, List.takeWhile_append_of_pos hbefore,
    List.dropWhile_append_of_pos hbefore]
  simp [part?_toDigits]

/-- An address is read back from its hexadecimal numeral. -/
theorem addressOfString_hex (a : UInt64) : addressOfString (Numeral.hex a.toNat) = .ok a := by
  have htrim : Text.trim (Numeral.hex a.toNat).toList = (Numeral.hex a.toNat).toList := by
    refine Text.trim_of_not_blank fun c hc => ?_
    rw [Numeral.toList_hex, List.mem_cons, List.mem_cons] at hc
    rcases hc with rfl | rfl | hc
    · rfl
    · rfl
    · exact Numeral.isBlank_of_mem_toDigits (by decide) (by decide) hc
  have hread : Numeral.unsigned? 16 UInt64.size (Nat.toDigits 16 a.toNat) = some a.toNat :=
    Numeral.unsigned?_toDigits (by decide) (by decide) a.toNat_lt
  unfold addressOfString
  dsimp only
  rw [htrim, Numeral.toList_hex, Numeral.afterHexMark?]
  dsimp only
  rw [hread]
  dsimp only
  rw [UInt64.ofNat_toNat]

/-- A mode is read back from its name. -/
theorem ResolutionMode.ofString_toString (mode : ResolutionMode) :
    ofString (toString mode) = .ok mode := by
  cases mode <;> rfl

/-- A Boolean is read back from the text that shows it. -/
theorem switchOfString_switchText (b : Bool) : switchOfString (Config.switchText b) = .ok b := by
  cases b <;> rfl

end DebugShell
