import Mathlib.Tactic
import SerialFrame.Json.Printer

/-!
# Strings read back

What is written for a character inside a string is read as that character, so a written text reads
back (`readString_written`).
-/

namespace SerialFrame.Json

theorem hexUnit?_unitEscape : ∀ unit < 0x20, ∃ a b c d,
    unitEscape unit = ['\\', 'u', a, b, c, d] ∧ hexUnit? a b c d = some unit := by
  intro unit h
  refine ⟨_, _, _, _, rfl, ?_⟩
  revert unit
  decide +kernel

theorem stringItems_unitEscape {unit : Nat} (h : unit < 0x20) (rest : List Char) :
    stringItems (unitEscape unit ++ rest) =
      (stringItems rest).map fun (items, rest) => (.char (Char.ofNat unit) :: items, rest) := by
  obtain ⟨a, b, c, d, hescape, hunit⟩ := hexUnit?_unitEscape unit h
  have hitem : StringItem.ofUnit unit = .char (Char.ofNat unit) := if_neg (by omega)
  rw [hescape]
  simp only [List.cons_append, List.nil_append, stringItems, hunit, Option.bind_eq_bind,
    Option.bind_some, hitem]
  cases stringItems rest <;> rfl

theorem stringItems_escaped {e c : Char} (h : escaped? e = some c) (rest : List Char) :
    stringItems ('\\' :: e :: rest) =
      (stringItems rest).map fun (items, rest) => (.char c :: items, rest) := by
  rw [stringItems, h]
  · cases stringItems rest <;> rfl
  · rintro _ _ _ _ _ rfl
    cases h

theorem stringItems_charEscape (c : Char) (rest : List Char) :
    stringItems (charEscape c ++ rest) =
      (stringItems rest).map fun (items, rest) => (.char c :: items, rest) := by
  unfold charEscape
  split
  case h_8 hquote hbackslash _ _ _ _ _ =>
    by_cases hcontrol : c.toNat < 0x20
    · rw [if_pos hcontrol, stringItems_unitEscape hcontrol, Char.ofNat_toNat]
    · rw [if_neg hcontrol, List.singleton_append, stringItems]
      · rw [if_neg (not_or.mpr ⟨hcontrol, hbackslash⟩)]
        cases stringItems rest <;> rfl
      · exact hquote
      · exact fun _ _ _ _ _ h => absurd h hbackslash
      · exact fun _ _ h => absurd h hbackslash
  all_goals exact stringItems_escaped rfl rest

theorem joinPairs_chars (cs : List Char) : joinPairs (cs.map .char) = cs.map .char := by
  induction cs with
  | nil => rfl
  | cons c cs ih =>
    rw [List.map_cons, joinPairs, ih]
    simp

theorem readString_written (text : String) (rest : List Char) :
    readString ((Text.ofString text).flatMap StringItem.written ++ '"' :: rest) =
      some (.ofString text, rest) := by
  have hitems : ∀ cs : List Char,
      stringItems ((cs.map StringItem.char).flatMap StringItem.written ++ '"' :: rest) =
        some (cs.map .char, rest) := by
    intro cs
    induction cs with
    | nil => rfl
    | cons c cs ih =>
      rw [List.map_cons, List.flatMap_cons, List.append_assoc, StringItem.written,
        stringItems_charEscape, ih]
      rfl
  rw [readString, Text.ofString, hitems, Option.map_some]
  dsimp only
  rw [joinPairs_chars]

end SerialFrame.Json
