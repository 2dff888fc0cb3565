/-!
# Texts as bytes

The bytes of a text in UTF-8, and the text that bytes stand for.
-/

namespace Gatehouse

abbrev Bytes := List UInt8

namespace Text

def utf8 (s : String) : Bytes := s.toUTF8.data.toList

/-- The text that bytes stand for, if they are well formed. -/
def ofUtf8? (bytes : Bytes) : Option String := String.fromUTF8? ⟨bytes.toArray⟩

@[simp] theorem ofUtf8?_utf8 (s : String) : ofUtf8? (utf8 s) = some s := by
  have hvalid : s.toUTF8.IsValidUTF8 := s.isValidUTF8
  have hbytes : (⟨(utf8 s).toArray⟩ : ByteArray) = s.toUTF8 := rfl
  rw [ofUtf8?, hbytes, String.fromUTF8?, dif_pos hvalid]
  rfl

/-- Bytes stand for a text when they are its bytes. -/
theorem ofUtf8?_eq_some_iff {bytes : Bytes} {s : String} : ofUtf8? bytes = some s ↔ bytes = utf8 s := by
  constructor
  · intro hread
    rw [ofUtf8?, String.fromUTF8?] at hread
    split at hread
    · cases hread
      rfl
    · cases hread
  · rintro rfl
    exact ofUtf8?_utf8 s

theorem utf8_injective {s t : String} (hbytes : utf8 s = utf8 t) : s = t := by
  have htext := ofUtf8?_utf8 s
  rw [hbytes, ofUtf8?_utf8] at htext
  exact (Option.some.inj htext).symm

/-- The longest start of bytes that stands for a text, among those of at most `n` bytes, and the bytes
behind it. -/
def splitTextAt (bytes : Bytes) : Nat → String × Bytes
  | 0 => ("", bytes)
  | n + 1 =>
    match ofUtf8? (bytes.take (n + 1)) with
    | some text => (text, bytes.drop (n + 1))
    | none => splitTextAt bytes n

/-- The longest start of bytes that stands for a text, and the bytes behind it. -/
def splitText (bytes : Bytes) : String × Bytes := splitTextAt bytes bytes.length

/-- Nothing is lost when a text is split off. -/
theorem eq_append_of_splitText {bytes rest : Bytes} {text : String}
    (hsplit : splitText bytes = (text, rest)) : bytes = utf8 text ++ rest := by
  suffices hat : ∀ n, splitTextAt bytes n = (text, rest) → bytes = utf8 text ++ rest from hat _ hsplit
  intro n hat
  induction n with
  | zero =>
      cases hat
      rfl
  | succ n ih =>
      rw [splitTextAt] at hat
      split at hat
      · next found hfound =>
          cases hat
          rw [← ofUtf8?_eq_some_iff.1 hfound, List.take_append_drop]
      · exact ih hat

/-- Nothing is left behind the bytes of a text. -/
@[simp] theorem splitText_utf8 (s : String) : splitText (utf8 s) = (s, []) := by
  rw [splitText]
  cases hlength : (utf8 s).length with
  | zero =>
      have hnone : utf8 s = utf8 "" := List.eq_nil_of_length_eq_zero hlength
      rw [utf8_injective hnone]
      rfl
  | succ n => rw [splitTextAt, ← hlength, List.take_length, ofUtf8?_utf8, List.drop_length]

theorem splitText_eq_nil_iff {bytes : Bytes} {text : String} :
    splitText bytes = (text, []) ↔ bytes = utf8 text := by
  constructor
  · intro hsplit
    rw [eq_append_of_splitText hsplit, List.append_nil]
  · rintro rfl
    exact splitText_utf8 text

/-- Bytes below 128 read as characters of the same number. -/
def ofAscii (bytes : Bytes) : String :=
  String.ofList (bytes.map fun b => Char.ofNat b.toNat)

end Text

end Gatehouse
