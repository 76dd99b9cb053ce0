import BillingConsole.Json.Reader
import BillingConsole.Text.Percent
import Mathlib.Data.List.Basic

/-!
# Percent escapes read back

A reader of percent escapes that was written against the format and not against the writer: an
escape stands for its byte, anything else for its own UTF-8 bytes, and the bytes are a text if they
are UTF-8.

## What is here

* `percentBytes`, `percentDecode?` — the reader.
* `percentBytes_percentEncode`, `percentDecode?_percentEncode` — **what was escaped is read back**,
  whatever characters were kept, as long as the percent sign was not one of them.
* `mem_percentEncode` — all that is written are kept characters and escapes.
-/

set_option autoImplicit false

namespace BillingConsole

open Json (hexValue?)

/-- The bytes that a text with percent escapes stands for.  A percent sign without two hexadecimal
digits behind it stands for itself. -/
def percentBytes : List Char → List UInt8
  | [] => []
  | '%' :: high :: low :: rest =>
    match hexValue? high, hexValue? low with
    | some m, some n => UInt8.ofNat (m * 16 + n) :: percentBytes rest
    | _, _ => String.utf8EncodeChar '%' ++ percentBytes (high :: low :: rest)
  | c :: rest => String.utf8EncodeChar c ++ percentBytes rest

/-- The text that a text with percent escapes stands for, if its bytes are one. -/
def percentDecode? (text : List Char) : Option String :=
  (percentBytes text).toByteArray.utf8Decode?.map fun chars => String.ofList chars.toList

/-! ## One escape -/

theorem hexValue?_capitalHexDigit {n : Nat} (h : n < 16) :
    hexValue? (capitalHexDigit n) = some n := by
  have all : ∀ n : Fin 16, hexValue? (capitalHexDigit n) = some n.val := by decide
  exact all ⟨n, h⟩

/-- The two digits of an escape are ordinary letters and digits. -/
theorem isAlphanum_capitalHexDigit {n : Nat} (h : n < 16) :
    (capitalHexDigit n).isAlphanum = true := by
  have all : ∀ n : Fin 16, (capitalHexDigit n).isAlphanum = true := by decide
  exact all ⟨n, h⟩

theorem percentBytes_percentEscape (byte : UInt8) (rest : List Char) :
    percentBytes (percentEscape byte ++ rest) = byte :: percentBytes rest := by
  have hlt : byte.toNat < 256 := byte.toNat_lt
  have hhigh : byte.toNat / 16 < 16 := by omega
  have hlow : byte.toNat % 16 < 16 := by omega
  have hbyte : byte.toNat / 16 * 16 + byte.toNat % 16 = byte.toNat := by omega
  simp [percentEscape, percentBytes, hexValue?_capitalHexDigit hhigh,
    hexValue?_capitalHexDigit hlow, hbyte]

theorem percentBytes_cons_of_ne {c : Char} (h : c ≠ '%') (rest : List Char) :
    percentBytes (c :: rest) = String.utf8EncodeChar c ++ percentBytes rest := by
  rw [percentBytes.eq_def]
  split
  · contradiction
  · next heq => exact absurd (List.cons.inj heq).1 h
  · next heq => cases heq; rfl

/-! ## Whole texts -/

theorem percentBytes_escapes (bytes : List UInt8) (rest : List Char) :
    percentBytes (bytes.flatMap percentEscape ++ rest) = bytes ++ percentBytes rest := by
  induction bytes with
  | nil => rfl
  | cons byte bytes ih =>
    rw [List.flatMap_cons, List.append_assoc, percentBytes_percentEscape, ih, List.cons_append]

/-- The bytes of a text come back from its escapes. -/
theorem percentBytes_percentEncode {keep : Char → Bool} (hkeep : keep '%' = false)
    (text rest : List Char) :
    percentBytes (percentEncode keep text ++ rest) =
      text.flatMap String.utf8EncodeChar ++ percentBytes rest := by
  induction text with
  | nil => rfl
  | cons c text ih =>
    have hcons : percentEncode keep (c :: text) =
        (if keep c then [c] else (String.utf8EncodeChar c).flatMap percentEscape) ++
          percentEncode keep text := rfl
    rw [hcons, List.append_assoc, List.flatMap_cons, List.append_assoc, ← ih]
    by_cases hc : keep c = true
    · have hne : c ≠ '%' := fun heq => by simp [heq, hkeep] at hc
      rw [if_pos hc, List.singleton_append, percentBytes_cons_of_ne hne]
    · rw [if_neg hc, percentBytes_escapes]

/-- **What was escaped is read back.** -/
theorem percentDecode?_percentEncode {keep : Char → Bool} (hkeep : keep '%' = false)
    (text : List Char) : percentDecode? (percentEncode keep text) = some (String.ofList text) := by
  have hbytes := percentBytes_percentEncode hkeep text []
  rw [List.append_nil, percentBytes, List.append_nil] at hbytes
  have hdecode : (text.flatMap String.utf8EncodeChar).toByteArray.utf8Decode? =
      some text.toArray := by
    rw [← List.utf8Decode?_utf8Encode, List.utf8Encode]
  rw [percentDecode?, hbytes, hdecode]
  rfl

/-- All that is written are kept characters, percent signs and the digits of escapes. -/
theorem mem_percentEncode {keep : Char → Bool} {text : List Char} {c : Char}
    (h : c ∈ percentEncode keep text) : keep c = true ∨ c = '%' ∨ c.isAlphanum = true := by
  obtain ⟨source, -, hc⟩ := List.mem_flatMap.1 h
  by_cases hsource : keep source = true
  · rw [if_pos hsource, List.mem_singleton] at hc
    exact .inl (hc ▸ hsource)
  · rw [if_neg hsource] at hc
    obtain ⟨byte, -, hbyte⟩ := List.mem_flatMap.1 hc
    have hlt : byte.toNat < 256 := byte.toNat_lt
    simp only [percentEscape, List.mem_cons, List.not_mem_nil, or_false] at hbyte
    rcases hbyte with rfl | rfl | rfl
    · exact .inr (.inl rfl)
    · exact .inr (.inr (isAlphanum_capitalHexDigit (by omega)))
    · exact .inr (.inr (isAlphanum_capitalHexDigit (by omega)))

end BillingConsole
