import InstallerKit.Text.Utf8
import Mathlib.Tactic.SplitIfs

/-!
# Bytes that are text

The reader of UTF-8 takes each character from a lead byte and the continuation bytes that it
announces. The bounds on these leave one sequence of bytes for every character, and it is the one
that the character is written with. So a text that has been read is written as the same bytes.

* `Continues`: continuation bytes, and the character that they complete;
* `exists_of_decodeFrom_inside`: the bytes that complete a character are read first;
* `encodeChar_of_lead?`: a character is written with the bytes that it was read from;
* `encode_of_decode`: so is a text.
-/

namespace InstallerKit.Text.Utf8

variable {owed low high bits n : Nat} {b : UInt8} {bs rest : List UInt8}

/-- Bytes from the first that is still owed to the last, and the number of the character that
    they complete. -/
inductive Continues : (owed low high bits : Nat) → List UInt8 → (n : Nat) → Prop
  | last {low high bits : Nat} {b : UInt8} (hlow : low ≤ b.toNat) (hhigh : b.toNat ≤ high) :
      Continues 0 low high bits [b] (bits * 64 + (b.toNat - 0x80))
  | more {owed low high bits n : Nat} {b : UInt8} {rest : List UInt8} (hlow : low ≤ b.toNat)
      (hhigh : b.toNat ≤ high)
      (hrest : Continues owed 0x80 0xbf (bits * 64 + (b.toNat - 0x80)) rest n) :
      Continues (owed + 1) low high bits (b :: rest) n

theorem map_cons_eq_ok_iff {ε : Type} {x : Except ε (List Char)} {c : Char} {cs : List Char} :
    (c :: ·) <$> x = .ok cs ↔ ∃ cs', x = .ok cs' ∧ cs = c :: cs' := by
  cases x <;> simp [Functor.map, Except.map, eq_comm]

/-- Inside a character, the bytes that complete it are read first. -/
theorem exists_of_decodeFrom_inside {first pos : Nat} {lead : UInt8} {cs : List Char}
    (h : decodeFrom (.inside first lead owed low high bits) pos bs = .ok cs) :
    ∃ conts rest n cs' pos', bs = conts ++ rest ∧ Continues owed low high bits conts n ∧
      cs = Char.ofNat n :: cs' ∧ decodeFrom .between pos' rest = .ok cs' := by
  induction owed generalizing low high bits bs pos with
  | zero =>
    cases bs with
    | nil => simp [decodeFrom] at h
    | cons b bs =>
      rw [decodeFrom] at h
      split at h
      · next hb =>
        obtain ⟨cs', hrest, rfl⟩ := map_cons_eq_ok_iff.1 h
        exact ⟨[b], bs, _, cs', _, rfl, .last hb.1 hb.2, rfl, hrest⟩
      · cases h
  | succ owed ih =>
    cases bs with
    | nil => simp [decodeFrom] at h
    | cons b bs =>
      rw [decodeFrom] at h
      split at h
      · next hb =>
        obtain ⟨conts, rest, n, cs', pos', rfl, hconts, rfl, hrest⟩ := ih h
        exact ⟨b :: conts, rest, n, cs', pos', rfl, .more hb.1 hb.2 hconts, rfl, hrest⟩
      · cases h

theorem toNat_ofNat (h : n.isValidChar) : (Char.ofNat n).toNat = n := by
  rw [Char.ofNat, dif_pos h]
  rfl

theorem ofNat_eq {m : Nat} (h : m = b.toNat) : UInt8.ofNat m = b := by
  rw [h, UInt8.ofNat_toNat]

section Char

variable {b₁ b₂ b₃ : UInt8} (h₁ : 0x80 ≤ b₁.toNat ∧ b₁.toNat ≤ 0xbf)
  (h₂ : 0x80 ≤ b₂.toNat ∧ b₂.toNat ≤ 0xbf) (h₃ : 0x80 ≤ b₃.toNat ∧ b₃.toNat ≤ 0xbf)
include h₁

theorem encodeChar_two (hb : 0xc2 ≤ b.toNat ∧ b.toNat < 0xe0)
    (hn : n = (b.toNat - 0xc0) * 64 + (b₁.toNat - 0x80)) :
    encodeChar (Char.ofNat n) = [b, b₁] := by
  rw [encodeChar, toNat_ofNat (.inl (by omega)), if_neg (by omega), if_pos (by omega),
    ofNat_eq (b := b) (by omega), ofNat_eq (b := b₁) (by omega)]

include h₂

theorem encodeChar_three (hb : 0xe0 ≤ b.toNat ∧ b.toNat < 0xf0)
    (hn : n = ((b.toNat - 0xe0) * 64 + (b₁.toNat - 0x80)) * 64 + (b₂.toNat - 0x80))
    (hlong : 0x800 ≤ n) (hsurrogate : n < 0xd800 ∨ 0xdfff < n) :
    encodeChar (Char.ofNat n) = [b, b₁, b₂] := by
  have hvalid : n.isValidChar := hsurrogate.imp id fun h => ⟨h, by omega⟩
  rw [encodeChar, toNat_ofNat hvalid, if_neg (by omega), if_neg (by omega), if_pos (by omega),
    ofNat_eq (b := b) (by omega), ofNat_eq (b := b₁) (by omega), ofNat_eq (b := b₂) (by omega)]

include h₃

theorem encodeChar_four (hb : 0xf0 ≤ b.toNat ∧ b.toNat < 0xf5)
    (hn : n = (((b.toNat - 0xf0) * 64 + (b₁.toNat - 0x80)) * 64 + (b₂.toNat - 0x80)) * 64 +
      (b₃.toNat - 0x80))
    (hlong : 0x10000 ≤ n) (hlast : n < 0x110000) :
    encodeChar (Char.ofNat n) = [b, b₁, b₂, b₃] := by
  rw [encodeChar, toNat_ofNat (.inr ⟨by omega, hlast⟩), if_neg (by omega), if_neg (by omega),
    if_neg (by omega), ofNat_eq (b := b) (by omega), ofNat_eq (b := b₁) (by omega),
    ofNat_eq (b := b₂) (by omega), ofNat_eq (b := b₃) (by omega)]

end Char

theorem encodeChar_of_lead?_zero (hlead : lead? b.toNat = some ⟨0, low, high, bits⟩) :
    encodeChar (Char.ofNat bits) = [b] := by
  unfold lead? at hlead
  split_ifs at hlead with hone <;> cases hlead
  rw [encodeChar, toNat_ofNat (.inl (by omega)), if_pos hone, UInt8.ofNat_toNat]

/-- A character is written with the bytes that it was read from. -/
theorem encodeChar_of_lead? {conts : List UInt8}
    (hlead : lead? b.toNat = some ⟨owed + 1, low, high, bits⟩)
    (hconts : Continues owed low high bits conts n) :
    encodeChar (Char.ofNat n) = b :: conts := by
  unfold lead? at hlead
  -- The bounds on the first continuation byte leave out what is written with fewer bytes, the
  -- surrogates, and what lies beyond the last character.
  split_ifs at hlead with hone hstray htwo he0 hed hthree hf0 hfour hf4 <;> cases hlead
  · obtain ⟨hlow, hhigh⟩ | _ := hconts
    exact encodeChar_two ⟨hlow, hhigh⟩ ⟨by omega, htwo⟩ rfl
  iterate 3
    obtain _ | ⟨hlow, hhigh, ⟨hlow', hhigh'⟩ | _⟩ := hconts
    exact encodeChar_three (by omega) ⟨hlow', hhigh'⟩ (by omega) (by omega) (by omega) (by omega)
  all_goals
    obtain _ | ⟨hlow, hhigh, _ | ⟨hlow', hhigh', ⟨hlow'', hhigh''⟩ | _⟩⟩ := hconts
    exact encodeChar_four (by omega) ⟨hlow', hhigh'⟩ ⟨hlow'', hhigh''⟩ (by omega) (by omega)
      (by omega) (by omega)

theorem encode_of_decodeFrom {pos : Nat} {cs : List Char}
    (h : decodeFrom .between pos bs = .ok cs) : encode cs = bs := by
  -- A character may take several bytes, so the induction is on their number.
  induction hlength : bs.length using Nat.strongRecOn generalizing bs pos cs with
  | ind length ih =>
    cases bs with
    | nil =>
      obtain rfl := Except.ok.inj h
      rfl
    | cons b bs =>
      rw [decodeFrom] at h
      split at h
      · cases h
      · next low high bits hlead =>
        obtain ⟨cs', hrest, rfl⟩ := map_cons_eq_ok_iff.1 h
        rw [encode, List.flatMap_cons, encodeChar_of_lead?_zero hlead, List.singleton_append]
        exact congrArg (b :: ·) (ih bs.length (by simp [← hlength]) hrest rfl)
      · next owed low high bits hlead =>
        obtain ⟨conts, rest, n, cs', pos', rfl, hconts, rfl, hrest⟩ :=
          exists_of_decodeFrom_inside h
        rw [encode, List.flatMap_cons, encodeChar_of_lead? hlead hconts, List.cons_append]
        have hshort : rest.length < length := by
          rw [← hlength, List.length_cons, List.length_append]
          omega
        exact congrArg (b :: conts ++ ·) (ih rest.length hshort hrest rfl)

/-- A text is written as the bytes that it was read from. -/
theorem encode_of_decode {cs : List Char} (h : decode bs = .ok cs) : encode cs = bs :=
  encode_of_decodeFrom h

end InstallerKit.Text.Utf8
